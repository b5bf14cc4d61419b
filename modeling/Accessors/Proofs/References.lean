import Accessors.Proofs.Bodies
import Accessors.Proofs.Sequences

namespace Accessors

namespace Grammar

open Rule

theorem toNat_sub_lt_of_isDigit {c : Char} (h : c.isDigit = true) :
    c.toNat - '0'.toNat < 10 := by
  simp only [Char.isDigit, Bool.and_eq_true, decide_eq_true_eq, UInt32.le_iff_toNat_le] at h
  have h₉ : c.toNat ≤ 57 := h.2
  have h₀ : '0'.toNat = 48 := rfl
  omega

theorem tupleIndex?_of_digits {text : String} (hne : text.toList ≠ [])
    (hd : ∀ c ∈ text.toList, c.isDigit = true)
    (hn : Nat.ofDigitChars 10 text.toList 0 < UInt32.size) :
    tupleIndex? text = some (Nat.ofDigitChars 10 text.toList 0) := by
  have hnum : Ahead.isNumber text = true := by
    rw [Ahead.isNumber]
    cases h : text.toList
    case nil => exact absurd h hne
    case cons c cs => exact hd c (h ▸ List.mem_cons_self)
  have hf : text.toList.filter (· != '_') = text.toList := by
    rw [List.filter_eq_self]
    intro c hc
    rw [bne_iff_ne]
    rintro rfl
    cases hd _ hc
  have hv : text.toList.map Text.hexValue? = text.toList.map fun c => some (c.toNat - '0'.toNat) :=
    List.map_congr_left fun c hc => if_pos (hd c hc)
  have hs : (text.toList.map fun c => some (c.toNat - '0'.toNat)).any (·.all (10 ≤ ·)) = false := by
    simp only [List.any_map, List.any_eq_false, Function.comp, Option.all_some, decide_eq_true_eq]
    exact fun c hc => Nat.not_le_of_lt (toNat_sub_lt_of_isDigit (hd c hc))
  have hi : (text.toList.map fun c => some (c.toNat - '0'.toNat)).filterMap id =
      text.toList.map fun c => c.toNat - '0'.toNat := by
    rw [List.filterMap_map]
    exact congrFun List.filterMap_eq_map _
  unfold tupleIndex?
  split
  case h_1 base digits h =>
    split at h
    case h_4 =>
      cases h
      have he : (text.toList.map fun c => some (c.toNat - '0'.toNat)).isEmpty = false := by
        rw [List.isEmpty_map, List.isEmpty_eq_false_iff]
        exact hne
      have hfold : (text.toList.map fun c => c.toNat - '0'.toNat).foldl (10 * · + ·) 0 =
          Nat.ofDigitChars 10 text.toList 0 := List.foldl_map
      simp only [hf, hv, hnum, he, hs, hi, hfold]
      exact if_pos hn
    all_goals
      cases hd _ (by rw [‹text.toList = _›]; exact .tail _ (.head _))

theorem toList_toString (n : Nat) : (toString n).toList = Nat.toDigits 10 n := by
  rw [Nat.toString_eq_ofList_toDigits, String.toList_ofList]

theorem isDigit_of_mem_toString {n : Nat} {c : Char} (hc : c ∈ (toString n).toList) :
    c.isDigit = true :=
  Nat.isDigit_of_mem_toDigits (by decide) (by decide) (toList_toString n ▸ hc)

theorem tupleIndex?_toString {n : Nat} (hn : n < UInt32.size) :
    tupleIndex? (toString n) = some n := by
  have hv : Nat.ofDigitChars 10 (toString n).toList 0 = n := by
    rw [toList_toString, Nat.ofDigitChars_ten_toDigits]
  have hne : (toString n).toList ≠ [] := by
    rw [toList_toString]
    exact Nat.toDigits_ne_nil
  have h := tupleIndex?_of_digits hne (fun _ => isDigit_of_mem_toString) (hv.symm ▸ hn)
  rwa [hv] at h

-- What a field is selected in front of, so that nothing goes on with it.
def endsSelection : Ahead :=
  .not (.any [.punct "::", .group .paren, .only "." [".."], .group .bracket, .punct "?"])

variable (self : Rules) {ts : List Token}

theorem endsSelection_iff : endsSelection ts = true ↔ Ahead.punct "::" ts = false ∧
    Ahead.group .paren ts = false ∧ Ahead.only "." [".."] ts = false ∧
    Ahead.group .bracket ts = false ∧ Ahead.punct "?" ts = false := by
  simp [endsSelection, Ahead.not, Ahead.any]

theorem run_named (hts : endsSelection ts = true) {i : Ident}
    (hi : Ahead.reserved.contains i.text = false) :
    (selection.named self).run (.ident i :: ts) = some ([.token (.ident i)], ts) := by
  have hm : member.run (.ident i :: ts) = some (([.token (.ident i)], true), ts) := by
    rw [member, run_whether, Ahead.ident_of_not_reserved hi]
    exact run_bind_of (run_identCode hi)
  obtain ⟨hc, hp, _⟩ := endsSelection_iff.mp hts
  rw [selection.named, run_whether, Ahead.keyword_of_not_reserved hi (by decide), if_neg nofun,
    run_bind_of hm]
  refine (run_bind_of (run_maybe_of_not hc)).trans ?_
  exact run_bind_of (run_sees_of hp)

theorem run_indexed {n : Nat} (hn : n < UInt32.size) :
    (selection.named self).run (.number n :: ts) = some ([.token (.number n)], ts) := by
  have hm : member.run (.number n :: ts) = some (([.token (.number n)], false), ts) := by
    rw [member, run_whether, if_neg (by rintro ⟨⟩), run_bind_of rfl]
    simp only [Token.number, tupleIndex?_toString hn]
    rfl
  rw [selection.named, run_whether, if_neg (by rintro ⟨⟩), run_bind_of hm]
  rfl

-- Only a name that is not reserved can be selected.
def Selectable : Access → Prop
  | .named name => Ahead.reserved.contains name.text = false
  | .indexed _ => True

theorem run_selection (hts : endsSelection ts = true) {a : Access} (ha : Selectable a) :
    (selection self).run (Token.operator "." ++ a.token :: ts) =
      some (Code.ofTokens (Token.operator "." ++ [a.token]), ts) := by
  have hg (ts : List Token) : (get : Rule _).run ts = some (ts, ts) := rfl
  rw [selection, run_bind_of (run_punct "."), run_bind_of (hg _)]
  cases a
  case named i => exact run_bind_of (run_named self hts ha)
  case indexed n =>
    have hn : (toString n.toNat).contains '.' = false := by
      rw [String.contains_char_eq, decide_eq_false_iff_not]
      exact fun h => absurd (isDigit_of_mem_toString h) (by decide)
    show StateT.run (if (Ahead.isNumber (toString n.toNat) &&
      (toString n.toNat).contains '.') = true then _ else _) _ = _
    rw [hn, Bool.and_false, if_neg nofun]
    exact run_bind_of (run_indexed self n.toNat_lt_size)

theorem run_trailers_rounds (hts : endsSelection ts = true) (e : Expression) (n : Nat) :
    (trailers.rounds self n e).run ts = some (e, ts) := by
  obtain ⟨_, hp, hd, hb, hq⟩ := endsSelection_iff.mp hts
  cases n
  case zero => rfl
  case succ n =>
    rw [trailers.rounds, run_whether, hp, if_neg nofun, run_bind_of (run_sees_of hd),
      Bool.and_false, if_neg nofun, run_whether, hb, if_neg nofun, run_bind_of (run_sees_of hq),
      Bool.and_false]
    rfl

theorem run_trailers (hts : endsSelection ts = true) {a : Access} (ha : Selectable a) (c : Code) :
    (trailers self (plain c)).run (Token.operator "." ++ a.token :: ts) =
      some (plain (c ++ Code.ofTokens (Token.operator "." ++ [a.token])), ts) := by
  show StateT.run (selection self >>= fun s =>
    trailers.rounds self (ts.length + 1) (plain (c ++ s))) _ = _
  rw [run_bind_of (run_selection self hts ha)]
  exact run_trailers_rounds self hts _ _

-- `self.field`
def fieldTokens (a : Access) : List Token :=
  .word "self" :: (Token.operator "." ++ [a.token])

theorem run_attributedAtom {structs : Bool} {mid rest : List Token} {c d : Code}
    (hh : Ahead.punct "#" ts = false) (ha : (atom self structs).run ts = some (plain c, mid))
    (ht : (trailers self (plain c)).run mid = some (plain d, rest)) :
    (attributedAtom self structs).run ts = some (plain d, rest) := by
  have ho : (outerAttributesCode self).run ts = some ([], ts) :=
    run_bind_of (run_many_of_not hh)
  have hp : StateT.run (do
      let attributes ← outerAttributesCode self
      let e ← trailers self (← atom self structs)
      pure (attributes, e) : Rule _) ts = some (([], plain d), rest) := by
    rw [run_bind_of ho, run_bind_of ha, run_bind_of ht]
    rfl
  exact run_bind_of ((run_verbatim _).trans (congrArg (Option.map _) hp))

theorem run_unary {structs : Bool}
    (h : Ahead.any [.punct "#", .punct "&", .punct "*", .punct "!", .punct "-"] ts = false) :
    (unary self structs).run ts = (attributedAtom self structs).run ts := by
  have ⟨hh, ho⟩ : Ahead.punct "#" ts = false ∧
      Ahead.any [.punct "&", .punct "*", .punct "!", .punct "-"] ts = false :=
    Bool.or_eq_false_iff.mp h
  have hl : (lookAhead do
      let _ ← outerAttributes self
      sees (.any [.punct "&", .punct "*", .punct "!", .punct "-"])).run ts = some (false, ts) := by
    rw [run_lookAhead, outerAttributes, run_bind_of (run_many_of_not hh), run_sees_of ho]
    rfl
  exact run_bind_of hl

theorem run_field (hts : endsSelection ts = true) {a : Access} (ha : Selectable a)
    (structs : Bool) : (unary self structs).run (fieldTokens a ++ ts) =
      some (plain (Code.ofTokens (fieldTokens a)), ts) := by
  have hs : (atom self structs).run (fieldTokens a ++ ts) =
      some (plain (Code.ofTokens [.word "self"]), Token.operator "." ++ a.token :: ts) := by
    cases structs <;> rfl
  exact (run_unary self rfl).trans (run_attributedAtom self rfl hs (run_trailers self hts ha _))

-- The rules that a reference is read with are those for what follows the `&`.
theorem run_reference {inner : Rules} {structs : Bool}
    (hr : self (.unary structs) = unary inner structs) (hts : endsSelection ts = true)
    {a : Access} (ha : Selectable a) :
    (unary self structs).run (Token.operator "&" ++ (fieldTokens a ++ ts)) =
      some (plain (Code.ofTokens (Token.operator "&" ++ fieldTokens a)), ts) := by
  have h := run_field inner hts ha structs
  rw [← hr] at h
  show StateT.run (self (.unary structs) >>= fun e =>
    Pure.pure (plain ([] ++ Code.ofTokens (Token.operator "&") ++ e.code)))
      (fieldTokens a ++ ts) = _
  rw [run_bind_of h]
  rfl

end Grammar

open Grammar Rule

theorem reference_eq_fieldTokens (v : Value) (a : Access) :
    v.reference a = Token.operator "&" ++ (fieldTokens a ++ v.cast) := by
  rw [Value.reference_eq]
  simp [Value.referenceTo, fieldTokens]

theorem run_blockExpression_reference (self : Rules) (p : Rule Expression) (ts : List Token) :
    (blockExpression self p).run (Token.operator "&" ++ ts) = p.run (Token.operator "&" ++ ts) :=
  rfl

section Reference

variable (n : Nat) {a : Access} (ha : Selectable a) (v : Value)

include ha

-- In an arm, a comma follows.
theorem run_statement_reference (ts : List Token) :
    (rules (n + 8) .statement).run (v.reference a ++ (Token.operator "," ++ ts)) =
      some (plain (Code.ofTokens (v.reference a)), Token.operator "," ++ ts) := by
  have hts : endsSelection (v.cast ++ (Token.operator "," ++ ts)) = true := by
    cases v <;> rfl
  have hr : (rules (n + 7) (.unary true)).run _ = _ := run_reference (rules (n + 6)) rfl hts ha
  have ho (c : Code) : (operators (rules (n + 7)) true .jump (plain c)).run
      (v.cast ++ (Token.operator "," ++ ts)) =
        some (plain (c ++ Code.ofTokens v.cast), Token.operator "," ++ ts) := by
    cases v
    case common => exact (List.append_nil c).symm ▸ rfl
    case erased => rfl
  rw [reference_eq_fieldTokens, List.append_assoc, List.append_assoc]
  refine (run_bind_of rfl).trans ?_
  rw [run_bind_of ((run_blockExpression_reference _ _ _).trans hr)]
  refine (ho _).trans ?_
  simp [plain, Code.ofTokens, Attribute.code]

-- In a pair, it is the last thing.
theorem run_expression_reference {ts : List Token}
    (hts : ts = [] ∨ ∃ ts', ts = Token.operator "," ++ ts') :
    (rules (n + 8)).expressionCode.run (v.reference a ++ ts) =
      some (Code.ofTokens (v.reference a), ts) := by
  have hc : endsSelection (v.cast ++ ts) = true := by
    obtain rfl | ⟨ts', rfl⟩ := hts <;> cases v <;> rfl
  have hr : (rules (n + 7) (.unary true)).run _ = _ := run_reference (rules (n + 6)) rfl hc ha
  have ho (c : Code) : (operators (rules (n + 7)) true .jump (plain c)).run (v.cast ++ ts) =
      some (plain (c ++ Code.ofTokens v.cast), ts) := by
    cases v
    case common => obtain rfl | ⟨ts', rfl⟩ := hts <;> exact (List.append_nil c).symm ▸ rfl
    case erased => obtain rfl | ⟨ts', rfl⟩ := hts <;> rfl
  have he : (rules (n + 8) (.expression true)).run (v.reference a ++ ts) =
      some (plain (Code.ofTokens (v.reference a)), ts) := by
    rw [reference_eq_fieldTokens, List.append_assoc, List.append_assoc]
    refine (run_bind_of hr).trans ?_
    refine (ho _).trans ?_
    simp [plain, Code.ofTokens]
  exact run_bind_of he

end Reference

end Accessors
