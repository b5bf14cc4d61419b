import Accessors.Proofs.References

namespace Accessors.Grammar

open Rule

variable {self : Rules} {ts rest : List Token}

theorem run_outerAttributesCode (self : Rules) (h : Ahead.punct "#" ts = false) :
    (outerAttributesCode self).run ts = some ([], ts) :=
  run_bind_of (run_many_of_not h)

theorem run_innerAttributesCode (self : Rules) (h : Ahead.punct "#" ts = false) :
    (innerAttributesCode self).run ts = some ([], ts) := by
  have hm : (Ahead.both (.punct "#") (.second (.punct "!"))) ts = false := by
    rw [Ahead.both, h, Bool.false_and]
  exact run_bind_of (run_many_of_not hm)

theorem run_headed {head body : Code} {p : Rule Code}
    (hi : (innerAttributesCode self).run ts = some ([], ts)) (hp : p.run ts = some (body, [])) :
    (headed self head p).run (.enclosed .brace ts :: rest) =
      some ([.headed head .unlocated .unlocated [] body], rest) := by
  have hg : (inGroup .brace do
      let inner ← innerAttributesCode self
      let body ← p
      pure (inner, body)).run (.enclosed .brace ts :: rest) =
        some ((([], body), .unlocated, .unlocated), rest) :=
    run_inGroup_eq_some.mpr ⟨_, _, _, rfl, (run_bind_of hi).trans (run_bind_of hp), rfl⟩
  exact run_bind_of hg

-- The content of braces, one part after another, where there are no attributes of its own.
theorem run_content {ι : Type} {R : ι → Code → Prop} {p : Rule Code} (t : ι → List Token)
    {xs : List ι} (self : Rules)
    (hx : ∀ x ∈ xs, t x ≠ [] ∧ ∀ rest, ∃ c, R x c ∧ p.run (t x ++ rest) = some (c, rest))
    (hi : (Ahead.both (.punct "#") (.second (.punct "!"))) (xs.flatMap t) = false) :
    ∃ cs, List.Forall₂ R xs cs ∧ ∀ head rest, (headed self head (manyCode (.not .done) p)).run
      (.enclosed .brace (xs.flatMap t) :: rest) =
        some ([.headed head .unlocated .unlocated [] cs.flatten], rest) := by
  have hx' : ∀ x ∈ xs, t x ≠ [] ∧ ∀ rest, (Ahead.not .done) (t x ++ rest) = true ∧
      ∃ c, R x c ∧ p.run (t x ++ rest) = some (c, rest) := by
    intro x h
    obtain ⟨hne, hp⟩ := hx x h
    exact ⟨hne, fun rest => ⟨by simp [Ahead.not, Ahead.done, hne], hp rest⟩⟩
  have hdone : (Ahead.not .done) [] = false := rfl
  obtain ⟨cs, hcs, h⟩ := run_many_of t hx' hdone
  rw [List.append_nil] at h
  have hi : (innerAttributesCode self).run (xs.flatMap t) = some ([], xs.flatMap t) :=
    run_bind_of (run_many_of_not hi)
  exact ⟨cs, hcs, fun head rest => run_headed hi (run_bind_of h)⟩

theorem statements_rounds_below (self : Rules) (n : Nat) :
    (statements.rounds self n).Below (statements.rounds self (n + 1)) := by
  induction n
  case zero => exact .bind .rfl fun _ => .ite .rfl nofun
  case succ n ih =>
    exact .bind .rfl fun _ => .ite .rfl <| .bind .rfl fun _ => .ite
      (.bind .rfl fun _ => .bind ih fun _ => .rfl) <|
      .bind .rfl fun _ => .bind .rfl fun _ => .ite .rfl (.bind ih fun _ => .rfl)

theorem run_statements_cons {c d : Code} {complete : Bool} (hd : Ahead.done ts = false)
    (hp : Ahead.punct ";" ts = false)
    (h : (statement self).run ts = some ((c, complete), rest)) (hc : complete = true ∨ rest = [])
    (hl : rest.length < ts.length) (hr : (statements self).run rest = some (d, [])) :
    (statements self).run ts = some (c ++ d, []) := by
  have he : (!complete && !Ahead.done rest) = false := by
    obtain rfl | rfl := hc
    · rfl
    · exact Bool.and_false _
  obtain ⟨n, hn⟩ := Nat.exists_eq_add_one_of_ne_zero (Nat.ne_zero_of_lt hl)
  have hr : (statements.rounds self n).run rest = some (d, []) :=
    Below.of_le (statements_rounds_below self) (by omega) _ _ hr
  show (statements.rounds self ts.length).run ts = _
  rw [hn, statements.rounds, run_whether, hd, if_neg nofun, run_whether, hp, if_neg nofun,
    run_bind_of h]
  refine (run_bind_of (run_sees _)).trans ?_
  rw [he, if_neg nofun]
  exact run_bind_of hr

section Arms

variable (n : Nat) (v : Value) {a : Access}

theorem run_matchArm {key : Token} (hk : ∃ text s, key = .literal text s) (ha : Selectable a)
    (ts : List Token) : (matchArm (rules (n + 8))).run (Method.arm key (v.reference a) ++ ts) =
      some (Code.ofTokens (Method.arm key (v.reference a)), ts) := by
  obtain ⟨text, s, rfl⟩ := hk
  let lead := .literal text s :: Token.operator "=>"
  have hh (ts : List Token) : (cat [outerAttributesCode (rules (n + 8)),
      alternativesCode (rules (n + 8)),
      maybe (.keyword "if") (cat [keyword "if", (rules (n + 8)).expressionCode]),
      punct "=>"]).run (lead ++ ts) = some (Code.ofTokens lead, ts) := rfl
  have ht : Method.arm (.literal text s) (v.reference a) ++ ts =
      lead ++ (v.reference a ++ (Token.operator "," ++ ts)) := by
    simp [Method.arm, lead]
  rw [ht, matchArm, run_bind_of (hh _), run_bind_of (run_statement_reference n ha v ts)]
  refine Eq.trans (b := some (Code.ofTokens lead ++ Code.ofTokens (v.reference a) ++
    Code.ofTokens (Token.operator ","), ts)) rfl ?_
  simp [Method.arm, Code.ofTokens, lead]

theorem run_matchArm_wildcard (message key : String) (ts : List Token) :
    (matchArm (rules (n + 8))).run
      (Method.arm (.word "_") (Method.unreachable message key) ++ ts) =
        some (Code.ofTokens (Method.arm (.word "_") (Method.unreachable message key)), ts) :=
  rfl

theorem run_choice {key : String} (hk : key = "index" ∨ key = "name")
    {arms : List (Token × Access)}
    (ha : ∀ x ∈ arms, (∃ text s, x.1 = .literal text s) ∧ Selectable x.2) (message : String) :
    ∃ c, (choice (rules (n + 8))).run (Method.lookupBody key message arms v) = some (c, []) := by
  let parts := arms.map (fun x => Method.arm x.1 (v.reference x.2)) ++
    [Method.arm (.word "_") (Method.unreachable message key)]
  have hx : ∀ ts ∈ parts, ts ≠ [] ∧ ∀ rest,
      ∃ c, True ∧ (matchArm (rules (n + 8))).run (ts ++ rest) = some (c, rest) := by
    intro ts hts
    simp only [parts, List.mem_append, List.mem_map, List.mem_singleton] at hts
    obtain ⟨x, hx, rfl⟩ | rfl := hts
    · exact ⟨List.cons_ne_nil _ _,
        fun ts => ⟨_, trivial, run_matchArm n v (ha x hx).1 (ha x hx).2 ts⟩⟩
    · exact ⟨List.cons_ne_nil _ _,
        fun ts => ⟨_, trivial, run_matchArm_wildcard n message key ts⟩⟩
  have hi : (Ahead.both (.punct "#") (.second (.punct "!"))) (parts.flatMap id) = false := by
    rcases arms with _ | ⟨⟨t, a⟩, arms⟩
    · rfl
    · obtain ⟨text, s, rfl⟩ := (ha _ List.mem_cons_self).1
      rfl
  obtain ⟨cs, _, hc⟩ := run_content id (rules (n + 8)) hx hi
  have ht : Method.lookupBody key message arms v =
      [.word "match", .word key, .enclosed .brace (parts.flatMap id)] := by
    simp [Method.lookupBody, parts, List.flatMap_map]
  have hv (body : List Token) : (condition (rules (n + 8))).run
      (.word key :: [.enclosed .brace body]) =
        some ([.token (.word key)], [.enclosed .brace body]) := by
    obtain rfl | rfl := hk <;> rfl
  rw [ht]
  exact ⟨_, (run_bind_of <| run_cat_cons (run_keyword "match") <| run_cat_cons (hv _) rfl).trans
    (hc _ [])⟩

-- The choice is the last statement, and it needs no semicolon.
theorem run_lookupBlock {key : String} (hk : key = "index" ∨ key = "name")
    {arms : List (Token × Access)}
    (ha : ∀ x ∈ arms, (∃ text s, x.1 = .literal text s) ∧ Selectable x.2) (message : String) :
    ∃ c, (rules (n + 10) .block).run (Method.lookupBody key message arms v) = some (c, []) := by
  let body := Method.lookupBody key message arms v
  obtain ⟨c, hc⟩ := run_choice n v hk ha message
  have hb : (blockExpression (rules (n + 8)) (rules (n + 8) (.unary true))).run body =
      some (⟨c, .block⟩, []) := by
    have hf : (blockExpression (rules (n + 8)) (rules (n + 8) (.unary true))).run body =
        ((⟨·, .block⟩) <$> choice (rules (n + 8)) : Rule Expression).run body := rfl
    rw [hf, StateT.run_map, hc]
    rfl
  have he : (rules (n + 9) .statement).run body = some (⟨c, .block⟩, []) := by
    show StateT.run (statementExpression (rules (n + 8))) body = _
    rw [statementExpression, run_bind_of (run_outerAttributesCode _ rfl), run_bind_of hb]
    rfl
  have hs : (statement (rules (n + 9))).run body = some ((c ++ [], true), []) := by
    have hs : (statementKind (rules (n + 9))).run body = some (.expression, body) := by
      obtain rfl | rfl := hk <;> rfl
    rw [statement, run_bind_of hs]
    exact run_bind_of he
  exact ⟨_, run_statements_cons rfl rfl hs (.inl rfl) (Nat.zero_lt_succ _) rfl⟩

end Arms

section Groups

variable {m : Nat} {c : Code} {body : List Token}

theorem run_groupExpression {d : Delimiter}
    (hts : ts = [] ∨ ∃ ts', ts = Token.operator "," ++ ts' ∨ ts = Token.operator ";" ++ ts')
    (ha : (atom (rules m) true).run (.enclosed d body :: ts) = some (plain c, ts)) :
    (rules (m + 2)).expressionCode.run (.enclosed d body :: ts) = some (c, ts) := by
  have hu : (rules (m + 1) (.unary true)).run (.enclosed d body :: ts) = some (plain c, ts) := by
    have ht : (trailers (rules m) (plain c)).run ts = some (plain c, ts) := by
      obtain rfl | ⟨ts', rfl | rfl⟩ := hts <;> rfl
    exact (run_unary _ rfl).trans (run_attributedAtom _ rfl ha ht)
  have ho : (operators (rules (m + 1)) true .jump (plain c)).run ts = some (plain c, ts) := by
    obtain rfl | ⟨ts', rfl | rfl⟩ := hts <;> rfl
  have he : (rules (m + 2) (.expression true)).run (.enclosed d body :: ts) = some (plain c, ts) :=
    (run_bind_of hu).trans ho
  exact run_bind_of he

theorem run_tuple
    (hts : ts = [] ∨ ∃ ts', ts = Token.operator "," ++ ts' ∨ ts = Token.operator ";" ++ ts')
    (h : (commaList (rules m).expressionCode).run body = some (c, [])) :
    (rules (m + 2)).expressionCode.run (.enclosed .paren body :: ts) =
      some ([.group .paren .unlocated .unlocated c], ts) := by
  refine run_groupExpression hts ?_
  have ha : (atom (rules m) true).run (.enclosed .paren body :: ts) =
      (plain <$> enclosed .paren (commaList (rules m).expressionCode)).run
        (.enclosed .paren body :: ts) := rfl
  rw [ha, StateT.run_map, run_enclosed h]
  rfl

theorem run_array
    (hts : ts = [] ∨ ∃ ts', ts = Token.operator "," ++ ts' ∨ ts = Token.operator ";" ++ ts')
    (h : (arrayContent (rules m)).run body = some (c, [])) :
    (rules (m + 2)).expressionCode.run (.enclosed .bracket body :: ts) =
      some ([.group .bracket .unlocated .unlocated c], ts) := by
  refine run_groupExpression hts ?_
  have ha : (atom (rules m) true).run (.enclosed .bracket body :: ts) =
      (plain <$> enclosed .bracket (arrayContent (rules m))).run
        (.enclosed .bracket body :: ts) := rfl
  rw [ha, StateT.run_map, run_enclosed h]
  rfl

end Groups

section Pairs

theorem run_type_paren (self : Rules) (plus : Bool) (body ts : List Token) :
    (type self plus).run (.enclosed .paren body :: ts) =
      (parenthesisedType self plus).run (.enclosed .paren body :: ts) :=
  rfl

theorem run_type_bracket (self : Rules) (plus : Bool) (body ts : List Token) :
    (type self plus).run (.enclosed .bracket body :: ts) =
      ((⟨·, .other⟩) <$> enclosed .bracket (bracketedType self)).run
        (.enclosed .bracket body :: ts) :=
  rfl

variable {m : Nat} {v : Value} {c : Code}

theorem run_pairType
    (h : (rules (m + 3)).typeCode.run (Token.operator "&" ++ v.type) = some (c, []))
    (plus : Bool) : ∃ c', ∀ ts,
      (rules (m + 4) (.type plus)).run (Method.pairType v :: ts) = some (⟨c', .other⟩, ts) := by
  let name := Token.operator "&" ++ Token.lifetime "static" ++ [.word "str"]
  let value := Token.operator "," ++ (Token.operator "&" ++ v.type)
  let content := Code.ofTokens name ++ (Code.ofTokens (Token.operator ",") ++ (c ++ []))
  have hn : (rules (m + 3) (.type true)).run (name ++ value) =
      some (⟨Code.ofTokens name, .other⟩, value) := rfl
  have hl : (commaList (rules (m + 3)).typeCode).run (Token.operator "&" ++ v.type) =
      some (c, []) := run_commaList_single rfl h
  have hv : (cat [punct ",", commaList (rules (m + 3)).typeCode]).run value =
      some (Code.ofTokens (Token.operator ",") ++ (c ++ []), []) :=
    run_cat_cons rfl (run_cat_cons hl rfl)
  have hc : (parenthesisedType.content (rules (m + 3))).run (name ++ value) =
      some ((content, .other), []) := by
    rw [parenthesisedType.content, run_whether, if_neg nofun, run_whether, if_neg nofun,
      run_whether, if_neg nofun, run_bind_of hn]
    exact (run_whether _).trans (run_bind_of hv)
  have hg (ts : List Token) : (inGroup .paren (parenthesisedType.content (rules (m + 3)))).run
      (.enclosed .paren (name ++ value) :: ts) =
        some (((content, .other), .unlocated, .unlocated), ts) :=
    run_inGroup_eq_some.mpr ⟨_, _, _, rfl, hc, rfl⟩
  have ht : Method.pairType v = .enclosed .paren (name ++ value) := by
    simp [Method.pairType, name, value]
  rw [ht]
  refine ⟨[.group .paren .unlocated .unlocated content], fun ts => ?_⟩
  exact (run_type_paren (rules (m + 3)) plus _ ts).trans (run_bind_of (hg ts))

variable (n : Nat)

theorem run_pair {a : Access} (ha : Selectable a) (name : String) : ∃ c, ∀ ts,
    ts = [] ∨ (∃ ts', ts = Token.operator "," ++ ts') →
      (rules (n + 10)).expressionCode.run (Method.pair name a v :: ts) = some (c, ts) := by
  have hx : ∀ x ∈ [[.string name], v.reference a], x ≠ [] ∧ ∃ c, ∀ ts,
      ts = [] ∨ (∃ ts', ts = Token.operator "," ++ ts') →
        (rules (n + 8)).expressionCode.run (x ++ ts) = some (c, ts) := by
    intro x hx
    rw [List.mem_pair] at hx
    obtain rfl | rfl := hx
    · refine ⟨List.cons_ne_nil _ _, Code.ofTokens [.string name], fun ts hts => ?_⟩
      obtain rfl | ⟨ts', rfl⟩ := hts <;> rfl
    · refine ⟨?_, _, fun ts hts => run_expression_reference n ha v hts⟩
      cases v <;> exact List.cons_ne_nil _ _
  have ⟨c, hc⟩ := run_commaList id hx
  have ht : Method.pair name a v =
      .enclosed .paren (separate (Token.operator ",") ([[.string name], v.reference a].map id)) := by
    simp [Method.pair, separate]
  rw [ht]
  exact ⟨_, fun ts hts => run_tuple (hts.imp_right <| .imp fun _ => .inl) hc⟩

variable {pairs : List (String × Access)} (hp : ∀ x ∈ pairs, Selectable x.2)

include hp

-- The first element of an array is read before the others, as a length might follow it.
theorem run_pairs : ∃ c, (arrayContent (rules (n + 10))).run
    (separate (Token.operator ",") (pairs.map fun x => [Method.pair x.1 x.2 v])) =
      some (c, []) := by
  rcases pairs with _ | ⟨x, pairs⟩
  · exact ⟨_, rfl⟩
  rw [List.forall_mem_cons] at hp
  have ⟨c, hc⟩ := run_pair (v := v) n hp.1 x.1
  rcases pairs with _ | ⟨y, pairs⟩
  · refine ⟨c, ?_⟩
    show StateT.run _ [Method.pair x.1 x.2 v] = _
    rw [arrayContent, run_whether, if_neg nofun, run_bind_of (hc _ (.inl rfl))]
    rfl
  · have hx : ∀ x ∈ y :: pairs, [Method.pair x.1 x.2 v] ≠ [] ∧
        ∃ c, ∀ ts, ts = [] ∨ (∃ ts', ts = Token.operator "," ++ ts') →
          (rules (n + 10)).expressionCode.run ([Method.pair x.1 x.2 v] ++ ts) = some (c, ts) := by
      intro x hx
      have ⟨c, hc⟩ := run_pair (v := v) n (hp.2 x hx) x.1
      exact ⟨List.cons_ne_nil _ _, c, hc⟩
    have ⟨d, hd⟩ : ∃ d, (commaList (rules (n + 10)).expressionCode).run (separate
        (Token.operator ",") ((y :: pairs).map fun x => [Method.pair x.1 x.2 v])) = some (d, []) :=
      run_commaList _ hx
    have hm : (cat [punct ",", commaList (rules (n + 10)).expressionCode]).run
        (Token.operator "," ++ separate _ _) =
          some (Code.ofTokens (Token.operator ",") ++ (d ++ []), []) :=
      run_cat_cons rfl (run_cat_cons hd rfl)
    refine ⟨c ++ (Code.ofTokens (Token.operator ",") ++ (d ++ [])), ?_⟩
    show StateT.run _ (Method.pair x.1 x.2 v :: (Token.operator "," ++ separate _ _)) = _
    rw [arrayContent, run_whether, if_neg nofun, run_bind_of (hc _ (.inr ⟨_, rfl⟩))]
    exact (run_whether _).trans ((run_whether _).trans (run_bind_of hm))

-- `[(&'static str, &value); count]`
def arrayType (count : Nat) (v : Value) : Token :=
  .enclosed .bracket (Method.pairType v :: (Token.operator ";" ++ [.number count]))

def arrayValue (pairs : List (String × Access)) (v : Value) : Token :=
  .enclosed .bracket (separate (Token.operator ",") (pairs.map fun x => [Method.pair x.1 x.2 v]))

def arrayBinding (count : Nat) (pairs : List (String × Access)) (v : Value) (ts : List Token) :
    List Token :=
  .word "let" :: .word "members" :: (Token.operator ":" ++ arrayType count v ::
    (Token.operator "=" ++ arrayValue pairs v :: (Token.operator ";" ++ ts)))

variable
  (hv : (rules (n + 10)).typeCode.run (Token.operator "&" ++ v.type) = some (c, [])) (count : Nat)

include hv

omit hp in
theorem run_arrayType :
    ∃ t, ∀ ts, (rules (n + 12)).typeCode.run (arrayType count v :: ts) = some (t, ts) := by
  let length := Token.operator ";" ++ [.number count]
  have ⟨c', hc⟩ := run_pairType (m := n + 7) hv true
  have he : (rules (n + 11)).typeCode.run (Method.pairType v :: length) = some (c', length) :=
    run_bind_of (hc _)
  have hl : (maybe (.punct ";") (cat [punct ";", (rules (n + 11)).expressionCode])).run length =
      some (Code.ofTokens length, []) := rfl
  have hb : (bracketedType (rules (n + 11))).run (Method.pairType v :: length) =
      some (c' ++ Code.ofTokens length, []) := by
    rw [bracketedType, run_bind_of he, run_bind_of hl]
    rfl
  refine ⟨[.group .bracket .unlocated .unlocated (c' ++ Code.ofTokens length)], fun ts => ?_⟩
  have ht := run_type_bracket (rules (n + 11)) true (Method.pairType v :: length) ts
  rw [StateT.run_map, run_enclosed hb] at ht
  exact run_bind_of ht

theorem run_arrayBinding (ts : List Token) : ∃ c,
    (bindingStatement (rules (n + 12))).run (arrayBinding count pairs v ts) = some (c, ts) := by
  have ⟨t, ht⟩ := run_arrayType n hv count
  have ⟨d, hd⟩ := run_pairs (v := v) n hp
  have he (ts : List Token) : (rules (n + 12)).expressionCode.run
      (arrayValue pairs v :: (Token.operator ";" ++ ts)) =
        some ([.group .bracket .unlocated .unlocated d], Token.operator ";" ++ ts) :=
    run_array (.inr ⟨_, .inr rfl⟩) hd
  have hm (ts : List Token) :
      (rules (n + 12)).patternCode.run (.word "members" :: (Token.operator ":" ++ ts)) =
        some ([.token (.word "members")], Token.operator ":" ++ ts) := rfl
  have hc (ts : List Token) : (maybe (.punct ":") (cat [punct ":", (rules (n + 12)).typeCode])).run
      (Token.operator ":" ++ arrayType count v :: ts) = some (_, ts) :=
    (run_maybe_of rfl).trans <| run_cat_cons (p := punct ":") rfl (run_cat_cons (ht _) rfl)
  rw [arrayBinding, bindingStatement,
    run_bind_of <| run_cat_cons (run_outerAttributesCode _ rfl) <|
      run_cat_cons (run_keyword "let") <| run_cat_cons (hm _) <| run_cat_cons (hc _) rfl,
    run_bind_of <| (run_maybe_of rfl).trans <|
      run_cat_cons (p := punct "=") rfl (run_cat_cons (he _) rfl)]
  exact ⟨_, rfl⟩

theorem run_enumerateBlock : ∃ c,
    (rules (n + 13) .block).run (Method.enumerateBody count pairs v) = some (c, []) := by
  let call := Method.globalPath ["core", "iter", "IntoIterator", "into_iter"] ++
    [.enclosed .paren [.word "members"]]
  let body := arrayBinding count pairs v call
  have ht : Method.enumerateBody count pairs v = body := by
    simp [Method.enumerateBody, body, arrayBinding, arrayType, arrayValue, call]
  obtain ⟨c, hc⟩ := run_arrayBinding n hp hv count call
  have hs : (statement (rules (n + 12))).run body = some ((c, true), call) := by
    have hk : (statementKind (rules (n + 12))).run body = some (.binding, body) := rfl
    rw [statement, run_bind_of hk]
    exact run_bind_of hc
  obtain ⟨d, hd⟩ : ∃ d, (statements (rules (n + 12))).run call = some (d, []) := ⟨_, rfl⟩
  have hl : call.length < body.length := (by decide : 13 < 20)
  rw [ht]
  exact ⟨_, run_statements_cons rfl rfl hs (.inl rfl) hl hd⟩

end Pairs

end Accessors.Grammar
