import Accessors.Proofs.Below
import Accessors.Proofs.Clauses

namespace Accessors

namespace Grammar

open Rule

section Argument

variable {ts rest : List Token}

structure OpensReceiver (lead : List Token) : Prop where
  words : ∃ i, i.text = "self" ∧
    (lead = [.ident i] ∨ ∃ m, m.text = "mut" ∧ lead = [.ident m, .ident i])

variable {lead : List Token}

theorem OpensReceiver.of_run {c : Code}
    (h : (cat [maybeKeyword "mut", keyword "self"]).run ts = some (c, rest)) :
    ∃ lead, OpensReceiver lead ∧ ts = lead ++ rest := by
  obtain ⟨_, _, _, hm, h, _⟩ := run_cat_cons_eq_some.mp h
  obtain ⟨_, _, _, hn, hc, _⟩ := run_cat_cons_eq_some.mp h
  cases hc
  obtain ⟨i, rfl, hi⟩ := run_keyword_eq_some hn
  obtain rfl | ⟨m, rfl, hm'⟩ := run_maybeKeyword_eq_some hm
  · exact ⟨[.ident i], ⟨i, hi, .inl rfl⟩, rfl⟩
  · exact ⟨[.ident m, .ident i], ⟨i, hi, .inr ⟨m, hm', rfl⟩⟩, rfl⟩

theorem OpensReceiver.not_ident (h : OpensReceiver lead) (ts : List Token) :
    Ahead.ident (lead ++ ts) = false := by
  have hr {i : Ident} (hi : i.text ∈ Ahead.reserved) (ts : List Token) :
      Ahead.ident (.ident i :: ts) = false := by
    rw [Ahead.ident, List.contains_iff_mem.mpr hi]
    rfl
  obtain ⟨i, hi, rfl | ⟨m, hm, rfl⟩⟩ := h
  · exact hr (hi ▸ by decide) ts
  · exact hr (hm ▸ by decide) (.ident i :: ts)

theorem eq_of_run_reference
    (h : (maybe (.punct "&") (cat [punct "&", maybe .lifetime lifetime])).run ts =
      some ([], rest)) : ts = rest := by
  cases hp : Ahead.punct "&" ts
  case false =>
    rw [run_maybe_of_not hp] at h
    cases h
    rfl
  case true =>
    rw [run_maybe_of hp] at h
    obtain ⟨d, _, _, hd, _, hc⟩ := run_cat_cons_eq_some.mp h
    obtain rfl : d = [] := (List.append_eq_nil_iff.mp hc.symm).1
    obtain ⟨_, _, _, rfl, -⟩ := Ahead.exists_of_punct '&' [] rfl hp
    rw [punct, run_bind_of (run_sees_of hp)] at hd
    cases hd

theorem run_receiver_of (self : Rules) {reference name : Code} {mid : List Token}
    (hr : (maybe (.punct "&") (cat [punct "&", maybe .lifetime lifetime])).run ts =
      some (reference, mid))
    (hn : (cat [maybeKeyword "mut", keyword "self"]).run mid = some (name, rest)) :
    (receiver self).run ts =
      ((if reference.isEmpty then maybe (.punct ":") (cat [punct ":", self.typeCode])
        else pure [] : Rule Code).run rest).map fun (type, rest) =>
          (reference ++ name ++ type, rest) := by
  rw [receiver, run_bind_of hr, run_bind_of hn]
  cases reference.isEmpty
  case false => rfl
  case true => exact run_bind_pure

-- Only the type of a receiver depends on the rules.
theorem run_receiver_eq (self self' : Rules) (ts : List Token) :
    (receiver self).run ts = (receiver self').run ts ∨
      ∃ lead ts' c, OpensReceiver lead ∧ ts = lead ++ ts' ∧ Ahead.punct ":" ts' = true ∧
        ∀ rules, (receiver rules).run ts = ((cat [punct ":", rules.typeCode]).run ts').map
          fun (d, rest) => (c ++ d, rest) := by
  cases hr : (maybe (.punct "&") (cat [punct "&", maybe .lifetime lifetime])).run ts
  case none =>
    left
    rw [receiver, StateT.run_bind, hr, receiver, StateT.run_bind, hr]
    rfl
  case some x =>
  obtain ⟨reference, mid⟩ := x
  cases hn : (cat [maybeKeyword "mut", keyword "self"]).run mid
  case none =>
    left
    rw [receiver, run_bind_of hr, StateT.run_bind, hn, receiver, run_bind_of hr, StateT.run_bind,
      hn]
    rfl
  case some x =>
  obtain ⟨name, ts'⟩ := x
  have hrun (rules : Rules) := run_receiver_of rules hr hn
  cases reference
  case cons => exact .inl ((hrun self).trans (hrun self').symm)
  case nil =>
  simp only [List.isEmpty_nil, if_true] at hrun
  cases hp : Ahead.punct ":" ts'
  case false =>
    left
    rw [hrun, hrun, run_maybe_of_not hp, run_maybe_of_not hp]
  case true =>
    obtain rfl := eq_of_run_reference hr
    obtain ⟨lead, hl, rfl⟩ := OpensReceiver.of_run hn
    refine .inr ⟨lead, ts', [] ++ name, hl, rfl, hp, fun rules => ?_⟩
    rw [hrun, run_maybe_of hp]

theorem exists_of_colons (h : Ahead.punct "::" ts = true) : ∃ s sp s' ts',
    ts = .punct ':' .joint s :: .punct ':' sp s' :: ts' := by
  obtain ⟨_, s, ts, rfl, hj, h⟩ := Ahead.exists_of_punct ':' [':'] rfl h
  obtain ⟨sp, s', ts, rfl, -⟩ := Ahead.exists_of_punct (s := ":") ':' [] rfl h
  cases hj (List.cons_ne_nil _ _)
  exact ⟨s, sp, s', ts, rfl⟩

-- Behind two colons is a third one, if what is behind the first of them may begin a type.
theorem punct_colon_of_colons (h : Ahead.punct "::" ts = true)
    (hs : Ahead.only ":" ["::"] (ts.drop 1) = false) : Ahead.punct ":" (ts.drop 2) = true := by
  obtain ⟨s, sp, s', ts, rfl⟩ := exists_of_colons h
  rcases ts with _ | ⟨_ | ⟨k, sp, s⟩ | _ | _, ts⟩
  all_goals
    simp [Ahead.only, Ahead.both, Ahead.not, Ahead.any, Ahead.punct, Ahead.punctChars] at hs ⊢
  exact hs.2

-- The path that goes on behind two colons cannot go on with a third one.
theorem run_pattern_of_colons {self : Rules} {i : Ident} (hi : i.text = "self")
    (hd : Ahead.punct "::" ts = true) (hc : Ahead.punct ":" (ts.drop 2) = true) :
    (pattern self).run (.ident i :: ts) = none := by
  obtain ⟨name, raw, span⟩ := i
  obtain ⟨rfl, rfl⟩ := Ident.of_text (by decide) hi
  obtain ⟨s, sp, s', ts, rfl⟩ := exists_of_colons hd
  replace hc : Ahead.punct ":" ts = true := hc
  obtain ⟨_, _, _, rfl, -⟩ := Ahead.exists_of_punct ':' [] rfl hc
  rfl

theorem run_pattern_of_opensReceiver {self : Rules} {x : Phrase PatternForm}
    (hl : OpensReceiver lead) (hp : Ahead.punct ":" ts = true)
    (hc : Ahead.punct "::" ts = true → Ahead.punct ":" (ts.drop 2) = true)
    (h : (pattern self).run (lead ++ ts) = some (x, rest)) : rest = ts := by
  obtain ⟨sp, s, ts, rfl, -⟩ := Ahead.exists_of_punct ':' [] rfl hp
  obtain ⟨i, hi, rfl | ⟨m, hm, rfl⟩⟩ := hl
  case inl =>
    cases hd : Ahead.punct "::" (.punct ':' sp s :: ts)
    case true => cases (run_pattern_of_colons hi hd (hc hd)).symm.trans h
    case false =>
      obtain ⟨name, raw, span⟩ := i
      obtain ⟨rfl, rfl⟩ := Ident.of_text (by decide) hi
      have ho : opensPathPattern ([.ident ⟨"self", false, span⟩] ++ .punct ':' sp s :: ts) =
          false := by
        show (Ahead.punct "::" (.punct ':' sp s :: ts) || false) = false
        rw [hd]
        rfl
      rw [pattern, run_whether, ho, if_neg Bool.false_ne_true] at h
      cases h
      rfl
  case inr =>
    obtain ⟨name, raw, span⟩ := i
    obtain ⟨rfl, rfl⟩ := Ident.of_text (by decide) hi
    obtain ⟨name, raw, span⟩ := m
    obtain ⟨rfl, rfl⟩ := Ident.of_text (by decide) hm
    cases h
    rfl

def patternArgument (self : Rules) : Rule (Code × ArgumentKind) := do
  if ← sees (.both .ident (.second (.punct "<"))) then
    let type ← self.typeCode
    return (Code.ofTokens (.word "_" :: Token.operator ":") ++ type, .typed)
  let pattern ← cat [self.patternCode, punct ":"]
  if ← sees (.punct "...") then return (pattern ++ (← punct "..."), .variadic)
  return (pattern ++ (← self.typeCode), .typed)

theorem run_argument (self : Rules) (hd : Ahead.punct "..." ts = false) :
    (argument self).run ts =
      if ((receiver self).run ts).isSome then
        ((receiver self).run ts).map fun (c, rest) => ((c, .receiver), rest)
      else (patternArgument self).run ts := by
  have hr : (accepts (receiver self)).run ts = some (((receiver self).run ts).isSome, ts) := rfl
  rw [argument, run_whether, hd, if_neg nofun, run_bind_of hr]
  cases h : (receiver self).run ts
  case none => rfl
  case some x => exact run_bind_of h

theorem below_patternArgument {self self' : Rules} (h : self.Below self') :
    (patternArgument self).Below (patternArgument self') := by
  unfold patternArgument
  gcongr

-- A pattern with a type has the type where a receiver would have it. What is read there as a type
-- tells that a colon in front of it is the last one, and that it is not the rest of the arguments.
theorem run_typeCode_of_patternArgument {self rules rules' : Rules} {mid : List Token} {c : Code}
    {x : Code × ArgumentKind} {y : Phrase TypeForm × List Token}
    (hp : (self .pattern).Below (pattern rules)) (hl : OpensReceiver lead)
    (hcolon : (punct ":").run ts = some (c, mid)) (ht : (type rules' true).run mid = some y)
    (h : (patternArgument self).run (lead ++ ts) = some (x, rest)) :
    ∃ z, self.typeCode.run mid = some (z, rest) := by
  obtain ⟨colon, rfl, hlength, hahead⟩ := run_punct_eq_some hcolon
  obtain ⟨t, rfl⟩ := List.length_eq_one_iff.mp hlength
  have hstop {p : Ahead} (hp : p ∈
      [.group .brace, .punct ",", .punct ";", .only ":" ["::"], .punct "=", .punct "..."]) :
      p mid = false := by
    refine Bool.eq_false_iff.mpr fun h => ?_
    rw [run_type_of_stop hp h] at ht
    cases ht
  rw [patternArgument, run_whether, Ahead.both, hl.not_ident, Bool.false_and,
    if_neg Bool.false_ne_true, run_bind_eq_some] at h
  obtain ⟨_, _, hpattern, h⟩ := h
  obtain ⟨_, _, _, hpattern, hcolon', _⟩ := run_cat_cons_eq_some.mp hpattern
  obtain ⟨_, _, _, hcolon', hdone, _⟩ := run_cat_cons_eq_some.mp hcolon'
  cases hdone
  obtain ⟨_, _, hpattern, hcode⟩ := run_bind_eq_some.mp hpattern
  cases hcode
  obtain rfl := run_pattern_of_opensReceiver hl (hahead mid).1
    (fun h => punct_colon_of_colons h (hstop (by simp))) (hp _ _ hpattern)
  cases hcolon.symm.trans hcolon'
  have hrest : Ahead.punct "..." mid = false := hstop (by simp)
  rw [run_whether, hrest, if_neg Bool.false_ne_true, run_bind_eq_some] at h
  obtain ⟨z, _, hz, h⟩ := h
  cases h
  exact ⟨z, hz⟩

-- Where only the later rules read a receiver, the first ones read no argument at all.
theorem below_argument_of {self self' : Rules} (h : self.Below self')
    (hp : ∃ rules, (self .pattern).Below (pattern rules))
    (ht : ∃ rules, self' (.type true) = type rules true) :
    (argument self).Below (argument self') := by
  rintro ts ⟨x, rest⟩ hx
  cases hd : Ahead.punct "..." ts
  case true =>
    rw [argument, run_whether, if_pos hd] at hx ⊢
    exact hx
  case false =>
  rw [run_argument self hd] at hx
  rw [run_argument self' hd]
  cases hr : (receiver self).run ts
  case some r =>
    rw [hr] at hx
    rw [below_receiver h _ _ hr]
    exact hx
  case none =>
  rw [hr, Option.isSome_none, if_neg nofun] at hx
  cases hr' : (receiver self').run ts
  case none =>
    rw [Option.isSome_none, if_neg nofun]
    exact below_patternArgument h _ _ hx
  case some r =>
  exfalso
  obtain hs | ⟨lead, ts', c, hl, rfl, -, hrun⟩ := run_receiver_eq self self' ts
  · rw [hr, hr'] at hs
    cases hs
  rw [hrun, Option.map_eq_none_iff] at hr
  rw [hrun, Option.map_eq_some_iff] at hr'
  obtain ⟨⟨_, _⟩, hr', _⟩ := hr'
  obtain ⟨_, mid, _, hcolon, hr', _⟩ := run_cat_cons_eq_some.mp hr'
  obtain ⟨_, _, _, hr', _⟩ := run_cat_cons_eq_some.mp hr'
  obtain ⟨y, _, hy, _⟩ := run_bind_eq_some.mp hr'
  obtain ⟨_, ht⟩ := ht
  obtain ⟨_, hp⟩ := hp
  rw [ht] at hy
  obtain ⟨z, hz⟩ := run_typeCode_of_patternArgument hp hl hcolon hy hx
  have hn : (cat [punct ":", self.typeCode]).run ts' = some (_, rest) :=
    run_cat_cons hcolon (run_cat_cons hz rfl)
  rw [hr] at hn
  cases hn

end Argument

section Items

variable {self self' : Rules} (h : self.Below self')
  (ha : (argument self).Below (argument self'))

include h ha

@[gcongr]
theorem below_arguments : (arguments self).Below (arguments self') := by
  suffices hr : ∀ n first, (arguments.rounds self first n).Below
      (arguments.rounds self' first n) from .bind .rfl fun _ => hr _ _
  intro n
  induction n
  case zero => exact fun _ => .rfl
  case succ n ih =>
    intro first
    unfold arguments.rounds
    dsimp only
    gcongr
    rename_i x
    obtain ⟨_, kind⟩ := x
    cases kind
    all_goals
      dsimp only
      gcongr
      all_goals exact ih _

@[gcongr]
theorem below_signature (safe : Bool) : (signature self safe).Below (signature self' safe) := by
  unfold signature
  gcongr

@[gcongr]
theorem below_foreignMember : (foreignMember self).Below (foreignMember self') := by
  unfold foreignMember
  dsimp only
  gcongr

@[gcongr]
theorem below_traitMember : (traitMember self).Below (traitMember self') := by
  unfold traitMember
  dsimp only
  gcongr
  exact h.rule _

@[gcongr]
theorem below_implMember : (implMember self).Below (implMember self') := by
  unfold implMember
  dsimp only
  gcongr
  exact h.rule _

@[gcongr]
theorem below_traitItem : (traitItem self).Below (traitItem self') := by
  unfold traitItem
  dsimp only
  gcongr
  all_goals exact h.rule _

@[gcongr]
theorem below_implItem : (implItem self).Below (implItem self') := by
  unfold implItem
  dsimp only
  gcongr
  all_goals exact h.rule _

@[gcongr]
theorem below_itemBody (isPublic : Bool) (ahead : List Token) (attributes : List Attribute) :
    (itemBody self isPublic ahead attributes).Below
      (itemBody self' isPublic ahead attributes) := by
  unfold itemBody functionItem foreignItem useItem staticItem constItem typeItem
  dsimp only
  gcongr
  all_goals exact h.rule _

@[gcongr]
theorem below_item : (item self).Below (item self') := by
  unfold item
  gcongr
  dsimp only
  gcongr

theorem below_step : ∀ n, (step self n).Below (step self' n)
  | .type plus => below_type h plus
  | .bound captures conditional => below_bound h captures conditional
  | .expression structs => below_expression h structs
  | .statement => below_statementExpression h
  | .unary structs => below_unary h structs
  | .operand structs precedence => below_operand h structs precedence
  | .pattern => below_pattern h
  | .block => below_statements h
  | .item => below_item h ha
  | .useTree crateRoot => below_useTree h crateRoot

end Items

theorem rules_below (n : Nat) : (rules n).Below (rules (n + 1)) := by
  induction n
  case zero => exact ⟨nofun⟩
  case succ n ih =>
    refine ⟨below_step ih (below_argument_of ih ?_ ⟨rules n, rfl⟩)⟩
    cases n
    case zero => exact ⟨rules 0, nofun⟩
    case succ n => exact ⟨rules n, .rfl⟩

theorem rules_below_of_le {m n : Nat} (h : m ≤ n) : (rules m).Below (rules n) where
  rule t := .of_le (fun n => (rules_below n).rule t) h

section Deeper

variable {self : Rules} {ts : List Token}

-- A rule that goes deeper where the rules that it is made of do reads the same at any depth that is
-- enough for the tokens.
theorem run_of_read? {α : Type} {p : Rules → Rule α} {a : α} {n : Nat}
    (hp : ∀ {self self' : Rules}, self.Below self' → (p self).Below (p self'))
    (h : read? p ts = some a) (hn : depth ts ≤ n) : (p (rules n)).run ts = some (a, []) :=
  hp (rules_below_of_le hn) _ _ (read?_eq_some.mp h)

theorem pathType_asFar (plus : Bool) (lifetimes : Code) :
    (pathType self plus lifetimes).AsFar (pathType self plus []) := by
  refine .bind fun _ => .ite .rfl <| .bind fun _ => .ite .rfl <| .bind fun _ => .ite
    (.bind fun _ => .bind fun _ => .ite (.bind fun _ => .bind fun _ => .pure _ _)
      (.bind fun _ => .pure _ _)) ?_
  split
  · exact .pure _ _
  · exact .rfl

theorem run_binder_of_not {ts : List Token} (h : Ahead.keyword "for" ts = false) :
    (binder self).run ts = some ([], ts) :=
  run_maybe_of_not h

theorem not_keyword_for_of_bindable (h : bindable ts = true) : Ahead.keyword "for" ts = false := by
  rcases ts with _ | ⟨i | _ | _ | _, ts⟩
  case cons.ident =>
    refine beq_eq_false_iff_ne.mpr fun hi => ?_
    simp only [bindable, Ahead.any, List.any_cons, List.any_nil, Ahead.ident, Ahead.anyOf,
      hi] at h
    exact absurd h (by decide)
  all_goals rfl

theorem run_predicateSubject {n : Nat} {c : Code}
    (h : (rules (n + 1)).typeCode.run ts = some (c, [])) :
    ∃ d, (predicateSubject (rules (n + 1))).run ts = some (d, []) := by
  obtain ⟨x, _, hx, hc⟩ := run_bind_eq_some.mp h
  cases hc
  obtain ⟨l, mid, hl, hx⟩ := run_bind_eq_some.mp hx
  suffices hm : ∃ d, (rules (n + 1)).typeCode.run mid = some (d, []) by
    obtain ⟨d, hd⟩ := hm
    exact ⟨_, run_cat_cons (below_binder (rules_below n) _ _ hl) (run_cat_cons hd rfl)⟩
  obtain ⟨_, _, hb, hx⟩ := run_bind_eq_some.mp hx
  cases hb
  cases hf : Ahead.keyword "for" ts
  case false =>
    obtain ⟨rfl, rfl⟩ : [] = l ∧ ts = mid := by
      simpa using (run_binder_of_not hf).symm.trans hl
    exact ⟨_, h⟩
  case true =>
    by_cases hb : (!l.isEmpty && !bindable mid) = true
    · dsimp only at hx
      rw [if_pos hb] at hx
      cases hx
    dsimp only at hx
    rw [if_neg hb] at hx
    have hb : bindable mid = true := by
      rw [binder, run_maybe_of hf] at hl
      obtain ⟨_, _, _, hk, _, rfl⟩ := run_cat_cons_eq_some.mp hl
      rw [keyword, run_whether, if_pos hf] at hk
      obtain ⟨_, _, _, hk⟩ := run_bind_eq_some.mp hk
      cases hk
      simpa using hb
    obtain ⟨y, hy⟩ := AsFar.bind (fun _ => .ite .rfl <| .bind fun _ =>
      .ite (.bind fun c => .pure _ ⟨[] ++ c, .other⟩) <| .bind fun _ =>
        .ite (pathType_asFar true l) .rfl) _ _ _ hx
    have hm : (type (rules n) true).run mid = some (y, []) := by
      rw [type, run_bind_of (run_binder_of_not (not_keyword_for_of_bindable hb)),
        run_bind_of (run_sees bindable)]
      dsimp only
      rw [if_neg (by simp)]
      exact hy
    exact ⟨y.code, run_bind_eq_some.mpr ⟨y, [], hm, rfl⟩⟩

end Deeper

end Grammar

end Accessors
