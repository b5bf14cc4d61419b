import Accessors.Proofs.Blocks
import Accessors.Proofs.Splicing

namespace Accessors

def Value.bounded : Value → List (List Token)
  | .common _ => []
  | .erased types => types

namespace Grammar

open Rule Ahead

section BoundList

variable {self : Rules} {plus captures conditional : Bool} {ts rest : List Token}
  {b : Phrase BoundForm}

theorem run_boundList_last (hne : ts ≠ [])
    (h : (self (.bound captures conditional)).run ts = some (b, rest))
    (hp : Ahead.punct "+" rest = false) :
    (boundList self plus captures conditional).run ts = some (⟨[b], false⟩, rest) := by
  obtain ⟨n, hn⟩ := Nat.exists_eq_add_one_of_ne_zero (mt List.length_eq_zero_iff.mp hne)
  show (boundList.rounds self plus captures conditional ts.length).run ts = _
  rw [hn, boundList.rounds, run_bind_of h, run_bind_of (run_sees_of hp), Bool.and_false]
  rfl

theorem run_boundList_cons {l : Listed (Phrase BoundForm)} {c : Code} {mid mid' : List Token}
    (h : (self (.bound captures conditional)).run ts = some (b, mid))
    (hp : Ahead.punct "+" mid = true) (hc : (Rule.punct "+").run mid = some (c, mid'))
    (ho : opensBound mid' = true) (hl : mid'.length < ts.length)
    (hr : (boundList self true captures conditional).run mid' = some (l, rest)) :
    (boundList self true captures conditional).run ts =
      some (⟨b :: l.items, l.trailing⟩, rest) := by
  obtain ⟨n, hn⟩ := Nat.exists_eq_add_one_of_ne_zero (Nat.ne_zero_of_lt hl)
  have hr : (boundList.rounds self true captures conditional n).run mid' = some (l, rest) :=
    Below.of_le (boundList_rounds_below self true captures conditional) (by omega) _ _ hr
  show (boundList.rounds self true captures conditional ts.length).run ts = _
  rw [hn, boundList.rounds, run_bind_of h, run_bind_of (run_sees_of hp)]
  refine (run_bind_of hc).trans ((run_whether _).trans ((if_pos ho).trans ?_))
  exact run_bind_of hr

end BoundList

variable {m : Nat} {ts rest type : List Token} {c : Code}

theorem run_type_of_lifetime {x : Phrase TypeForm} (hl : Ahead.lifetime ts = true)
    (h : (rules (m + 2) (.type true)).run ts = some (x, rest)) :
    Ahead.second (.punct "+") ts = true := by
  unfold Ahead.lifetime at hl
  split at hl
  case h_2 => cases hl
  case h_1 s i ts =>
    show Ahead.punct "+" ts = true
    cases hp : Ahead.punct "+" ts
    case true => rfl
    case false =>
      let start := Token.punct '\'' .joint s :: .ident i :: ts
      have hb : (rules (m + 1) (.bound false false)).run start = some (⟨_, .lifetime⟩, ts) := rfl
      have hn : (lifetimeObject (rules (m + 1))).run start = none := by
        have hs : (boundList (rules (m + 1)) true false false).run start = some (⟨[_], _⟩, ts) :=
          run_boundList_last (List.cons_ne_nil _ _) hb hp
        rw [lifetimeObject, objectBounds, StateT.run_bind, run_bind_of hs]
        rfl
      have ht : (rules (m + 2) (.type true)).run start =
          (lifetimeObject (rules (m + 1)) >>= fun c => Pure.pure ⟨c, .other⟩).run start := rfl
      rw [ht, StateT.run_bind, hn] at h
      cases h

theorem run_type_of_stop {self : Rules} {p : Ahead}
    (hp : p ∈
      [.group .brace, .punct ",", .punct ";", .only ":" ["::"], .punct "=", .punct "..."])
    (h : p ts = true) : (Grammar.type self true).run ts = none := by
  have ht {c : Char} {sp : Spacing} {s : Span} {ts : List Token}
      (ho : opensPath (.punct c sp s :: ts) = false) (hc : c ∈ [',', ';', ':', '=', '.']) :
      (Grammar.type self true).run (.punct c sp s :: ts) = none := by
    have hb : (binder self).run (.punct c sp s :: ts) = some ([], .punct c sp s :: ts) := rfl
    rw [Grammar.type, run_bind_of hb, run_bind_of (run_sees _), if_neg nofun, run_whether,
      if_neg nofun, run_whether, if_neg nofun, run_whether, ho]
    simp only [List.mem_cons, List.not_mem_nil, or_false] at hc
    obtain rfl | rfl | rfl | rfl | rfl := hc <;> rfl
  simp only [List.mem_cons, List.not_mem_nil, or_false] at hp
  obtain rfl | rfl | rfl | rfl | rfl | rfl := hp
  · rcases ts with _ | ⟨_ | _ | _ | ⟨d, o, e, body⟩, ts⟩
    case cons.group =>
      cases d
      case brace => rfl
      all_goals cases h
    all_goals cases h
  · obtain ⟨_, _, _, rfl, -⟩ := exists_of_punct ',' [] rfl h
    exact ht rfl (by decide)
  · obtain ⟨_, _, _, rfl, -⟩ := exists_of_punct ';' [] rfl h
    exact ht rfl (by decide)
  · obtain ⟨hc, hn⟩ := Bool.and_eq_true_iff.mp h
    obtain ⟨_, _, _, rfl, -⟩ := exists_of_punct ':' [] rfl hc
    refine ht ?_ (by decide)
    simp only [opensPath, Ahead.any, Ahead.not, List.map, List.any_cons, List.any_nil,
      Bool.not_eq_true', Bool.or_false] at hn ⊢
    rw [hn]
    rfl
  · obtain ⟨_, _, _, rfl, -⟩ := exists_of_punct '=' [] rfl h
    exact ht rfl (by decide)
  · obtain ⟨_, _, _, rfl, -⟩ := exists_of_punct '.' ['.', '.'] rfl h
    exact ht rfl (by decide)

-- `::core::marker::Sized + 'static`
def sized : List Token :=
  Token.operator "::" ++ [.word "core"] ++ Token.operator "::" ++ [.word "marker"] ++
    Token.operator "::" ++ [.word "Sized"] ++ Token.operator "+" ++ Token.lifetime "static"

theorem bound_append (type ts : List Token) :
    Value.bound type ++ ts = type ++ (Token.operator ":" ++ (sized ++ ts)) := by
  simp [Value.bound, sized]

def predicateStop : Ahead :=
  .any [.only ":" ["::"], .done, .group .brace, .punct ",", .punct ";", .punct "="]

def EndsPredicate (ts : List Token) : Prop :=
  (∃ body ts', ts = .enclosed .brace body :: ts') ∨ ∃ ts', ts = Token.operator "," ++ ts'

theorem run_sized {ts : List Token} (hts : EndsPredicate ts) :
    (listedCode false predicateStop "+" (rules (m + 4)).boundCode).run (sized ++ ts) =
      some (Code.ofTokens sized, ts) := by
  obtain ⟨body, ts', rfl⟩ | ⟨ts', rfl⟩ := hts <;> rfl

-- What a predicate is about. Lifetimes that a type holds for belong to the predicate itself.
def predicateSubject (self : Rules) : Rule Code :=
  cat [binder self, self.typeCode]

theorem opens_predicateSubject {l : Code} {mid : List Token}
    (hb : (binder (rules (m + 4))).run type = some (l, mid))
    (ht : (rules (m + 4)).typeCode.run mid = some (c, [])) :
    type ≠ [] ∧ predicateStop type = false ∧
      (Ahead.lifetime type = true → Ahead.second (.punct "+") type = true) := by
  obtain ⟨_, _, hk, hb⟩ := run_bind_eq_some.mp hb
  cases hk
  cases hf : Ahead.keyword "for" type
  case true =>
    rcases type with _ | ⟨_ | _ | _ | _, type⟩
    case cons.ident => exact ⟨List.cons_ne_nil _ _, rfl, nofun⟩
    all_goals cases hf
  case false =>
    rw [hf] at hb
    cases hb
    obtain ⟨x, _, ht, hx⟩ := run_bind_eq_some.mp ht
    cases hx
    have hne : type ≠ [] := by
      rintro rfl
      cases ht
    refine ⟨hne, ?_, fun hl => run_type_of_lifetime hl ht⟩
    cases hs : predicateStop type
    case false => rfl
    case true =>
      obtain ⟨p, hp, h⟩ := List.any_eq_true.mp hs
      have hp : p = .done ∨ p ∈
          [.group .brace, .punct ",", .punct ";", .only ":" ["::"], .punct "=", .punct "..."] := by
        simp only [List.mem_cons] at hp ⊢
        grind
      obtain rfl | hp := hp
      · exact absurd (List.isEmpty_iff.mp h) hne
      · cases (run_type_of_stop hp h).symm.trans ht

theorem steady_predicateStop {b : Border} (hi : b.inside = true) : predicateStop.Steady b :=
  .any_cons ((steady_colon (.inl hi)).both (.not (.any_cons steady_colons .any_nil))) <|
    .any_cons (steady_done hi) <| .any_cons (steady_brace hi) <|
    .any_cons (steady_punct (by decide)) <| .any_cons (steady_punct (by decide)) <|
    .any_cons (steady_punct (by decide)) .any_nil

-- A lifetime with a colon behind it would be constrained as such, but a type that begins with a
-- lifetime goes on with a plus sign.
theorem not_lifetime_colon_append {b : Border} {ts : List Token} (ha : b.Admits ts)
    (hp : Ahead.lifetime ts = true → Ahead.second (.punct "+") ts = true) :
    (Ahead.both .lifetime (.second (.punct ":"))) (ts ++ b.tail) = false := by
  rw [Ahead.both, steady_lifetime ts ha]
  cases hl : Ahead.lifetime ts
  case false => rfl
  case true =>
    replace hp := hp hl
    unfold Ahead.lifetime at hl
    split at hl
    case h_2 => cases hl
    case h_1 s i ts =>
      obtain ⟨_, _, _, rfl, -⟩ := exists_of_punct (s := "+") '+' [] rfl hp
      rfl

theorem run_predicate (h : (predicateSubject (rules (m + 4))).run type = some (c, [])) :
    Value.bound type ≠ [] ∧ (∀ ts, predicateStop (Value.bound type ++ ts) = false) ∧
      ∃ c', ∀ ts, EndsPredicate ts →
        (wherePredicate (rules (m + 4))).run (Value.bound type ++ ts) = some (c', ts) := by
  obtain ⟨l, mid, hb, h'⟩ := run_bind_eq_some.mp h
  obtain ⟨_, rest, h', hp⟩ := run_bind_eq_some.mp h'
  obtain ⟨d, rest', ht, hp'⟩ := run_bind_eq_some.mp h'
  cases hp
  cases hp'
  have ⟨hne, hstop, hplus⟩ := opens_predicateSubject hb ht
  let b (ts : List Token) : Border := ⟨.colon .unlocated, sized ++ ts, false⟩
  have hs (ts : List Token) : (rules (m + 4)).Continue (b ts).follower (b ts).rest :=
    rules_continue _ _ _
  have hm (ts : List Token) : (b ts).Admits mid :=
    (continues_typeCode (hs ts)).admits ht ⟨nofun, nofun⟩
  have ha (ts : List Token) : (b ts).Admits type := (continues_binder (hs ts)).admits hb (hm ts)
  refine ⟨?_, fun ts => ?_,
    l ++ (d ++ (Code.ofTokens (Token.operator ":") ++ (Code.ofTokens sized ++ []))),
    fun ts hts => ?_⟩
  · rw [← List.append_nil (Value.bound type), bound_append]
    exact List.append_ne_nil_of_left_ne_nil hne _
  · have hp := steady_predicateStop (b := (b ts).within) rfl
    rw [bound_append]
    exact (hp type (Border.admits_within.mpr ⟨hne, ha ts⟩)).trans hstop
  · have ht' : (rules (m + 4)).typeCode.run (mid ++ (b ts).tail) = some (d, (b ts).tail) :=
      (continues_typeCode (hs ts)).run ht ⟨nofun, nofun⟩
    have hb' : (binder (rules (m + 4))).run (type ++ (b ts).tail) = some (l, mid ++ (b ts).tail) :=
      (continues_binder (hs ts)).run hb (hm ts)
    have hl := not_lifetime_colon_append (ha ts) hplus
    rw [bound_append]
    refine (run_whether _).trans ((if_neg (ne_true_of_eq_false hl)).trans ?_)
    exact run_cat_cons hb' (run_cat_cons ht' (run_cat_cons rfl (run_cat_cons (run_sized hts) rfl)))

-- What ends the predicates is looked for in another order.
theorem clauseStop_eq (ts : List Token) :
    (any [.done, .group .brace, .punct ",", .punct ";", .only ":" ["::"], .punct "="]) ts =
      predicateStop ts := by
  simp only [predicateStop, Ahead.any, List.any_cons, List.any_nil, Bool.or_false]
  cases Ahead.only ":" ["::"] ts
  case false => rfl
  case true => simp

theorem run_clause {v : Value}
    (hv : ∀ type ∈ v.bounded, ∃ c, (predicateSubject (rules (m + 4))).run type = some (c, []))
    (body ts : List Token) :
    ∃ c, (whereCode (rules (m + 4))).run (v.clause ++ .enclosed .brace body :: ts) =
      some (c, .enclosed .brace body :: ts) := by
  rcases v with type | ⟨_ | ⟨type, types⟩⟩
  case common => exact ⟨_, rfl⟩
  case erased.nil => exact ⟨_, rfl⟩
  case erased.cons =>
    let stop := any
      [.done, .group .brace, .punct ",", .punct ";", .only ":" ["::"], .punct "="]
    have hx : ∀ t ∈ type :: types, Value.bound t ≠ [] ∧
        (∀ ts, stop (Value.bound t ++ ts) = false) ∧ ∃ c, True ∧ ∀ ts',
          ts' = .enclosed .brace body :: ts ∨ (∃ ts, ts' = Token.operator "," ++ ts) →
            (wherePredicate (rules (m + 4))).run (Value.bound t ++ ts') = some (c, ts') := by
      intro t ht
      have ⟨c, hc⟩ := hv t ht
      have ⟨hne, hs, c', hc'⟩ := run_predicate hc
      refine ⟨hne, fun ts => (clauseStop_eq _).trans (hs ts), c', trivial, fun ts' hts => ?_⟩
      exact hc' ts' (hts.imp_left fun h => ⟨body, ts, h⟩)
    have ⟨cs, _, h⟩ :=
      run_listed_of Value.bound false false nofun hx rfl rfl fun _ => rfl
    rw [withCommas_false] at h
    exact ⟨_, run_bind_of <| (run_whether _).trans <| (if_pos rfl).trans <|
      (run_bind_of (run_keyword "where")).trans (run_bind_of h)⟩

end Grammar

end Accessors
