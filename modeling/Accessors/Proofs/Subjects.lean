import Accessors.Proofs.Commas

namespace Accessors

theorem Ident.of_text_blank {i : Ident} (h : i.text = "_") : i.raw = false ∧ i.name = "_" :=
  of_text (by decide) h

-- What the name of a parameter is made of. A blank is accepted in the place of a name.
structure Parameter.Named (p : Parameter) : Prop where
  lifetime : p.lifetime = true → ∃ s i, p.name = [.punct '\'' .joint s, .ident i]
  other : p.lifetime = false → ∃ i, p.name = [.ident i] ∧
    (Ahead.reserved.contains i.text = false ∨ i.text = "_")

theorem Parameter.Named.opens {p : Parameter} (hp : p.Named) :
    p.name ≠ [] ∧ ∀ ts, Ahead.punct ">" (p.name ++ ts) = false := by
  cases hl : p.lifetime
  case true =>
    have ⟨s, i, hn⟩ := hp.lifetime hl
    rw [hn]
    exact ⟨List.cons_ne_nil _ _, fun _ => rfl⟩
  case false =>
    have ⟨i, hn, _⟩ := hp.other hl
    rw [hn]
    exact ⟨List.cons_ne_nil _ _, fun _ => rfl⟩

theorem Generics.mem_ordered {g : Generics} {p : Parameter} : p ∈ g.ordered ↔ p ∈ g.items := by
  rw [ordered, List.mem_append, List.mem_filter, List.mem_filter]
  cases p.lifetime <;> simp

namespace Grammar

open Rule

def endsName : Ahead :=
  .not (.any [.punct "<", .punct "::", .group .paren, .punct "!", .punct "+"])

theorem endsName_iff {ts : List Token} : endsName ts = true ↔ Ahead.punct "<" ts = false ∧
    Ahead.punct "::" ts = false ∧ Ahead.group .paren ts = false ∧ Ahead.punct "!" ts = false ∧
      Ahead.punct "+" ts = false := by
  simp [endsName, Ahead.not, Ahead.any]

variable {self : Rules} {i : Ident} {ts body : List Token}
  (hi : Ahead.reserved.contains i.text = false)

include hi

theorem run_segment_bare (hts : endsName ts = true) : (segment self false).run (.ident i :: ts) =
    some (⟨[.token (.ident i)], .absent⟩, ts) := by
  have ⟨hl, hc, _⟩ := endsName_iff.mp hts
  have hb : Ahead.only "<" ["<="] ts = false := by rw [Ahead.only, Ahead.both, hl, Bool.false_and]
  have hd : (Ahead.both (.punct "::") (.third (.punct "<"))) ts = false := by
    rw [Ahead.both, hc, Bool.false_and]
  rw [segment, run_whether, Ahead.anyOf_of_not_reserved hi (by decide), if_neg nofun, run_whether,
    Ahead.keyword_of_not_reserved hi (by decide), if_neg nofun, run_bind_of (run_identCode hi),
    run_bind_of (run_sees_of hb), run_bind_of (run_sees_of hd)]
  rfl

theorem run_segment_angled {c : Code} {blank : Bool}
    (h : (angleArguments self).run (Token.operator "<" ++ body) = some (.angled c blank, ts)) :
    (segment self false).run (.ident i :: (Token.operator "<" ++ body)) =
      some (⟨[.token (.ident i)], .angled c blank⟩, ts) := by
  rw [segment, run_whether, Ahead.anyOf_of_not_reserved hi (by decide), if_neg nofun, run_whether,
    Ahead.keyword_of_not_reserved hi (by decide), if_neg nofun, run_bind_of (run_identCode hi),
    run_bind_of (run_sees _), run_bind_of (run_sees _)]
  exact run_bind_of h

omit hi in
theorem run_typeRoute_segment {s : Segment}
    (hs : (segment self false).run (.ident i :: body) = some (s, ts)) (hts : endsName ts = true) :
    (typeRoute self).run (.ident i :: body) = some (⟨[], false, [s]⟩, ts) := by
  have ⟨_, hc, hp, _⟩ := endsName_iff.mp hts
  let r : Route := ⟨[], false, [s]⟩
  have hg : goesOn ts = false := by rw [goesOn, Ahead.both, hc, Bool.false_and]
  have hroute : (route self false).run (.ident i :: body) = some (r, ts) := by
    have hl : (maybePunct "::").run (.ident i :: body) = some ([], .ident i :: body) := rfl
    have hf : (furtherSegments self false).run ts = some ([], ts) := run_many_of_not hg
    rw [route, run_bind_of hl, run_bind_of hs, run_bind_of hf]
    rfl
  have hq : (qualifiedRoute self false).run (.ident i :: body) = some (r, ts) :=
    (run_whether _).trans hroute
  have hround : opensRound ts = false := by
    simp [opensRound, Ahead.any, Ahead.both, hp, hc]
  have he (n : Nat) : (typeRoute.extend self n r).run ts = some (r, ts) := by
    cases n
    case zero => rfl
    case succ n =>
      rw [typeRoute.extend, run_bind_of (run_sees_of hround), Bool.and_false]
      rfl
  rw [typeRoute, run_bind_of hq]
  exact he ts.length

theorem run_type_segment {s : Segment}
    (hs : (segment self false).run (.ident i :: body) = some (s, ts))
    (ha : s.arguments = .absent ∨ ∃ c, s.arguments = .angled c false) (hts : endsName ts = true)
    (plus : Bool) : (type self plus).run (.ident i :: body) =
      some (⟨s.name ++ s.arguments.code, .name⟩, ts) := by
  have ⟨_, _, _, hb, hq⟩ := endsName_iff.mp hts
  have hcall : opensCall ts = false := by
    rw [opensCall, Ahead.only, Ahead.both, hb, Bool.false_and]
  have hpath : (pathType self plus []).run (.ident i :: body) =
      some (⟨s.name ++ s.arguments.code, .name⟩, ts) := by
    rw [pathType, run_bind_of (run_typeRoute_segment hs hts), if_neg nofun,
      run_bind_of (run_sees_of hcall), Bool.and_false, if_neg nofun, run_bind_of (run_sees_of hq),
      Bool.and_false, if_neg nofun]
    obtain ⟨name, arguments⟩ := s
    obtain rfl | ⟨c, rfl⟩ := ha <;> rfl
  have hbind : (binder self).run (.ident i :: body) = some ([], .ident i :: body) :=
    run_maybe_of_not (Ahead.keyword_of_not_reserved hi (by decide))
  have ho : opensPath (.ident i :: body) = true := by
    simp [opensPath, Ahead.any, Ahead.ident_of_not_reserved hi]
  rw [type, run_bind_of hbind, run_bind_of (run_sees _), if_neg nofun, run_whether, if_neg nofun,
    run_whether, Ahead.anyOf_of_not_reserved hi (by decide), if_neg nofun, run_whether, if_pos ho]
  exact hpath

theorem run_type_name (hts : endsName ts = true) (plus : Bool) :
    (type self plus).run (.ident i :: ts) = some (⟨[.token (.ident i)], .name⟩, ts) :=
  run_type_segment hi (run_segment_bare hi hts) (.inl rfl) hts plus

omit hi

theorem run_genericArgument {p : Parameter} (hp : p.Named) {m : Nat} {ts : List Token}
    (hts : (∃ ts', ts = Token.operator ">" ++ ts') ∨ ∃ ts', ts = Token.operator "," ++ ts') :
    (genericArgument (rules (m + 1))).run (p.name ++ ts) =
      some ((p.lifetime, Code.ofTokens p.name), ts) := by
  cases hl : p.lifetime
  case true =>
    have ⟨s, i, hn⟩ := hp.lifetime hl
    rw [hn]
    obtain ⟨ts', rfl⟩ | ⟨ts', rfl⟩ := hts <;> rfl
  case false =>
    have ⟨i, hn, hi⟩ := hp.other hl
    rw [hn]
    have hend : endsName ts = true := by
      obtain ⟨ts', rfl⟩ | ⟨ts', rfl⟩ := hts <;> rfl
    cases hi
    case inl hi =>
      have hr (k : String) (hk : k ∈ Ahead.reserved) : Ahead.keyword k (.ident i :: ts) = false :=
        Ahead.keyword_of_not_reserved hi hk
      simp only [Ahead.keyword] at hr
      have hlit : Ahead.any [.literal, .group .brace] (.ident i :: ts) = false := by
        simp [Ahead.any, Ahead.literal, Ahead.group, hr "true" (by decide), hr "false" (by decide)]
      have ht : (rules (m + 1) (.type true)).run (.ident i :: ts) =
          some (⟨[.token (.ident i)], .name⟩, ts) := run_type_name hi hend true
      show StateT.run _ (.ident i :: ts) = _
      rw [genericArgument, run_whether, if_neg (by rintro ⟨⟩), run_whether, hlit,
        if_neg Bool.false_ne_true, run_bind_of ht, if_neg (by rintro ⟨⟩)]
      obtain ⟨ts', rfl⟩ | ⟨ts', rfl⟩ := hts <;> rfl
    case inr hi =>
      obtain ⟨name, raw, span⟩ := i
      obtain ⟨rfl, rfl⟩ := Ident.of_text_blank hi
      rfl

-- The parameters as the arguments that they are read as.
def orderedArguments (g : Generics) (trailing : Bool) : Listed (Bool × Code) :=
  ⟨g.ordered.map fun p => (p.lifetime, Code.ofTokens p.name), trailing⟩

theorem run_listed_arguments {g : Generics} (hne : g.ordered ≠ []) (hp : ∀ p ∈ g.items, p.Named)
    (m : Nat) (trailing : Bool) (ts : List Token) :
    (listed true (.punct ">") "," (genericArgument (rules (m + 1)))).run
      (withCommas (g.ordered.map (·.name)) trailing ++ (Token.operator ">" ++ ts)) =
        some (orderedArguments g trailing, Token.operator ">" ++ ts) := by
  have hx : ∀ p ∈ g.ordered, p.name ≠ [] ∧
      (∀ ts, Ahead.punct ">" (p.name ++ ts) = false) ∧ ∃ a,
        a = (p.lifetime, Code.ofTokens p.name) ∧ ∀ ts',
          ts' = Token.operator ">" ++ ts ∨ (∃ ts, ts' = Token.operator "," ++ ts) →
            (genericArgument (rules (m + 1))).run (p.name ++ ts') = some (a, ts') := by
    intro p h
    have hp := hp p (Generics.mem_ordered.mp h)
    have ⟨hn, hs⟩ := hp.opens
    refine ⟨hn, hs, _, rfl, fun ts' hts => ?_⟩
    exact run_genericArgument hp (hts.imp_left fun h => ⟨ts, h⟩)
  have ⟨as, has, h⟩ := run_listed_of (·.name) true trailing (fun _ => hne) hx rfl rfl fun _ => rfl
  have he : as = g.ordered.map fun p => (p.lifetime, Code.ofTokens p.name) := by
    rw [← List.forall₂_eq_eq_eq, List.forall₂_map_right_iff]
    exact has.flip
  rw [h, he]
  rfl

-- They are in order, so that none of them is moved.
theorem tokens_orderedArguments {g : Generics} (hne : g.ordered ≠ []) (trailing : Bool) :
    (orderedArguments g trailing).codeLifetimesFirst.tokens =
      withCommas (g.ordered.map (·.name)) trailing := by
  have hi : (orderedArguments g trailing).items.map (fun x => (x.1, x.2.tokens)) =
      (g.items.filter (·.lifetime)).map (fun p => (p.lifetime, p.name)) ++
        (g.items.filter (!·.lifetime)).map (fun p => (p.lifetime, p.name)) := by
    simp [orderedArguments, Generics.ordered, Function.comp_def, Code.tokens_ofTokens]
  have ht := Listed.writeLifetimesFirst_of_sorted (l := ⟨_, trailing⟩) hi
    (List.forall_mem_map.mpr fun p h => (List.mem_filter.mp h).2)
    (List.forall_mem_map.mpr fun p h => by simpa using (List.mem_filter.mp h).2)
    (fun _ => by simpa [orderedArguments] using hne)
  rw [Listed.tokens_codeLifetimesFirst]
  refine ht.trans ?_
  simp [orderedArguments, Function.comp_def, Code.tokens_ofTokens]

theorem run_arguments {g : Generics} (hg : g.items ≠ []) (hp : ∀ p ∈ g.items, p.Named) (m : Nat) :
    ∃ c : Code, c.tokens = g.arguments ∧ ∀ ts,
      (angleArguments (rules (m + 1))).run (g.arguments ++ ts) = some (.angled c false, ts) := by
  have ⟨trailing, hw⟩ := Generics.exists_arguments_eq hg
  have hne : g.ordered ≠ [] := by
    obtain ⟨p, hp⟩ := List.exists_mem_of_ne_nil _ hg
    exact List.ne_nil_of_mem (Generics.mem_ordered.mpr hp)
  let l := orderedArguments g trailing
  refine ⟨Code.ofTokens (Token.operator "<") ++ l.codeLifetimesFirst ++
    Code.ofTokens (Token.operator ">"), ?_, fun ts => ?_⟩
  · rw [Code.tokens_append, Code.tokens_append, Code.tokens_ofTokens, Code.tokens_ofTokens,
      tokens_orderedArguments hne, hw, List.append_assoc]
  · have hb : l.items.isEmpty = false := by simpa [l, orderedArguments] using hne
    rw [hw, List.append_assoc, List.append_assoc, angleArguments,
      run_bind_of (run_punct "<"), run_bind_of (run_listed_arguments hne hp m trailing ts),
      run_bind_of (run_punct ">"), hb]
    rfl

theorem run_subject {g : Generics} {i : Ident} (hi : Ahead.reserved.contains i.text = false)
    (hp : ∀ p ∈ g.items, p.Named) (m : Nat) : ∃ c : Code,
      c.tokens = .ident i :: g.arguments ∧ ∀ ts, endsName ts = true →
        (type (rules (m + 1)) true).run (.ident i :: (g.arguments ++ ts)) =
          some (⟨c, .name⟩, ts) := by
  by_cases hg : g.items = []
  case pos =>
    have ha : g.arguments = [] := by
      have he : g.isEmpty = true := List.isEmpty_iff.mpr hg
      rw [Generics.arguments, Generics.write, if_pos he]
      rfl
    rw [ha]
    exact ⟨_, rfl, fun ts hts => run_type_name hi hts true⟩
  case neg =>
    obtain ⟨c, hc, ha⟩ := run_arguments hg hp m
    obtain ⟨trailing, hw⟩ := Generics.exists_arguments_eq hg
    refine ⟨.token (.ident i) :: c, ?_, fun ts hts => ?_⟩
    · rw [← hc]
      rfl
    · have ha := ha ts
      rw [hw, List.append_assoc] at ha ⊢
      exact run_type_segment hi (run_segment_angled hi ha) (.inr ⟨_, rfl⟩) hts true

end Grammar

end Accessors
