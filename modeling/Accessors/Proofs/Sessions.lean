import Accessors.Proofs.Aliases

namespace Accessors

namespace Registry

theorem run_register (r : Registry) (a : Alias) : (register a).run r =
    match r.addAlias a.name a.target with
    | .ok s => (.ok (), s)
    | .error problem => (.error problem, r) := by
  rw [register, addAlias]
  cases Capability.ofMarker? a.target.text
  case none => rfl
  case some c =>
    simp only [StateT.run_bind, StateT.run_get, pure_bind]
    cases r.lookup a.name.text
    case none => rfl
    case some existing =>
      by_cases h : existing = c
      case pos =>
        simp only [h, if_pos]
        rfl
      case neg =>
        simp only [h, if_false]
        rfl

-- The ways for a call to end, and the registry that it leaves behind. Whether the target is known is
-- what is looked at first.
inductive Registers (r : Registry) (a : Alias) : Except AliasProblem Unit → Registry → Prop
  | unknown (h : ∀ c : Capability, a.target.text ≠ c.marker) :
    Registers r a (.error (.unknownCapability a.target)) r
  | conflicting (c d : Capability) (target : a.target.text = c.marker)
    (bound : r.lookup a.name.text = some d) (h : d ≠ c) :
    Registers r a (.error (.conflictingAlias a.name d c)) r
  | repeated (c : Capability) (target : a.target.text = c.marker)
    (bound : r.lookup a.name.text = some c) : Registers r a (.ok ()) r
  | added (c : Capability) (target : a.target.text = c.marker)
    (unbound : r.lookup a.name.text = none) : Registers r a (.ok ()) (r.bind a.name.text c)

theorem registers (r : Registry) (a : Alias) :
    r.Registers a ((register a).run r).1 ((register a).run r).2 := by
  rw [run_register, addAlias]
  cases ht : Capability.ofMarker? a.target.text
  case none => exact .unknown (Capability.ofMarker?_eq_none_iff.mp ht)
  case some c =>
    have hc := (Capability.ofMarker?_eq_some_iff.mp ht).symm
    cases hb : r.lookup a.name.text
    case none => exact .added c hc hb
    case some d =>
      by_cases h : d = c
      case pos => simpa [h] using .repeated c hc (h ▸ hb)
      case neg => simpa [h] using .conflicting c d hc hb h

theorem run_of_registers {r s : Registry} {a : Alias} {outcome : Except AliasProblem Unit}
    (h : r.Registers a outcome s) : (register a).run r = (outcome, s) := by
  have known {c : Capability} (hc : a.target.text = c.marker) :
      Capability.ofMarker? a.target.text = some c := Capability.ofMarker?_eq_some_iff.mpr hc.symm
  rw [run_register, addAlias]
  cases h
  case unknown h => rw [Capability.ofMarker?_eq_none_iff.mpr h]
  case conflicting c d target bound h => simp [known target, bound, h]
  case repeated c target bound => simp [known target, bound]
  case added c target unbound => simp [known target, unbound]

structure Sound (r : Registry) : Prop where
  distinct : (r.bindings.map Prod.fst).Nodup
  canonical (c : Capability) : r.lookup c.marker = some c

theorem not_mem_of_lookup_eq_none {r : Registry} {name : String} (h : r.lookup name = none) :
    name ∉ r.bindings.map Prod.fst := by
  intro hm
  obtain ⟨b, hb, rfl⟩ := List.mem_map.mp hm
  have hn := List.lookup_eq_none_iff.mp h b hb
  simp at hn

theorem sound_canonical : canonical.Sound where
  distinct := by decide
  canonical c := by cases c <;> rfl

theorem Sound.bind {r : Registry} (h : r.Sound) {name : String} (hn : r.lookup name = none)
    (c : Capability) : (r.bind name c).Sound where
  distinct := by
    rw [Registry.bind, List.map_append]
    refine List.nodup_append.mpr ⟨h.distinct, by simp, fun bound hb other ho => ?_⟩
    rw [List.mem_singleton.mp ho]
    rintro rfl
    exact not_mem_of_lookup_eq_none hn hb
  canonical d := r.extends_bind name c _ _ (h.canonical d)

namespace Registers

variable {r s : Registry} {a : Alias} {outcome : Except AliasProblem Unit}

theorem extension (h : r.Registers a outcome s) : r.Extends s := by
  cases h
  case added c _ _ => exact r.extends_bind a.name.text c
  all_goals exact .refl r

theorem sound (h : r.Registers a outcome s) (hr : r.Sound) : s.Sound := by
  cases h
  case added c _ unbound => exact hr.bind unbound c
  all_goals exact hr

theorem ok_iff (h : r.Registers a outcome s) : outcome = .ok () ↔
    ∃ c : Capability, a.target.text = c.marker ∧ ∀ d, r.lookup a.name.text = some d → d = c := by
  cases h
  case unknown h =>
    refine iff_of_false (by rintro ⟨⟩) ?_
    rintro ⟨c, hc, _⟩
    exact h c hc
  case conflicting c d target bound h =>
    refine iff_of_false (by rintro ⟨⟩) ?_
    rintro ⟨e, he, hd⟩
    rw [Capability.marker_injective (target.symm.trans he)] at h
    exact h (hd d bound)
  case repeated c target bound =>
    refine iff_of_true rfl ⟨c, target, fun d hd => ?_⟩
    rw [bound] at hd
    exact (Option.some_inj.mp hd).symm
  case added c target unbound =>
    refine iff_of_true rfl ⟨c, target, fun d hd => ?_⟩
    rw [unbound] at hd
    contradiction

theorem lookup_eq_some_iff (h : r.Registers a (.ok ()) s) {name : String}
    {c : Capability} : s.lookup name = some c ↔
      r.lookup name = some c ∨ a.name.text = name ∧ a.target.text = c.marker := by
  cases h
  case repeated d target bound =>
    refine ⟨.inl, ?_⟩
    rintro (h | ⟨rfl, h⟩)
    · exact h
    · rw [bound, Capability.marker_injective (target.symm.trans h)]
  case added d target unbound =>
    have ht : a.target.text = c.marker ↔ d = c :=
      ⟨fun h => Capability.marker_injective (target.symm.trans h), fun h => h ▸ target⟩
    rw [lookup_bind, ht]
    by_cases hn : a.name.text = name
    case pos =>
      subst hn
      simp [unbound]
    case neg => simp [hn]

theorem lookup_of_ok (h : r.Registers a (.ok ()) s) :
    ∃ c : Capability, a.target.text = c.marker ∧ s.lookup a.name.text = some c := by
  obtain ⟨c, hc, _⟩ := h.ok_iff.mp rfl
  exact ⟨c, hc, h.lookup_eq_some_iff.mpr (.inr ⟨rfl, hc⟩)⟩

theorem outcome_of_unknown (h : r.Registers a outcome s)
    (hu : ∀ c : Capability, a.target.text ≠ c.marker) :
    outcome = .error (.unknownCapability a.target) := by
  cases h
  case unknown => rfl
  case conflicting c d target _ _ => exact absurd target (hu c)
  case repeated c target _ => exact absurd target (hu c)
  case added c target _ => exact absurd target (hu c)

theorem eq_of_not_ok (h : r.Registers a outcome s) (ho : outcome ≠ .ok ()) : s = r := by
  cases h
  case unknown => rfl
  case conflicting => rfl
  case repeated => contradiction
  case added => contradiction

end Registers

def outcomes (r : Registry) (as : List Alias) : List (Except AliasProblem Unit) :=
  ((session as).run r).1

def after (r : Registry) (as : List Alias) : Registry :=
  ((session as).run r).2

theorem run_session_cons (r : Registry) (a : Alias) (as : List Alias) :
    (session (a :: as)).run r =
      (((register a).run r).1 :: ((register a).run r).2.outcomes as,
        ((register a).run r).2.after as) := by
  rw [session, List.mapM_cons]
  rfl

theorem after_cons (r : Registry) (a : Alias) (as : List Alias) :
    r.after (a :: as) = ((register a).run r).2.after as := by
  rw [after, run_session_cons]

theorem outcomes_cons (r : Registry) (a : Alias) (as : List Alias) :
    r.outcomes (a :: as) = ((register a).run r).1 :: ((register a).run r).2.outcomes as := by
  rw [outcomes, run_session_cons]

theorem after_append (r : Registry) (as bs : List Alias) :
    r.after (as ++ bs) = (r.after as).after bs := by
  induction as generalizing r
  case nil => rfl
  case cons a as ih => rw [List.cons_append, after_cons, after_cons, ih]

theorem after_induction {P : Registry → Prop} (as : List Alias) {r : Registry} (h : P r)
    (hs : ∀ s a outcome t, P s → s.Registers a outcome t → P t) : P (r.after as) := by
  induction as generalizing r
  case nil => exact h
  case cons a as ih =>
    rw [after_cons]
    exact ih (hs r a _ _ h (r.registers a))

theorem extends_after (r : Registry) (as : List Alias) : r.Extends (r.after as) :=
  after_induction as (.refl r) fun _ _ _ _ h hs => h.trans hs.extension

theorem Sound.after {r : Registry} (h : r.Sound) (as : List Alias) : (r.after as).Sound :=
  after_induction as h fun _ _ _ _ h hs => hs.sound h

-- After any session, the registry has its names apart and the canonical ones for the capabilities
-- that they belong to. Later calls never change what a name stands for. The next call succeeds if
-- its target is known and its name is not bound otherwise, and if it fails, nothing has changed.
theorem session_keeps_bindings (as : List Alias) :
    (canonical.after as).Sound ∧
    (∀ more, (canonical.after as).Extends (canonical.after (as ++ more))) ∧
    ∀ a outcome s, (register a).run (canonical.after as) = (outcome, s) →
      (outcome = .ok () ↔ ∃ c : Capability, a.target.text = c.marker ∧
        ∀ d, (canonical.after as).lookup a.name.text = some d → d = c) ∧
      (outcome = .ok () →
        ∃ c : Capability, a.target.text = c.marker ∧ s.lookup a.name.text = some c) ∧
      ((∀ c : Capability, a.target.text ≠ c.marker) →
        outcome = .error (.unknownCapability a.target)) ∧
      (outcome ≠ .ok () → s = canonical.after as) := by
  refine ⟨sound_canonical.after as, fun more => ?_, fun a outcome s h => ?_⟩
  · rw [after_append]
    exact extends_after _ more
  · have hr := (canonical.after as).registers a
    rw [h] at hr
    refine ⟨hr.ok_iff, ?_, hr.outcome_of_unknown, hr.eq_of_not_ok⟩
    rintro rfl
    exact hr.lookup_of_ok

end Registry

end Accessors
