import Accessors.Proofs.Outcomes

namespace Accessors

namespace Registry

inductive Reachable : Registry → Prop
  | initial : Reachable .canonical
  | aliased {r s : Registry} (name target : Ident) (reachable : Reachable r)
    (h : r.addAlias name target = .ok s) : Reachable s

def Extends (r s : Registry) : Prop :=
  ∀ name c, r.lookup name = some c → s.lookup name = some c

theorem Extends.refl (r : Registry) : r.Extends r :=
  fun _ _ h => h

theorem Extends.trans {r s t : Registry} (h₁ : r.Extends s) (h₂ : s.Extends t) : r.Extends t :=
  fun name c h => h₂ name c (h₁ name c h)

theorem lookup_bind (r : Registry) (name other : String) (c : Capability) :
    (r.bind name c).lookup other = (r.lookup other).or (if name = other then some c else none) := by
  rw [lookup, bind, List.lookup_append, lookup, List.lookup_cons, List.lookup_nil]
  congr 1
  by_cases h : name = other
  case pos => rw [if_pos h, beq_iff_eq.mpr h.symm]
  case neg => rw [if_neg h, beq_eq_false_iff_ne.mpr (Ne.symm h)]

theorem extends_bind (r : Registry) (name : String) (c : Capability) :
    r.Extends (r.bind name c) := by
  intro other d h
  rw [lookup_bind, h]
  rfl

theorem extends_addAlias {r s : Registry} {name target : Ident}
    (h : r.addAlias name target = .ok s) : r.Extends s := by
  rw [addAlias] at h
  split at h
  case h_1 => contradiction
  case h_2 c _ =>
    split at h
    case h_1 =>
      cases h
      exact r.extends_bind name.text c
    case h_2 =>
      split at h <;> cases h
      exact .refl r

theorem Reachable.extends_canonical {r : Registry} (h : r.Reachable) :
    Registry.canonical.Extends r := by
  induction h
  case initial => exact .refl _
  case aliased ha ih => exact ih.trans (extends_addAlias ha)

variable {r s : Registry}

theorem capabilityOf_of_extends (h : r.Extends s) {p : Path} {c : Capability}
    (hc : r.capabilityOf p = some c) : s.capabilityOf p = some c := by
  rw [capabilityOf] at hc ⊢
  split at hc
  case h_1 name _ =>
    cases hg : p.global
    case true => simp [hg] at hc
    case false => exact h name.text c (by simpa [hg] using hc)
  case h_2 => exact hc
  case h_3 => contradiction

theorem isMarker_of_extends (h : r.Extends s) {a : Attribute} (ha : r.isMarker a) :
    s.isMarker a := by
  rw [isMarker, Bool.or_eq_true, Option.isSome_iff_exists] at ha ⊢
  cases ha
  case inl hl => exact .inl hl
  case inr hc =>
    have ⟨c, hc⟩ := hc
    exact .inr ⟨c, capabilityOf_of_extends h hc⟩

theorem resolve_of_not_isMarker {a : Attribute} (h : r.isMarker a = false) :
    r.resolve a = .ok .empty := by
  rw [isMarker, Bool.or_eq_false_iff, Option.isSome_eq_false_iff, Option.isNone_iff_eq_none] at h
  simp [resolve, h.left, h.right]

-- What is no marker makes no difference, not even to which fault is told of.
theorem classify_cons_of_not_isMarker {a : Attribute} {as : List Attribute}
    (h : r.isMarker a = false) : r.classify (a :: as) = r.classify as := by
  rw [classify_cons, resolve_of_not_isMarker h]
  cases r.classify as
  case error => rfl
  case ok s => exact congrArg Except.ok s.empty_union

theorem classify_of_unmarks {as : List Attribute} (h : r.Unmarks as) :
    r.classify as = .ok .empty := by
  induction as
  case nil => rfl
  case cons a as ih =>
    rw [classify_cons_of_not_isMarker (h a (.head _))]
    exact ih fun b hb => h b (.tail _ hb)

theorem process_of_unmarks {c : Candidate} (h : r.Unmarks c.declaration.attributes) :
    r.process c = .unmarked := by
  rw [process, classify_of_unmarks h]
  rfl

theorem unmarks_of_extends (h : r.Extends s) {as : List Attribute} (hs : s.Unmarks as) :
    r.Unmarks as := by
  intro a ha
  cases hr : r.isMarker a
  case false => rfl
  case true =>
    have hm := isMarker_of_extends h hr
    rw [hs a ha] at hm
    contradiction

end Registry

end Accessors
