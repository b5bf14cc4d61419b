import Accessors.Pass.Outcome

namespace Accessors

theorem Capabilities.isEmpty_union (s t : Capabilities) :
    (s.union t).isEmpty = (s.isEmpty && t.isEmpty) := by
  have h₁ := contains_union s t .byIndex
  have h₂ := contains_union s t .byName
  have h₃ := contains_union s t .enumerate
  simp only [contains] at h₁ h₂ h₃
  simp only [isEmpty, h₁, h₂, h₃]
  grind

namespace Registry

variable (r : Registry)

theorem classify_cons (a : Attribute) (as : List Attribute) : r.classify (a :: as) =
    match r.resolve a, r.classify as with
    | .error fault, _ => .error fault
    | .ok _, .error fault => .error fault
    | .ok s, .ok t => .ok (s.union t) := by
  rw [classify]
  cases r.resolve a
  case error => rfl
  case ok => cases r.classify as <;> rfl

def Unmarks (as : List Attribute) : Prop :=
  ∀ a ∈ as, r.isMarker a = false

theorem unmarks_strip (as : List Attribute) : r.Unmarks (r.strip as) := by
  intro a ha
  simpa using (List.mem_filter.mp ha).right

-- Whether a marker is malformed, or asks for anything.
def asks (a : Attribute) : Bool :=
  match r.resolve a with
  | .error _ => true
  | .ok s => !s.isEmpty

def requests (as : List Attribute) : Bool :=
  as.any fun a => r.isMarker a && r.asks a

theorem isEmpty_eq_false_of_requests {as : List Attribute} {u : Capabilities}
    (hr : r.requests as) (h : r.classify as = .ok u) : u.isEmpty = false := by
  induction as generalizing u
  case nil => contradiction
  case cons a as ih =>
    simp only [requests, List.any_cons, Bool.or_eq_true] at hr
    rw [classify_cons] at h
    split at h <;> cases h
    case h_3 s t hs ht =>
      rw [Capabilities.isEmpty_union]
      cases hr
      case inl ha =>
        simp only [asks, hs, Bool.and_eq_true, Bool.not_eq_true'] at ha
        simp [ha.right]
      case inr has => simp [ih has ht]

theorem process_eq_unmarked {c : Candidate} (h : c.declaration.attributes.isEmpty) :
    r.process c = .unmarked := by
  rw [List.isEmpty_iff] at h
  simp [process, h, classify, Capabilities.isEmpty, Capabilities.empty]

theorem process_ne_unmarked {c : Candidate} (h : r.requests c.declaration.attributes) :
    r.process c ≠ .unmarked := by
  rw [process]
  split
  case h_1 => simp
  case h_2 s hs =>
    have hs' := r.isEmpty_eq_false_of_requests h hs
    simp only [hs', Bool.false_eq_true, if_false]
    cases c.declaration.members? <;> simp [Candidate.fragment?, hs']

theorem process_eq_generated {c : Candidate} {s : Capabilities} {f : Fragment}
    (h : r.process c = .generated s f) :
    r.classify c.declaration.attributes = .ok s ∧ s.isEmpty = false ∧
      ∃ members, c.declaration.members? = some members ∧
        f = ⟨c.modules, c.declaration.name.name, c.declaration.implTokens members s⟩ := by
  rw [process] at h
  cases hc : r.classify c.declaration.attributes
  case error => simp [hc] at h
  case ok t =>
    cases ht : t.isEmpty
    case true => simp [hc, ht] at h
    case false =>
      cases hm : c.declaration.members?
      case none => simp [hc, ht, hm] at h
      case some members =>
        simp only [hc, ht, hm, Candidate.fragment?, Bool.false_eq_true, if_false,
          Outcome.generated.injEq] at h
        have ⟨hs, hf⟩ := h
        subst hs
        exact ⟨rfl, ht, members, rfl, hf.symm⟩

theorem modules_eq_of_process {c : Candidate} {f : Fragment}
    (h : (r.process c).fragment? = some f) : f.modules = c.modules := by
  cases hp : r.process c
  case generated s g =>
    have ⟨_, _, _, _, hg⟩ := r.process_eq_generated hp
    simp only [hp, Outcome.fragment?, Option.some.injEq] at h
    rw [← h, hg]
  all_goals simp [hp, Outcome.fragment?] at h

end Registry

-- `#[by_index]`
def indexMarker : Attribute :=
  ⟨false, .unlocated, .unlocated, .unlocated, ⟨false, [⟨"by_index", false, .unlocated⟩]⟩, .absent⟩

end Accessors
