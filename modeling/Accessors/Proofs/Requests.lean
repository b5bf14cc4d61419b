import Accessors.Proofs.Sweeping

namespace Accessors

namespace Registry

variable (r : Registry)

def problemsAt (s : Site) : List Problem :=
  (r.outcomeAt s).problem?.toList ++ (r.unreachedAt? s).toList

def wovenAttributes? (s : Site) : Option (List Attribute) :=
  (r.wovenAt? s).map Site.attributes

-- The ways in which the declaration at a site is answered. No two of them go together.
inductive Answered (s : Site) : Prop
  | generated (f : Fragment) (as : List Attribute) (fragment : (r.outcomeAt s).fragment? = some f)
    (problems : r.problemsAt s = []) (woven : r.wovenAttributes? s = some as)
    (unmarked : r.Unmarks as)
  | reported (p : Problem) (as : List Attribute) (fragment : (r.outcomeAt s).fragment? = none)
    (problems : r.problemsAt s = [p]) (woven : r.wovenAttributes? s = some as)
    (unmarked : r.Unmarks as)
  | derived (as : List Attribute) (fragment : (r.outcomeAt s).fragment? = none)
    (problems : r.problemsAt s = []) (unheld : s.isHeld = false)
    (derives : derivesAccessors s.attributes) (woven : r.wovenAttributes? s = some as)
    (kept : as.map Attribute.bare = s.attributes.map Attribute.bare)

theorem answered_held {c : Candidate} (h : r.requests c.declaration.attributes) :
    r.Answered (.held c) := by
  have hu := r.unmarks_strip c.declaration.attributes
  cases hp : r.process c
  case unmarked => exact absurd hp (r.process_ne_unmarked h)
  case generated f =>
    exact .generated f _ (by simp [outcomeAt, hp, Outcome.fragment?])
      (by simp [problemsAt, outcomeAt, unreachedAt?, hp, Outcome.problem?]) rfl hu
  case failed p =>
    exact .reported p _ (by simp [outcomeAt, hp, Outcome.fragment?])
      (by simp [problemsAt, outcomeAt, unreachedAt?, hp, Outcome.problem?]) rfl hu

theorem answered_loose {d : Nested} (h : r.requests d.attributes) : r.Answered (.loose d) := by
  have ⟨a, ha, hr⟩ := List.any_eq_true.mp h
  simp only [Bool.and_eq_true] at hr
  have hb := r.bare_reached d
  have hp : r.problemsAt (.loose d) = (r.unreached? d).toList := List.nil_append _
  cases hd : derivesAccessors d.attributes
  case true =>
    rw [filter_keeps_of_derives hd] at hb
    rw [unreached?, outOfReach?_of_derives d.name hd] at hp
    exact .derived _ rfl hp rfl hd rfl hb
  case false =>
    cases hm : d.attributes.find? r.isMarker
    case none => exact absurd hr.left (List.find?_eq_none.mp hm a ha)
    case some marker =>
      rw [unreached?, outOfReach?_of_not_derives d.name hd, hm] at hp
      refine .reported _ _ rfl hp rfl fun b hb => ?_
      change b ∈ (r.reached d).attributes at hb
      rw [reached, sweepAttributes_eq] at hb
      obtain ⟨e, he, rfl⟩ := List.mem_map.mp hb
      have hk := (List.mem_filter.mp he).right
      rw [keeps_of_not_derives hd] at hk
      rw [isMarker_sweepAttribute]
      simpa using hk

theorem answered_enclosed_iff {d : Nested} :
    r.Answered (.enclosed d) ↔ derivesAccessors d.attributes = true := by
  constructor
  case mp =>
    intro h
    cases h
    case generated => contradiction
    case reported => contradiction
    case derived h _ _ => exact h
  case mpr => exact fun h => .derived _ rfl rfl rfl h rfl rfl

theorem not_answered_dropped {d : Nested} : ¬r.Answered (.dropped d) := by
  intro h
  cases h <;> contradiction

theorem answered_iff {s : Site} (h : r.requests s.attributes) :
    r.Answered s ↔ (s.isEnclosed → derivesAccessors s.attributes) ∧ ¬s.isDropped := by
  cases s
  case held c =>
    have hh : r.Answered (.held c) := r.answered_held h
    simpa [Site.isEnclosed, Site.isDropped] using hh
  case loose d =>
    have hl : r.Answered (.loose d) := r.answered_loose h
    simpa [Site.isEnclosed, Site.isDropped] using hl
  case enclosed d =>
    simpa [Site.isEnclosed, Site.isDropped, Site.attributes, Site.nested] using
      r.answered_enclosed_iff
  case dropped d => simpa [Site.isDropped] using r.not_answered_dropped

theorem requests_answered_unless_enclosed (m : Module) :
    (r.sites m).map Site.nested = Code.nested m.item.pieces ∧
    r.fragments m.candidates = (r.sites m).filterMap (fun s => (r.outcomeAt s).fragment?) ∧
    r.problems m.candidates = (r.sites m).filterMap (fun s => (r.outcomeAt s).problem?) ∧
    (r.weave (r.fragments m.candidates) m).2 = (r.sites m).filterMap r.unreachedAt? ∧
    r.sites (r.weave (r.fragments m.candidates) m).1 = (r.sites m).filterMap r.wovenAt? ∧
    ∀ s ∈ r.sites m, r.requests s.attributes →
      (r.Answered s ↔ (s.isEnclosed → derivesAccessors s.attributes) ∧ ¬s.isDropped) :=
  ⟨r.map_nested_sites m, r.fragments_eq m, r.problems_eq m, r.weave_problems _ m,
    r.weave_sites _ m, fun _ _ h => r.answered_iff h⟩

end Registry

-- `mod shapes { #[note = { #[by_index] struct Noted; 3 }] fn area() { #[by_index] struct Inner; } }`
def bodyModule : Module where
  head := ⟨[], [], [], ⟨"shapes", false, .unlocated⟩⟩
  items := some [.code [.attr noteAttribute,
    areaFunction [markedUnit ⟨"Inner", false, .unlocated⟩]]]

set_option maxRecDepth 4000 in
theorem requests_in_function_answered :
    Module.ofTokens? bodyModule.tokens = some bodyModule ∧
    (Registry.canonical.sites bodyModule).map (·.nested.name.name) = ["Noted", "Inner"] ∧
    ∀ s ∈ Registry.canonical.sites bodyModule,
      Registry.canonical.requests s.attributes = true ∧ Registry.canonical.Answered s := by
  have h := (Registry.canonical.requests_answered_unless_enclosed bodyModule).2.2.2.2.2
  have hs : ∀ s ∈ Registry.canonical.sites bodyModule, Registry.canonical.requests s.attributes =
      true ∧ s.isEnclosed = false ∧ s.isDropped = false := by
    decide
  refine ⟨rfl, rfl, fun s hm => ?_⟩
  obtain ⟨hr, he, hd⟩ := hs s hm
  exact ⟨hr, (h s hm hr).mpr ⟨by simp [he], by simp [hd]⟩⟩

-- `mod shapes { struct Outer([u8; { #[by_index] struct Inner; 3 }]); }`
def enclosingModule : Module where
  head := ⟨[], [], [], ⟨"shapes", false, .unlocated⟩⟩
  items := some [.declaration {
    attributes := []
    visibility := []
    name := ⟨"Outer", false, .unlocated⟩
    generics := .none
    clause := []
    shape := .struct <| .tuple ⟨[⟨[], [], [.group .bracket .unlocated .unlocated [
      .token (.word "u8"), .token (.punct ';' .alone .unlocated),
      .group .brace .unlocated .unlocated [
        markedUnit ⟨"Inner", false, .unlocated⟩, .token (.number 3)]]]⟩], false⟩ }]

set_option maxRecDepth 4000 in
theorem enclosed_request_unanswered :
    Module.ofTokens? enclosingModule.tokens = some enclosingModule ∧
    Registry.canonical.fragments enclosingModule.candidates = [] ∧
    Registry.canonical.problems enclosingModule.candidates = [] ∧
    Registry.canonical.weave [] enclosingModule = (enclosingModule, []) ∧
    ∃ s ∈ Registry.canonical.sites enclosingModule,
      Registry.canonical.requests s.attributes = true ∧ ¬Registry.canonical.Answered s := by
  refine ⟨rfl, rfl, rfl, rfl, .enclosed ⟨[indexMarker], ⟨"Inner", false, .unlocated⟩⟩,
    .tail _ (.head _), by decide, ?_⟩
  rw [Registry.answered_enclosed_iff]
  decide

end Accessors
