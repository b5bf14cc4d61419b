import Accessors.Proofs.Aliases
import Accessors.Proofs.Frame

namespace Accessors

namespace Registry

variable (r : Registry)

theorem settled_wovenAt? {s t : Site} (h : r.wovenAt? s = some t) : r.Settled t := by
  cases s
  case held c =>
    cases h
    exact r.unmarks_strip c.declaration.attributes
  case loose d =>
    cases h
    intro a ha
    rw [reached, sweepAttributes_eq] at ha
    obtain ⟨b, hb, rfl⟩ := List.mem_map.mp ha
    exact r.keeps_sweepAttribute (List.mem_filter.mp hb).right
  case enclosed d =>
    cases h
    trivial
  case dropped d => cases h

theorem process_woven {fragments : List Fragment} {m : Module} {c : Candidate}
    (h : c ∈ (r.weave fragments m).1.candidates) : r.process c = .unmarked := by
  rw [r.candidates_eq, weave_sites, List.mem_filterMap] at h
  obtain ⟨t, ht, hc⟩ := h
  obtain ⟨s, -, hs⟩ := List.mem_filterMap.mp ht
  have hu := r.settled_wovenAt? hs
  cases t
  case held d =>
    obtain rfl := Option.some.inj (Option.ite_none_left_eq_some.mp hc).right
    exact r.process_of_unmarks hu
  all_goals contradiction

theorem filterMap_woven {α : Type} (f : Candidate → Outcome → Option α)
    (h : ∀ c, f c .unmarked = none) (fragments : List Fragment) (m : Module) :
    (r.weave fragments m).1.candidates.filterMap (fun c => f c (r.process c)) = [] := by
  refine List.filterMap_eq_nil_iff.mpr fun c hc => ?_
  rw [r.process_woven hc, h]

theorem woven_module_at_rest (fragments : List Fragment) (m : Module) :
    r.fragments (r.weave fragments m).1.candidates = [] ∧
    r.problems (r.weave fragments m).1.candidates = [] ∧
    r.lines (r.weave fragments m).1.candidates = [] ∧
    r.weave [] (r.weave fragments m).1 = ((r.weave fragments m).1, []) := by
  refine ⟨?fragments, ?problems, ?lines, ?weave⟩
  case fragments => exact r.filterMap_woven (fun _ => Outcome.fragment?) (fun _ => rfl) fragments m
  case problems => exact r.filterMap_woven (fun _ => Outcome.problem?) (fun _ => rfl) fragments m
  case lines => exact r.filterMap_woven Outcome.batchLine? (fun _ => rfl) fragments m
  case weave =>
    refine r.weave_of_settled fun s hs => ?_
    rw [weave_sites] at hs
    obtain ⟨t, -, ht⟩ := List.mem_filterMap.mp hs
    exact r.settled_wovenAt? ht

end Registry

end Accessors
