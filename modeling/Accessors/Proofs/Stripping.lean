import Accessors.Proofs.Extension

namespace Accessors

open List

namespace Registry

variable {r : Registry} {a : Attribute} {as : List Attribute}

def consumed (r : Registry) (as : List Attribute) : List Attribute :=
  as.filter r.isMarker

theorem consumed_cons_of_isMarker (h : r.isMarker a = true) :
    r.consumed (a :: as) = a :: r.consumed as :=
  filter_cons_of_pos h

theorem consumed_cons_of_not_isMarker (h : r.isMarker a = false) :
    r.consumed (a :: as) = r.consumed as :=
  filter_cons_of_neg (Bool.eq_false_iff.mp h)

theorem consumed_append_strip_perm (r : Registry) (as : List Attribute) :
    r.consumed as ++ r.strip as ~ as :=
  filter_append_perm r.isMarker as

theorem classify_consumed (r : Registry) (as : List Attribute) :
    r.classify (r.consumed as) = r.classify as := by
  induction as
  case nil => rfl
  case cons a as ih =>
    cases h : r.isMarker a
    case false => rw [consumed_cons_of_not_isMarker h, classify_cons_of_not_isMarker h, ih]
    case true => rw [consumed_cons_of_isMarker h, classify_cons, classify_cons, ih]

theorem exists_capability_of_isMarker (h : r.isMarker a = true)
    (hl : isListMarker a.path = false) : ∃ c, r.capabilityOf a.path = some c := by
  rwa [isMarker, hl, Bool.false_or, Option.isSome_iff_exists] at h

-- A marker that is no list asks for one capability, whatever its arguments are. They are not read.
theorem exists_resolve_of_isMarker (h : r.isMarker a = true) (hl : isListMarker a.path = false) :
    ∃ s, r.resolve a = .ok s ∧ ∃! c, s.contains c = true := by
  obtain ⟨c, hc⟩ := exists_capability_of_isMarker h hl
  refine ⟨.ofList [c], ?_, c, ?_, fun d hd => ?_⟩
  · rw [resolve_of_not_list hl, hc]
    rfl
  · exact (Capabilities.contains_insertAll _ _ _).mpr (.inl (mem_singleton_self c))
  · cases (Capabilities.contains_insertAll _ _ _).mp hd
    case inl hm => exact mem_singleton.mp hm
    case inr hn =>
      rw [Capabilities.contains_empty] at hn
      contradiction

theorem stripped_is_read (r : Registry) (as : List Attribute) :
    (r.consumed as <+ as ∧ r.strip as <+ as ∧ r.consumed as ++ r.strip as ~ as) ∧
    r.classify (r.strip as) = .ok .empty ∧
    r.classify (r.consumed as) = r.classify as ∧
    ∀ a ∈ r.consumed as, isListMarker a.path = false →
      ∃ s, r.resolve a = .ok s ∧ ∃! c, s.contains c = true := by
  refine ⟨⟨filter_sublist, filter_sublist, r.consumed_append_strip_perm as⟩,
    classify_of_unmarks (r.unmarks_strip as), r.classify_consumed as, fun a ha hl => ?_⟩
  exact exists_resolve_of_isMarker (mem_filter.mp ha).right hl

end Registry

-- `#[serde::by_index]`
def foreignMarker : Attribute :=
  ⟨false, .unlocated, .unlocated, .unlocated,
    ⟨false, [plainIdent "serde", plainIdent "by_index"]⟩, .absent⟩

-- `#[serde::by_index] #[idx] #[doc] #[member_access(by_position)]`, where the list has a name in it
-- that is not known
theorem unknown_marker_stripped :
    let as := [foreignMarker, plainMarker "idx", plainMarker "doc", listedMarker "by_position"]
    indexAlias.strip as = [foreignMarker, plainMarker "doc"] ∧
    indexAlias.classify (indexAlias.strip as) = .ok .empty ∧
    indexAlias.classify as = .error ⟨.unknownMarker, .unlocated⟩ ∧
    indexAlias.classify (indexAlias.consumed as) = .error ⟨.unknownMarker, .unlocated⟩ ∧
    plainMarker "idx" ∈ indexAlias.consumed as ∧
    Registry.isListMarker (plainMarker "idx").path = false ∧
    ∃ s, indexAlias.resolve (plainMarker "idx") = .ok s ∧ ∃! c, s.contains c = true := by
  intro as
  obtain ⟨_, hs, hc, hr⟩ := indexAlias.stripped_is_read as
  have hf : indexAlias.classify as = .error ⟨.unknownMarker, .unlocated⟩ := rfl
  have hm : plainMarker "idx" ∈ indexAlias.consumed as := .head _
  have hl : Registry.isListMarker (plainMarker "idx").path = false := rfl
  exact ⟨rfl, hs, hf, hc.trans hf, hm, hl, hr _ hm hl⟩

end Accessors
