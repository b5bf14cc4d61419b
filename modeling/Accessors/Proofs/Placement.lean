import Mathlib.Data.List.Flatten
import Mathlib.Data.List.Forall2
import Accessors.Proofs.Scopes

namespace Accessors

open List

namespace Registry

variable (r : Registry)

def LandsAtHome (before after : Scope) : Prop :=
  after.modules = before.modules ∧
    after.items.drop before.items.length ~
      (r.ownFragments before).map fun f => .verbatim f.tokens

-- Modules of the same path have no fragments.
def PathsApart (ss : List Scope) : Prop :=
  ss.Pairwise fun s t => s.modules = t.modules → r.ownFragments s = [] ∧ r.ownFragments t = []

theorem filter_ownFragments (path : List String) (s : Scope) :
    (r.ownFragments s).filter (·.modules = path) =
      if s.modules = path then r.ownFragments s else [] := by
  split
  case isTrue h =>
    rw [filter_eq_self]
    intro f hf
    simp [r.modules_eq_of_mem_ownFragments hf, h]
  case isFalse h =>
    rw [filter_eq_nil_iff]
    intro f hf
    simp [r.modules_eq_of_mem_ownFragments hf, h]

theorem filter_fragments_perm (m : Module) (path : List String) :
    (r.fragments m.candidates).filter (·.modules = path) ~
      (m.scopes.filter (·.modules = path)).flatMap r.ownFragments := by
  refine ((r.fragments_perm m).filter _).trans (.of_eq ?_)
  induction m.scopes
  case nil => rfl
  case cons s ss ih =>
    rw [flatMap_cons, filter_append, ih, filter_ownFragments, filter_cons]
    cases h : decide (s.modules = path) <;> simp_all

theorem gained_perm (m : Module) (s : Scope) :
    (r.wovenScope (r.fragments m.candidates) s).items.drop s.items.length ~
      ((m.scopes.filter (·.modules = s.modules)).flatMap r.ownFragments).map
        fun f => .verbatim f.tokens := by
  rw [wovenScope, drop_left' (r.length_weaveItems _ _ _), fragmentsIn]
  exact (r.filter_fragments_perm m s.modules).map _

theorem pathsApart_of_landsAtHome {m : Module}
    (h : ∀ s ∈ m.scopes, r.LandsAtHome s (r.wovenScope (r.fragments m.candidates) s)) :
    r.PathsApart m.scopes := by
  rw [PathsApart, pairwise_iff_forall_sublist]
  intro s t hst ht
  have count (u : Scope) (hu : u ∈ m.scopes) (hp : u.modules = s.modules) :
      (r.ownFragments s ++ r.ownFragments t).length ≤ (r.ownFragments u).length := by
    have hf : [s, t] <+ m.scopes.filter (·.modules = u.modules) := by
      simpa [hp, ht] using hst.filter (·.modules = u.modules)
    have hl := (hf.flatMap r.ownFragments).length_le
    have hg := ((r.gained_perm m u).symm.trans (h u hu).right).length_eq
    simp only [flatMap_cons, flatMap_nil, append_nil, length_map] at hl hg
    omega
  have hs := count s (hst.subset (by simp)) rfl
  have ht := count t (hst.subset (by simp)) ht.symm
  simp only [length_append] at hs ht
  simp only [← length_eq_zero_iff]
  omega

theorem flatMap_ownFragments_of_pathsApart {ss : List Scope} {s : Scope} (h : r.PathsApart ss)
    (hs : s ∈ ss) :
    (ss.filter (·.modules = s.modules)).flatMap r.ownFragments = r.ownFragments s := by
  induction ss
  case nil => contradiction
  case cons t ss ih =>
    have ⟨ht, hss⟩ := pairwise_cons.mp h
    cases hs
    case head =>
      have hn : (ss.filter (·.modules = s.modules)).flatMap r.ownFragments = [] := by
        rw [flatMap_eq_nil_iff]
        intro u hu
        simp only [mem_filter, decide_eq_true_eq] at hu
        exact (ht u hu.left hu.right.symm).right
      simp [hn]
    case tail hs =>
      by_cases hp : t.modules = s.modules
      case pos => simp [hp, (ht s hs hp).left, ih hss hs]
      case neg => simp [hp, ih hss hs]

theorem landsAtHome_of_pathsApart {m : Module} (h : r.PathsApart m.scopes) {s : Scope}
    (hs : s ∈ m.scopes) : r.LandsAtHome s (r.wovenScope (r.fragments m.candidates) s) := by
  refine ⟨rfl, ?_⟩
  rw [← r.flatMap_ownFragments_of_pathsApart h hs]
  exact r.gained_perm m s

theorem verbatims_weave_perm {m : Module} (h : r.PathsApart m.scopes) :
    (r.weave (r.fragments m.candidates) m).1.verbatims ~
      m.verbatims ++ (r.fragments m.candidates).map (·.tokens) := by
  have hs (s : Scope) (hs : s ∈ m.scopes) :
      (r.wovenScope (r.fragments m.candidates) s).verbatims ~
        s.verbatims ++ (r.ownFragments s).map (·.tokens) := by
    rw [verbatims_wovenScope, ← r.flatMap_ownFragments_of_pathsApart h hs]
    exact ((r.filter_fragments_perm m s.modules).map _).append_left _
  calc
    (r.weave (r.fragments m.candidates) m).1.verbatims
      = m.scopes.flatMap fun s => (r.wovenScope (r.fragments m.candidates) s).verbatims := by
        rw [Module.verbatims, scopes_weave, flatMap_map]
    _ ~ m.scopes.flatMap fun s => s.verbatims ++ (r.ownFragments s).map (·.tokens) :=
        .flatMap_left _ hs
    _ ~ m.verbatims ++ m.scopes.flatMap fun s => (r.ownFragments s).map (·.tokens) :=
        (flatMap_append_perm ..).symm
    _ = m.verbatims ++ (m.scopes.flatMap r.ownFragments).map (·.tokens) := by rw [map_flatMap]
    _ ~ m.verbatims ++ (r.fragments m.candidates).map (·.tokens) :=
        ((r.fragments_perm m).symm.map _).append_left _

theorem fragments_land_once_at_home_iff (m : Module) :
    r.fragments m.candidates ~ m.scopes.flatMap r.ownFragments ∧
    ((Forall₂ r.LandsAtHome m.scopes (r.weave (r.fragments m.candidates) m).1.scopes ∧
        (r.weave (r.fragments m.candidates) m).1.verbatims ~
          m.verbatims ++ (r.fragments m.candidates).map (·.tokens)) ↔
      r.PathsApart m.scopes) := by
  refine ⟨r.fragments_perm m, ?_⟩
  rw [scopes_weave, forall₂_map_right_iff, forall₂_same]
  constructor
  case mp => exact fun h => r.pathsApart_of_landsAtHome h.left
  case mpr => exact fun h => ⟨fun _ => r.landsAtHome_of_pathsApart h, r.verbatims_weave_perm h⟩

end Registry

-- `mod shapes { mod imp { #[by_index] struct Point; } mod sibling {} }`
def siblingModules (sibling : String) : Module where
  head := ⟨[], [], [], ⟨"shapes", false, .unlocated⟩⟩
  items := some [
    .inline ⟨[], [], [], ⟨"imp", false, .unlocated⟩⟩ [.declaration {
      attributes := [indexMarker]
      visibility := []
      name := ⟨"Point", false, .unlocated⟩
      generics := .none
      clause := []
      shape := .struct .unit }],
    .inline ⟨[], [], [], ⟨sibling, false, .unlocated⟩⟩ []]

theorem siblings_gain_their_own :
    (Registry.canonical.fragments (siblingModules "draw").candidates).length = 1 ∧
    Forall₂ Registry.canonical.LandsAtHome (siblingModules "draw").scopes
      (Registry.canonical.weave (Registry.canonical.fragments (siblingModules "draw").candidates)
        (siblingModules "draw")).1.scopes := by
  have h := (Registry.canonical.fragments_land_once_at_home_iff (siblingModules "draw")).right
  refine ⟨rfl, (h.mpr ?_).left⟩
  simp [Registry.PathsApart, siblingModules, Module.scopes, Module.item, Item.scopes, Item.scopesOf]

-- The only fragment lands in both modules of its path, one of which holds no declaration.
theorem twin_modules_both_gain :
    (Registry.canonical.fragments (siblingModules "imp").candidates).length = 1 ∧
    (Registry.canonical.weave (Registry.canonical.fragments (siblingModules "imp").candidates)
      (siblingModules "imp")).1.verbatims.length = 2 ∧
    ¬Forall₂ Registry.canonical.LandsAtHome (siblingModules "imp").scopes
      (Registry.canonical.weave (Registry.canonical.fragments (siblingModules "imp").candidates)
        (siblingModules "imp")).1.scopes := by
  refine ⟨rfl, rfl, ?_⟩
  rw [Registry.scopes_weave, forall₂_map_right_iff, forall₂_same]
  intro h
  have hp := (h ⟨["shapes", "imp"], []⟩ (.tail _ (.tail _ (.head _)))).right.length_eq
  contradiction

end Accessors
