namespace Accessors

inductive Capability
  | byIndex
  | byName
  | enumerate
deriving DecidableEq

namespace Capability

-- The capabilities in the order in which their accessors are written.
def all : List Capability :=
  [byIndex, byName, enumerate]

def marker : Capability → String
  | byIndex => "by_index"
  | byName => "by_name"
  | enumerate => "enumerate"

def ofMarker? (name : String) : Option Capability :=
  all.find? (·.marker == name)

theorem mem_all (c : Capability) : c ∈ all := by
  cases c <;> simp [all]

theorem marker_injective {c d : Capability} (h : c.marker = d.marker) : c = d := by
  cases c <;> cases d <;> simp_all [marker]

theorem ofMarker?_eq_some_iff {name : String} {c : Capability} :
    ofMarker? name = some c ↔ c.marker = name := by
  constructor
  · intro h
    simpa using List.find?_some h
  · rintro rfl
    cases c <;> simp [ofMarker?, all, marker]

theorem ofMarker?_eq_none_iff {name : String} :
    ofMarker? name = none ↔ ∀ c : Capability, name ≠ c.marker := by
  rw [Option.eq_none_iff_forall_ne_some]
  exact forall_congr' fun c => not_congr (ofMarker?_eq_some_iff.trans eq_comm)

end Capability

@[ext]
structure Capabilities where
  byIndex : Bool
  byName : Bool
  enumerate : Bool
deriving DecidableEq

namespace Capabilities

def empty : Capabilities where
  byIndex := false
  byName := false
  enumerate := false

def contains (s : Capabilities) : Capability → Bool
  | .byIndex => s.byIndex
  | .byName => s.byName
  | .enumerate => s.enumerate

def insert (s : Capabilities) : Capability → Capabilities
  | .byIndex => { s with byIndex := true }
  | .byName => { s with byName := true }
  | .enumerate => { s with enumerate := true }

def isEmpty (s : Capabilities) : Bool :=
  !(s.byIndex || s.byName || s.enumerate)

def toList (s : Capabilities) : List Capability :=
  Capability.all.filter s.contains

def insertAll (s : Capabilities) (cs : List Capability) : Capabilities :=
  cs.foldl insert s

def ofList (cs : List Capability) : Capabilities :=
  empty.insertAll cs

def union (s t : Capabilities) : Capabilities :=
  s.insertAll t.toList

theorem contains_empty (c : Capability) : empty.contains c = false := by
  cases c <;> rfl

theorem contains_insert (s : Capabilities) (c d : Capability) :
    (s.insert c).contains d = (decide (c = d) || s.contains d) := by
  cases c <;> cases d <;> simp [insert, contains]

theorem ext_contains {s t : Capabilities} (h : ∀ c, s.contains c = t.contains c) : s = t :=
  Capabilities.ext (h .byIndex) (h .byName) (h .enumerate)

theorem eq_of_contains_iff {s t : Capabilities}
    (h : ∀ c, s.contains c = true ↔ t.contains c = true) : s = t :=
  ext_contains fun c => Bool.eq_iff_iff.mpr (h c)

theorem exists_contains_iff (p : Capability → Prop) : ∃ s, ∀ c, contains s c = true ↔ p c := by
  classical
  refine ⟨⟨decide (p .byIndex), decide (p .byName), decide (p .enumerate)⟩, fun c => ?_⟩
  cases c <;> exact decide_eq_true_iff

theorem mem_toList {s : Capabilities} {c : Capability} : c ∈ s.toList ↔ s.contains c = true := by
  simp [toList, Capability.mem_all]

theorem contains_insertAll (s : Capabilities) (cs : List Capability) (d : Capability) :
    (s.insertAll cs).contains d = true ↔ d ∈ cs ∨ s.contains d = true := by
  induction cs generalizing s with
  | nil => simp [insertAll]
  | cons c cs ih =>
    have := ih (s.insert c)
    simp only [insertAll, List.foldl_cons] at this ⊢
    simp only [this, contains_insert, List.mem_cons, Bool.or_eq_true, decide_eq_true_eq]
    grind

theorem contains_union (s t : Capabilities) (c : Capability) :
    (s.union t).contains c = (s.contains c || t.contains c) := by
  rw [Bool.eq_iff_iff, union, contains_insertAll, mem_toList, Bool.or_eq_true, or_comm]

theorem union_empty (s : Capabilities) : s.union .empty = s :=
  ext_contains fun c => by rw [contains_union, contains_empty, Bool.or_false]

theorem empty_union (s : Capabilities) : empty.union s = s :=
  ext_contains fun c => by rw [contains_union, contains_empty, Bool.false_or]

theorem union_assoc (s t u : Capabilities) : (s.union t).union u = s.union (t.union u) :=
  ext_contains fun c => by simp only [contains_union, Bool.or_assoc]

end Capabilities

end Accessors
