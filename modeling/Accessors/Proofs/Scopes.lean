import Mathlib.Data.List.Perm.Basic
import Accessors.Pass.Scan
import Accessors.Pass.Weave
import Accessors.Proofs.Outcomes

namespace Accessors

open List

-- A module with its items in place. It has the names of the modules from the root down to itself.
structure Scope where
  modules : List String
  items : List Item

def Item.held? (modules : List String) : Item → Option Candidate
  | .declaration d => some ⟨modules, d⟩
  | _ => none

def Item.verbatim? : Item → Option (List Token)
  | .verbatim ts => some ts
  | _ => none

namespace Scope

-- The declarations in the item list of the module itself.
def held (s : Scope) : List Candidate :=
  s.items.filterMap (Item.held? s.modules)

def verbatims (s : Scope) : List (List Token) :=
  s.items.filterMap Item.verbatim?

end Scope

mutual

-- A module comes before those inside it.
def Item.scopes (modules : List String) : Item → List Scope
  | .declaration _ => []
  | .inline head items =>
    ⟨modules ++ [head.name.name], items⟩ :: Item.scopesOf (modules ++ [head.name.name]) items
  | .outOfLine _ => []
  | .code _ => []
  | .verbatim _ => []

def Item.scopesOf (modules : List String) : List Item → List Scope
  | [] => []
  | i :: rest => i.scopes modules ++ Item.scopesOf modules rest

end

namespace Module

def scopes (m : Module) : List Scope :=
  m.item.scopes []

def verbatims (m : Module) : List (List Token) :=
  m.scopes.flatMap Scope.verbatims

end Module

theorem Item.scopesOf_append (modules : List String) (is js : List Item) :
    Item.scopesOf modules (is ++ js) = Item.scopesOf modules is ++ Item.scopesOf modules js := by
  induction is
  case nil => rfl
  case cons i is ih => simp [Item.scopesOf, ih]

theorem Item.scopesOf_fragmentsIn (modules : List String) (fragments : List Fragment)
    (path : List String) : Item.scopesOf modules (Registry.fragmentsIn fragments path) = [] := by
  rw [Registry.fragmentsIn]
  induction fragments.filter (·.modules = path)
  case nil => rfl
  case cons f fs ih => simp [Item.scopesOf, Item.scopes, ih]

namespace Registry

variable (r : Registry) (fragments : List Fragment)

def ownFragments (s : Scope) : List Fragment :=
  r.fragments s.held

theorem fragments_append (cs ds : List Candidate) :
    r.fragments (cs ++ ds) = r.fragments cs ++ r.fragments ds :=
  filterMap_append

theorem modules_eq_of_mem_ownFragments {s : Scope} {f : Fragment} (h : f ∈ r.ownFragments s) :
    f.modules = s.modules := by
  have ⟨c, hc, hf⟩ := mem_filterMap.mp h
  have ⟨i, _, hi⟩ := mem_filterMap.mp hc
  rw [r.modules_eq_of_process hf]
  cases i <;> simp [Item.held?] at hi
  case declaration d => rw [← hi]

theorem fragments_declaration (modules : List String) (d : Declaration) :
    r.fragments ((Item.declaration d).candidates modules) = r.fragments [⟨modules, d⟩] := by
  cases h : d.attributes.isEmpty
  case false => simp [Item.candidates, h]
  case true => simp [Item.candidates, h, fragments, r.process_eq_unmarked, Outcome.fragment?]

mutual

theorem fragments_perm_item (modules : List String) : ∀ i : Item,
    r.fragments (i.candidates modules) ~
      r.fragments (i.held? modules).toList ++ (i.scopes modules).flatMap r.ownFragments
  | .declaration d => by
    rw [fragments_declaration, Item.scopes, flatMap_nil, append_nil]
    exact .refl _
  | .inline head items => fragments_perm_items (modules ++ [head.name.name]) items
  | .outOfLine _ => .refl _
  | .code _ => .refl _
  | .verbatim _ => .refl _

theorem fragments_perm_items (modules : List String) : ∀ is : List Item,
    r.fragments (Item.candidatesOf modules is) ~
      r.ownFragments ⟨modules, is⟩ ++ (Item.scopesOf modules is).flatMap r.ownFragments
  | [] => .refl _
  | i :: rest => by
    have ih₁ := fragments_perm_item modules i
    have ih₂ := fragments_perm_items modules rest
    have hr : r.ownFragments ⟨modules, i :: rest⟩ =
        r.fragments (i.held? modules).toList ++ r.ownFragments ⟨modules, rest⟩ := by
      simp only [ownFragments, ← fragments_append, Scope.held, filterMap_cons]
      cases i.held? modules <;> rfl
    rw [Item.candidatesOf, Item.scopesOf, fragments_append, flatMap_append, hr]
    refine (ih₁.append ih₂).trans ?_
    simp only [append_assoc]
    exact (perm_append_comm_assoc ..).append_left _

end

theorem fragments_perm (m : Module) :
    r.fragments m.candidates ~ m.scopes.flatMap r.ownFragments := by
  obtain ⟨head, items⟩ := m
  cases items
  case none => exact .refl _
  case some items => exact r.fragments_perm_items [head.name.name] items

def wovenScope (s : Scope) : Scope where
  modules := s.modules
  items := (r.weaveItems fragments s.modules s.items).1 ++ fragmentsIn fragments s.modules

mutual

theorem scopes_weaveItem (modules : List String) : ∀ i : Item,
    Item.scopes modules (r.weaveItem fragments modules i).1 =
      (i.scopes modules).map (r.wovenScope fragments)
  | .declaration _ => rfl
  | .inline head items => by
    have ih := scopes_weaveItems (modules ++ [head.name.name]) items
    simp only [weaveItem, Item.scopes, Item.scopesOf_append, Item.scopesOf_fragmentsIn,
      append_nil, map_cons, ih]
    rfl
  | .outOfLine _ => rfl
  | .code _ => rfl
  | .verbatim _ => rfl

theorem scopes_weaveItems (modules : List String) : ∀ is : List Item,
    Item.scopesOf modules (r.weaveItems fragments modules is).1 =
      (Item.scopesOf modules is).map (r.wovenScope fragments)
  | [] => rfl
  | i :: rest => by
    have ih₁ := scopes_weaveItem modules i
    have ih₂ := scopes_weaveItems modules rest
    simp [weaveItems, Item.scopesOf, ih₁, ih₂]

end

theorem scopes_weave (m : Module) :
    (r.weave fragments m).1.scopes = m.scopes.map (r.wovenScope fragments) := by
  rw [Module.scopes, (r.weave_item fragments m).1, scopes_weaveItem, Module.scopes]

theorem length_weaveItems (modules : List String) (is : List Item) :
    (r.weaveItems fragments modules is).1.length = is.length := by
  rw [weaveItems_eq_map, length_map]

theorem verbatim?_weaveItem (modules : List String) (i : Item) :
    (r.weaveItem fragments modules i).1.verbatim? = i.verbatim? := by
  cases i <;> rfl

theorem filterMap_verbatim?_fragmentsIn (path : List String) :
    (fragmentsIn fragments path).filterMap Item.verbatim? =
      (fragments.filter (·.modules = path)).map (·.tokens) := by
  rw [fragmentsIn, filterMap_map]
  exact congrFun filterMap_eq_map _

theorem verbatims_wovenScope (s : Scope) :
    (r.wovenScope fragments s).verbatims =
      s.verbatims ++ (fragments.filter (·.modules = s.modules)).map (·.tokens) := by
  rw [Scope.verbatims, wovenScope, filterMap_append, filterMap_verbatim?_fragmentsIn,
    weaveItems_eq_map, filterMap_map]
  congr 2
  funext i
  exact r.verbatim?_weaveItem fragments s.modules i

end Registry

end Accessors
