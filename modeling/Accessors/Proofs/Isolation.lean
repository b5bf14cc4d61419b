import Accessors.Proofs.Candidates
import Accessors.Proofs.Scopes

namespace Accessors

open List

def Item.mark (as : List Attribute) : List Nat → Item → Item
  | [], .declaration d => .declaration { d with attributes := as }
  | n :: position, .inline head items => .inline head (items.modify n (Item.mark as position))
  | _, i => i

mutual

def Item.plant (fragments : List Fragment) (modules : List String) : Item → Item
  | .declaration d => .declaration d
  | .inline head items =>
    .inline head (Item.plantAll fragments (modules ++ [head.name.name]) items ++
      Registry.fragmentsIn fragments (modules ++ [head.name.name]))
  | .outOfLine head => .outOfLine head
  | .code c => .code c
  | .verbatim ts => .verbatim ts

def Item.plantAll (fragments : List Fragment) (modules : List String) : List Item → List Item
  | [] => []
  | i :: rest => i.plant fragments modules :: Item.plantAll fragments modules rest

end

namespace Module

def mark (as : List Attribute) (position : List Nat) (m : Module) : Module :=
  match position with
  | [] => m
  | n :: position => { m with items := m.items.map (·.modify n (Item.mark as position)) }

def plant (fragments : List Fragment) (m : Module) : Module :=
  { m with items := m.items.map fun items =>
      Item.plantAll fragments [m.head.name.name] items ++
        Registry.fragmentsIn fragments [m.head.name.name] }

theorem item_mark (as : List Attribute) (position : List Nat) (m : Module) :
    (m.mark as position).item = m.item.mark as position := by
  obtain ⟨head, items⟩ := m
  cases position <;> cases items <;> rfl

theorem item_plant (fragments : List Fragment) (m : Module) :
    (m.plant fragments).item = m.item.plant fragments [] := by
  obtain ⟨head, items⟩ := m
  cases items <;> rfl

theorem item_injective {m n : Module} (h : m.item = n.item) : m = n := by
  obtain ⟨head, items⟩ := m
  obtain ⟨head', items'⟩ := n
  cases items <;> cases items' <;> simp_all [item]

end Module

theorem Registry.fragmentsIn_append (fragments others : List Fragment) (modules : List String) :
    Registry.fragmentsIn (fragments ++ others) modules =
      Registry.fragmentsIn fragments modules ++ Registry.fragmentsIn others modules := by
  rw [Registry.fragmentsIn, filter_append, map_append]
  rfl

namespace Item

variable {i : Item} {position : List Nat} {heads : List ModuleHead} {d : Declaration}

theorem modify_of_getElem? {items : List Item} {n : Nat} (h : items[n]? = some i)
    (f : Item → Item) : items.modify n f = items.take n ++ f i :: items.drop (n + 1) := by
  obtain ⟨hn, rfl⟩ := List.getElem?_eq_some_iff.mp h
  exact modify_eq_take_cons_drop hn

theorem Reaches.mark_self (h : i.Reaches position heads d) :
    i.mark d.attributes position = i := by
  induction h
  case declaration => rfl
  case inline items n i position _ _ head hi _ ih =>
    obtain ⟨hn, rfl⟩ := List.getElem?_eq_some_iff.mp hi
    rw [mark, modify_of_getElem? hi, ih, ← drop_eq_getElem_cons hn, take_append_drop]

theorem Reaches.mark (h : i.Reaches position heads d) (as : List Attribute) :
    (i.mark as position).Reaches position heads { d with attributes := as } := by
  induction h
  case declaration => exact .declaration _
  case inline n i _ _ _ head hi _ ih =>
    refine .inline head ?_ ih
    rw [getElem?_modify_eq, hi]
    rfl

theorem Reaches.candidates (h : i.Reaches position heads d) (modules : List String) :
    ∃ before after, ∀ as, (i.mark as position).candidates modules =
      before ++ Item.candidates (modules ++ heads.map (·.name.name))
        (.declaration { d with attributes := as }) ++ after := by
  induction h generalizing modules
  case declaration d => exact ⟨[], [], fun as => by simp [Item.mark]⟩
  case inline items n i position heads d head hi _ ih =>
    have ⟨before, after, ih⟩ := ih (modules ++ [head.name.name])
    refine ⟨candidatesOf (modules ++ [head.name.name]) (items.take n) ++ before,
      after ++ candidatesOf (modules ++ [head.name.name]) (items.drop (n + 1)), fun as => ?_⟩
    have hm : ((Item.inline head items).mark as (n :: position)).candidates modules =
        candidatesOf (modules ++ [head.name.name])
          (items.take n ++ i.mark as position :: items.drop (n + 1)) := by
      rw [← modify_of_getElem? hi (Item.mark as position)]
      rfl
    rw [hm, candidatesOf_append, candidatesOf, ih, map_cons, ← append_cons]
    simp only [append_assoc]

variable (fragments others : List Fragment)

theorem plantAll_append (modules : List String) (is js : List Item) :
    plantAll fragments modules (is ++ js) =
      plantAll fragments modules is ++ plantAll fragments modules js := by
  induction is
  case nil => rfl
  case cons i is ih => simp [plantAll, ih]

-- Fragments are kept verbatim, so nothing is planted in them.
theorem plantAll_fragmentsIn (modules path : List String) :
    plantAll fragments modules (Registry.fragmentsIn others path) =
      Registry.fragmentsIn others path := by
  rw [Registry.fragmentsIn]
  induction others.filter (·.modules = path)
  case nil => rfl
  case cons f fs ih => simp only [map_cons, plantAll, plant, ih]

mutual

theorem plant_plant (modules : List String) : ∀ i : Item,
    (i.plant fragments modules).plant others modules = i.plant (fragments ++ others) modules
  | .declaration _ => rfl
  | .inline head items => by
    have ih := plantAll_plantAll (modules ++ [head.name.name]) items
    simp only [plant, plantAll_append, plantAll_fragmentsIn, ih, append_assoc,
      Registry.fragmentsIn_append]
  | .outOfLine _ => rfl
  | .code _ => rfl
  | .verbatim _ => rfl

theorem plantAll_plantAll (modules : List String) : ∀ is : List Item,
    plantAll others modules (plantAll fragments modules is) =
      plantAll (fragments ++ others) modules is
  | [] => rfl
  | i :: rest => by simp only [plantAll, plant_plant modules i, plantAll_plantAll modules rest]

end

end Item

theorem Module.plant_plant (fragments others : List Fragment) (m : Module) :
    (m.plant fragments).plant others = m.plant (fragments ++ others) := by
  refine Module.item_injective ?_
  rw [item_plant, item_plant, item_plant, Item.plant_plant]

namespace Registry

variable (r : Registry)

mutual

theorem weaveItem_eq_plant (fragments : List Fragment) (modules : List String) : ∀ i : Item,
    r.weaveItem fragments modules i =
      ((r.weaveItem [] modules i).1.plant fragments modules, (r.weaveItem [] modules i).2)
  | .declaration _ => rfl
  | .inline head items => by
    have ih := weaveItems_eq_plant fragments (modules ++ [head.name.name]) items
    simp only [weaveItem, ih, Item.plant, Item.plantAll_append, Item.plantAll_fragmentsIn]
    simp [fragmentsIn]
  | .outOfLine _ => rfl
  | .code _ => rfl
  | .verbatim _ => rfl

theorem weaveItems_eq_plant (fragments : List Fragment) (modules : List String) :
    ∀ is : List Item, r.weaveItems fragments modules is =
      (Item.plantAll fragments modules (r.weaveItems [] modules is).1,
        (r.weaveItems [] modules is).2)
  | [] => rfl
  | i :: rest => by
    have ih₁ := weaveItem_eq_plant fragments modules i
    have ih₂ := weaveItems_eq_plant fragments modules rest
    simp only [weaveItems, ih₁, ih₂, Item.plantAll]

end

theorem weaveItems_modify (fragments : List Fragment) (modules : List String) {f g : Item → Item}
    (h : ∀ i, r.weaveItem fragments modules (f i) =
      (g (r.weaveItem fragments modules i).1, (r.weaveItem fragments modules i).2))
    (n : Nat) (is : List Item) : r.weaveItems fragments modules (is.modify n f) =
      ((r.weaveItems fragments modules is).1.modify n g, (r.weaveItems fragments modules is).2) := by
  induction is generalizing n
  case nil => simp [weaveItems]
  case cons i is ih =>
    cases n
    case zero => simp [weaveItems, h]
    case succ n => simp [weaveItems, ih]

theorem weaveItem_mark (as : List Attribute) (position : List Nat) (modules : List String)
    (i : Item) : r.weaveItem [] modules (i.mark as position) =
      ((r.weaveItem [] modules i).1.mark (r.strip as) position, (r.weaveItem [] modules i).2) := by
  induction position generalizing modules i
  case nil => cases i <;> rfl
  case cons n position ih =>
    cases i
    case inline head items =>
      have hi := r.weaveItems_modify [] (modules ++ [head.name.name]) (ih _) n items
      simp [Item.mark, weaveItem, hi, fragmentsIn]
    all_goals rfl

theorem weave_eq_plant (fragments : List Fragment) (m : Module) :
    r.weave fragments m = ((r.weave [] m).1.plant fragments, (r.weave [] m).2) := by
  have hw := r.weaveItem_eq_plant fragments [] m.item
  refine Prod.ext (Module.item_injective ?item) ?problems
  case item => rw [(r.weave_item fragments m).1, hw, Module.item_plant, (r.weave_item [] m).1]
  case problems => rw [(r.weave_item fragments m).2, hw, (r.weave_item [] m).2]

theorem weave_mark (as : List Attribute) (position : List Nat) (m : Module) :
    r.weave [] (m.mark as position) =
      ((r.weave [] m).1.mark (r.strip as) position, (r.weave [] m).2) := by
  have hw := r.weaveItem_mark as position [] m.item
  refine Prod.ext (Module.item_injective ?item) ?problems
  case item =>
    rw [(r.weave_item [] _).1, m.item_mark, hw, Module.item_mark, (r.weave_item [] m).1]
  case problems => rw [(r.weave_item [] _).2, m.item_mark, hw, (r.weave_item [] m).2]

-- A module in which the declaration at a position is that of the given candidate, and what the
-- passes make of it. Other candidates are before or after it. Their part in the outcome is told
-- without it: the fragments and problems around its own, and the module that is woven of all else.
structure Isolates (m : Module) (position : List Nat) (before after : List Candidate)
    (c : Candidate) (marked : Module) : Prop where
  stands : ∃ heads, marked.item.Reaches position heads c.declaration ∧
    c.modules = heads.map (·.name.name)
  candidates : marked.candidates =
    before ++ (if c.declaration.attributes.isEmpty then [] else [c]) ++ after
  fragments : r.fragments marked.candidates =
    r.fragments before ++ (r.process c).fragment?.toList ++ r.fragments after
  problems : r.problems marked.candidates =
    r.problems before ++ (r.process c).problem?.toList ++ r.problems after
  either : (r.process c).fragment? = none ∨ (r.process c).problem? = none
  unreached : (r.weave (r.fragments marked.candidates) marked).2 = (r.weave [] m).2
  woven : (r.weave (r.fragments marked.candidates) marked).1 =
    ((((r.weave [] m).1.mark (r.strip c.declaration.attributes) position).plant
      (r.fragments before)).plant (r.process c).fragment?.toList).plant (r.fragments after)

theorem filterMap_candidate {α : Type} (f : Outcome → Option α) (h : f .unmarked = none)
    (c : Candidate) : ((if c.declaration.attributes.isEmpty then [] else [c]).filterMap
      fun c => f (r.process c)) = (f (r.process c)).toList := by
  cases hc : c.declaration.attributes.isEmpty
  case false => cases hf : f (r.process c) <;> simp [hf]
  case true => simp [r.process_eq_unmarked hc, h]

theorem candidates_isolated {m : Module} {position : List Nat} {heads : List ModuleHead}
    {d : Declaration} (h : m.item.Reaches position heads d) :
    m.mark d.attributes position = m ∧
    ∃ before after, ∀ as, r.Isolates m position before after
      ⟨heads.map (·.name.name), { d with attributes := as }⟩ (m.mark as position) := by
  refine ⟨?self, ?others⟩
  case self => exact Module.item_injective (by rw [m.item_mark, h.mark_self])
  case others =>
    obtain ⟨before, after, hc⟩ := h.candidates []
    refine ⟨before, after, fun as => ?_⟩
    generalize hd : Candidate.mk (heads.map (·.name.name)) { d with attributes := as } = c
    have hc : (m.mark as position).candidates =
        before ++ (if c.declaration.attributes.isEmpty then [] else [c]) ++ after := by
      rw [Module.candidates, m.item_mark, hc as, ← hd]
      rfl
    have hf : r.fragments (m.mark as position).candidates =
        r.fragments before ++ (r.process c).fragment?.toList ++ r.fragments after := by
      rw [hc, fragments_append, fragments_append]
      congr 2
      exact r.filterMap_candidate Outcome.fragment? rfl c
    constructor
    case stands =>
      subst hd
      exact ⟨heads, (m.item_mark as position).symm ▸ h.mark as, rfl⟩
    case candidates => exact hc
    case fragments => exact hf
    case problems =>
      rw [hc, problems, filterMap_append, filterMap_append]
      congr 2
      exact r.filterMap_candidate Outcome.problem? rfl c
    case either => cases r.process c <;> simp [Outcome.fragment?, Outcome.problem?]
    case unreached => rw [weave_eq_plant, weave_mark]
    case woven =>
      subst hd
      rw [weave_eq_plant, weave_mark, hf, Module.plant_plant, Module.plant_plant, ← append_assoc]

end Registry

-- `mod shapes { #[by_index] struct Point; mod draw { struct Pen; } }`
def drawingModule : Module where
  head := ⟨[], [], [], ⟨"shapes", false, .unlocated⟩⟩
  items := some [
    .declaration {
      attributes := [indexMarker]
      visibility := []
      name := ⟨"Point", false, .unlocated⟩
      generics := .none
      clause := []
      shape := .struct .unit },
    .inline ⟨[], [], [], ⟨"draw", false, .unlocated⟩⟩ [.declaration {
      attributes := []
      visibility := []
      name := ⟨"Pen", false, .unlocated⟩
      generics := .none
      clause := []
      shape := .struct .unit }]]

-- `#[member_access]`
def bareListMarker : Attribute :=
  ⟨false, .unlocated, .unlocated, .unlocated, ⟨false, [⟨libraryName, false, .unlocated⟩]⟩, .absent⟩

theorem malformed_marker_isolated : ∃ heads d, drawingModule.item.Reaches [1, 0] heads d ∧
    (Registry.canonical.problems (drawingModule.mark [bareListMarker] [1, 0]).candidates).length = 1 ∧
    ∃ before after,
      (Registry.canonical.fragments before ++ Registry.canonical.fragments after).length = 1 ∧
      ∀ as, Registry.canonical.Isolates drawingModule [1, 0] before after
        ⟨heads.map (·.name.name), { d with attributes := as }⟩ (drawingModule.mark as [1, 0]) := by
  have hd : drawingModule.item.Reaches [1, 0] _ _ :=
    .inline _ rfl (.inline _ rfl (.declaration _))
  have ⟨_, before, after, h⟩ := Registry.canonical.candidates_isolated hd
  have hf := congrArg length (h []).fragments
  refine ⟨_, _, hd, rfl, before, after, ?_, h⟩
  rw [append_assoc] at hf
  exact hf.symm

end Accessors
