import Mathlib.Data.List.Forall2
import Accessors.Pass.Scan
import Accessors.Proofs.Outer

namespace Accessors

open List

theorem Walk.leave_find_enter (w : Walk) (name : String) (cs : List Candidate) :
    ((w.enter name).find cs).leave = w.find cs := by
  rw [leave, find, enter, dropLast_concat]
  rfl

theorem Walk.find_find (w : Walk) (cs ds : List Candidate) :
    (w.find cs).find ds = w.find (cs ++ ds) := by
  rw [find, find, find, append_assoc]

theorem Walk.find_nil (w : Walk) : w.find [] = w := by
  rw [find, append_nil]

theorem Item.run_scan_inline (w : Walk) (head : ModuleHead) (items : List Item) :
    ((Item.inline head items).scan.run w).2 =
      (((Item.scanAll items).run (w.enter head.name.name)).2).leave := rfl

theorem Item.run_scanAll_cons (w : Walk) (i : Item) (rest : List Item) :
    ((Item.scanAll (i :: rest)).run w).2 = ((Item.scanAll rest).run (i.scan.run w).2).2 := rfl

mutual

theorem Item.run_scan (w : Walk) : ∀ i : Item,
    (i.scan.run w).2 = w.find (i.candidates w.modules)
  | .declaration d => by
    have hs : ((Item.declaration d).scan.run w).2 = w.meet d := rfl
    rw [hs, Walk.meet, Item.candidates]
    cases d.attributes.isEmpty
    case false => rfl
    case true => exact w.find_nil.symm
  | .inline head items => by
    rw [Item.run_scan_inline, Item.run_scanAll, Walk.leave_find_enter, Item.candidates]
    rfl
  | .outOfLine _ => w.find_nil.symm
  | .code _ => w.find_nil.symm
  | .verbatim _ => w.find_nil.symm

theorem Item.run_scanAll (w : Walk) : ∀ is : List Item,
    ((Item.scanAll is).run w).2 = w.find (Item.candidatesOf w.modules is)
  | [] => w.find_nil.symm
  | i :: rest => by
    rw [Item.run_scanAll_cons, Item.run_scan w i, Item.run_scanAll _ rest, Walk.find_find,
      Item.candidatesOf]
    rfl

end

theorem Module.scan_eq_candidates (m : Module) : m.scan = m.candidates := by
  obtain ⟨head, items⟩ := m
  cases items
  case none => rfl
  case some items =>
    have hs := Item.run_scanAll ⟨[head.name.name], []⟩ items
    exact congrArg Walk.found hs

mutual

def Item.positions : Item → List (List Nat)
  | .declaration d => if d.attributes.isEmpty then [] else [[]]
  | .inline _ items => Item.positionsFrom 0 items
  | .outOfLine _ => []
  | .code _ => []
  | .verbatim _ => []

def Item.positionsFrom (n : Nat) : List Item → List (List Nat)
  | [] => []
  | i :: rest => i.positions.map (n :: ·) ++ Item.positionsFrom (n + 1) rest

end

mutual

theorem Item.mem_positions {position : List Nat} : ∀ i : Item, position ∈ i.positions ↔
    ∃ heads d, i.Reaches position heads d ∧ d.attributes ≠ []
  | .declaration d => by
    simp only [reaches_declaration_iff, Item.positions]
    cases h : d.attributes <;> simp +contextual [h]
  | .inline head items => by
    simp only [reaches_inline_iff, Item.positions, Item.mem_positionsFrom 0 items]
    constructor
    · rintro ⟨heads, d, h, ha⟩
      exact ⟨head :: heads, d, ⟨heads, rfl, h⟩, ha⟩
    · rintro ⟨_, d, ⟨heads, rfl, h⟩, ha⟩
      exact ⟨heads, d, h, ha⟩
  | .outOfLine _ => iff_of_false not_mem_nil (by rintro ⟨_, _, ⟨⟩, _⟩)
  | .code _ => iff_of_false not_mem_nil (by rintro ⟨_, _, ⟨⟩, _⟩)
  | .verbatim _ => iff_of_false not_mem_nil (by rintro ⟨_, _, ⟨⟩, _⟩)

theorem Item.mem_positionsFrom {position : List Nat} (n : Nat) : ∀ is : List Item,
    position ∈ Item.positionsFrom n is ↔
      ∃ heads d, ReachesFrom n is position heads d ∧ d.attributes ≠ []
  | [] => iff_of_false not_mem_nil (by rintro ⟨_, _, h, _⟩; exact not_reachesFrom_nil h)
  | i :: rest => by
    simp only [reachesFrom_cons_iff, Item.positionsFrom, mem_append, mem_map,
      Item.mem_positions i, Item.mem_positionsFrom (n + 1) rest]
    constructor
    · rintro (⟨inner, ⟨heads, d, h, ha⟩, rfl⟩ | ⟨heads, d, h, ha⟩)
      · exact ⟨heads, d, .inl ⟨inner, rfl, h⟩, ha⟩
      · exact ⟨heads, d, .inr h, ha⟩
    · rintro ⟨heads, d, ⟨inner, rfl, h⟩ | h, ha⟩
      · exact .inl ⟨inner, ⟨heads, d, h, ha⟩, rfl⟩
      · exact .inr ⟨heads, d, h, ha⟩

end

mutual

theorem Item.positions_increase : ∀ i : Item, i.positions.Pairwise (· < ·)
  | .declaration d => by
    rw [Item.positions]
    cases d.attributes.isEmpty
    case false => exact pairwise_singleton _ _
    case true => exact .nil
  | .inline _ items => Item.positionsFrom_increase 0 items
  | .outOfLine _ => .nil
  | .code _ => .nil
  | .verbatim _ => .nil

theorem Item.positionsFrom_increase (n : Nat) : ∀ is : List Item,
    (Item.positionsFrom n is).Pairwise (· < ·)
  | [] => .nil
  | i :: rest => by
    rw [Item.positionsFrom, pairwise_append, pairwise_map]
    refine ⟨(Item.positions_increase i).imp .cons, Item.positionsFrom_increase (n + 1) rest, ?_⟩
    intro p hp q hq
    obtain ⟨inner, _, rfl⟩ := mem_map.mp hp
    obtain ⟨_, _, ⟨k, _, _, _, rfl, _⟩, _⟩ := (Item.mem_positionsFrom _ _).mp hq
    exact .rel (by omega)

end

mutual

theorem Item.candidates_at_positions (modules : List String) : ∀ i : Item,
    Forall₂ (fun position c => ∃ heads, i.Reaches position heads c.declaration ∧
      c.modules = modules ++ heads.map (·.name.name)) i.positions (i.candidates modules)
  | .declaration d => by
    rw [Item.positions, Item.candidates]
    cases d.attributes.isEmpty
    case false => exact .cons ⟨[], .declaration d, (append_nil _).symm⟩ .nil
    case true => exact .nil
  | .inline head items => by
    rw [Item.positions, Item.candidates]
    refine (Item.candidatesOf_at_positions (modules ++ [head.name.name]) 0 items).imp ?_
    rintro position c ⟨heads, h, hc⟩
    refine ⟨head :: heads, reaches_inline_iff.mpr ⟨heads, rfl, h⟩, ?_⟩
    rw [hc, append_assoc]
    rfl
  | .outOfLine _ => .nil
  | .code _ => .nil
  | .verbatim _ => .nil

theorem Item.candidatesOf_at_positions (modules : List String) (n : Nat) : ∀ is : List Item,
    Forall₂ (fun position c => ∃ heads, ReachesFrom n is position heads c.declaration ∧
      c.modules = modules ++ heads.map (·.name.name))
      (Item.positionsFrom n is) (Item.candidatesOf modules is)
  | [] => .nil
  | i :: rest => by
    rw [Item.positionsFrom, Item.candidatesOf]
    refine rel_append (forall₂_map_left_iff.mpr ?_) ?_
    · refine (Item.candidates_at_positions modules i).imp ?_
      rintro position c ⟨heads, h, hc⟩
      exact ⟨heads, reachesFrom_cons_iff.mpr (.inl ⟨position, rfl, h⟩), hc⟩
    · refine (Item.candidatesOf_at_positions modules (n + 1) rest).imp ?_
      rintro position c ⟨heads, h, hc⟩
      exact ⟨heads, reachesFrom_cons_iff.mpr (.inr h), hc⟩

end

theorem Declaration.isSome_members?_iff (d : Declaration) :
    d.members?.isSome ↔ d.kind = .struct := by
  rw [members?, kind]
  cases d.shape
  case struct => exact iff_of_true rfl rfl
  case enum => exact iff_of_false Bool.false_ne_true (by rintro ⟨⟩)
  case union => exact iff_of_false Bool.false_ne_true (by rintro ⟨⟩)

theorem Item.candidatesOf_append (modules : List String) (is js : List Item) :
    Item.candidatesOf modules (is ++ js) =
      Item.candidatesOf modules is ++ Item.candidatesOf modules js := by
  induction is
  case nil => rfl
  case cons i is ih => rw [cons_append, Item.candidatesOf, ih, Item.candidatesOf, append_assoc]

theorem Item.run_scanAll_append (w : Walk) (is js : List Item) :
    ((Item.scanAll (is ++ js)).run w).2 =
      ((Item.scanAll js).run ((Item.scanAll is).run w).2).2 := by
  rw [Item.run_scanAll, Item.run_scanAll, Item.run_scanAll, Walk.find_find,
    Item.candidatesOf_append]
  rfl

-- In a module, exactly the declarations are found that have an attribute and that inline modules
-- lead to, one by one in the order of the source, each with the names of the modules around it. In a
-- module that has been read, their attributes are outer ones. A walk may begin anywhere: it returns
-- to where it began, what it adds depends on nothing that has been found, and it can be made in
-- parts.
theorem Module.scan_finds_marked (m : Module) :
    (∃ positions : List (List Nat),
      positions.Pairwise (· < ·) ∧
      (∀ position, position ∈ positions ↔
        ∃ heads d, m.item.Reaches position heads d ∧ d.attributes ≠ []) ∧
      Forall₂ (fun position c => ∀ heads d, m.item.Reaches position heads d →
        c = ⟨heads.map (·.name.name), d⟩) positions m.scan) ∧
    (∀ ts, Module.ofTokens? ts = some m → m.item.Outer) ∧
    (∀ c ∈ m.scan, c.declaration.members?.isSome ↔ c.declaration.kind = .struct) ∧
    ∀ (modules : List String) (is : List Item),
      (∃ more, ∀ found, ((Item.scanAll is).run ⟨modules, found⟩).2 = ⟨modules, found ++ more⟩) ∧
      ∀ (js : List Item) (found : List Candidate),
        ((Item.scanAll (is ++ js)).run ⟨modules, found⟩).2 =
          ((Item.scanAll js).run ((Item.scanAll is).run ⟨modules, found⟩).2).2 := by
  refine ⟨⟨m.item.positions, m.item.positions_increase, fun _ => m.item.mem_positions, ?_⟩,
    fun _ => m.outer_of_ofTokens?, fun c _ => c.declaration.isSome_members?_iff, fun modules is =>
      ⟨⟨Item.candidatesOf modules is, fun found => ?_⟩, fun js found => ?_⟩⟩
  · rw [m.scan_eq_candidates]
    refine (m.item.candidates_at_positions []).imp ?_
    rintro position ⟨modules, d⟩ ⟨heads, h, rfl⟩ others e h'
    obtain ⟨rfl, rfl⟩ := h.unique h'
    rfl
  · exact Item.run_scanAll ⟨modules, found⟩ is
  · exact Item.run_scanAll_append _ is js

end Accessors
