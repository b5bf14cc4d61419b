import Accessors.Code.Item

namespace Accessors

-- `i.Reaches position heads d` if the declaration stands in the item, inside the modules with these
-- heads. Its position tells which item of each of the modules leads to it, from the outside in.
inductive Item.Reaches : Item → List Nat → List ModuleHead → Declaration → Prop
  | declaration (d : Declaration) : Reaches (.declaration d) [] [] d
  | inline {items : List Item} {n : Nat} {i : Item} {position : List Nat}
    {heads : List ModuleHead} {d : Declaration} (head : ModuleHead) (hi : items[n]? = some i)
    (h : Reaches i position heads d) : Reaches (.inline head items) (n :: position) (head :: heads) d

-- The same inside of a module, where the items are numbered from `n` on.
def Item.ReachesFrom (n : Nat) (is : List Item) (position : List Nat) (heads : List ModuleHead)
    (d : Declaration) : Prop :=
  ∃ k i inner, is[k]? = some i ∧ position = (n + k) :: inner ∧ i.Reaches inner heads d

namespace Item

variable {n : Nat} {i : Item} {is : List Item} {position : List Nat} {heads : List ModuleHead}
variable {d e : Declaration}

theorem Reaches.unique (h : i.Reaches position heads d) {others : List ModuleHead}
    (h' : i.Reaches position others e) : heads = others ∧ d = e := by
  induction h generalizing others
  case declaration =>
    obtain ⟨⟩ := h'
    exact ⟨rfl, rfl⟩
  case inline head hi _ ih =>
    obtain _ | ⟨_, hj, h'⟩ := h'
    obtain rfl := Option.some_inj.mp (hi.symm.trans hj)
    obtain ⟨rfl, rfl⟩ := ih h'
    exact ⟨rfl, rfl⟩

theorem reaches_declaration_iff :
    (declaration d).Reaches position heads e ↔ position = [] ∧ heads = [] ∧ d = e := by
  constructor
  · rintro ⟨⟩
    exact ⟨rfl, rfl, rfl⟩
  · rintro ⟨rfl, rfl, rfl⟩
    exact .declaration d

theorem reaches_inline_iff {head : ModuleHead} : (inline head is).Reaches position heads d ↔
    ∃ inner, heads = head :: inner ∧ ReachesFrom 0 is position inner d := by
  constructor
  · rintro (_ | ⟨_, hi, h⟩)
    exact ⟨_, rfl, _, _, _, hi, by rw [Nat.zero_add], h⟩
  · rintro ⟨inner, rfl, k, i, position, hi, rfl, h⟩
    rw [Nat.zero_add]
    exact .inline head hi h

theorem not_reachesFrom_nil : ¬ReachesFrom n [] position heads d := by
  rintro ⟨k, i, inner, hi, _⟩
  contradiction

theorem reachesFrom_cons_iff : ReachesFrom n (i :: is) position heads d ↔
    (∃ inner, position = n :: inner ∧ i.Reaches inner heads d) ∨
      ReachesFrom (n + 1) is position heads d := by
  constructor
  · rintro ⟨k, j, inner, hj, rfl, h⟩
    cases k
    case zero =>
      obtain rfl := Option.some_inj.mp hj
      exact .inl ⟨inner, rfl, h⟩
    case succ k => exact .inr ⟨k, j, inner, hj, by rw [Nat.add_right_comm, Nat.add_assoc], h⟩
  · rintro (⟨inner, rfl, h⟩ | ⟨k, j, inner, hj, rfl, h⟩)
    · exact ⟨0, i, inner, rfl, rfl, h⟩
    · exact ⟨k + 1, j, inner, hj, by rw [Nat.add_right_comm, Nat.add_assoc], h⟩

end Item

end Accessors
