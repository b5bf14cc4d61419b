import Accessors.Proofs.Declared
import Accessors.Proofs.Derivation
import Accessors.Proofs.Reach

namespace Accessors

open List

-- An item that leads to declarations with outer attributes only.
def Item.Outer (i : Item) : Prop :=
  ∀ position heads d, i.Reaches position heads d → ∀ a ∈ d.attributes, a.inner = false

theorem Item.outer_inline {head : ModuleHead} {items : List Item} (h : ∀ i ∈ items, i.Outer) :
    (Item.inline head items).Outer := by
  rintro _ _ d (_ | ⟨_, hi, hd⟩)
  exact h _ (mem_of_getElem? hi) _ _ d hd

namespace Grammar

open Rule

variable {self : Rules}

theorem always_oneAttribute (inner : Bool) :
    (oneAttribute self inner).Always fun a => a.inner = inner := by
  cases inner
  case false => exact .behind fun _ => .ite nofun (.behind fun _ => .behind fun _ => .pure rfl)
  case true =>
    exact .behind fun _ => .ite nofun
      (.behind fun _ => .behind fun _ => .behind fun _ => .pure rfl)

theorem always_outerAttributes : (outerAttributes self).Always fun as =>
    ∀ a ∈ as, a.inner = false :=
  (always_oneAttribute false).many _

theorem always_declarationBody (attributes : List Attribute) :
    (declarationBody self attributes).Always fun d => d.attributes = attributes :=
  .behind fun _ => .behind fun _ => .behind fun _ => .behind fun _ => .behind fun _ => .pure rfl

section Step

variable (hs : (self .item).Always Item.Outer)

include hs

theorem always_moduleBody (attributes : List Attribute) :
    (moduleBody self attributes).Always fun m => m.item.Outer := by
  have hn (qualifiers : Code) (name : Ident) : Item.Outer
      (Module.mk ⟨attributes, [], qualifiers.tokens, name⟩ none).item := by
    rintro _ _ _ ⟨⟩
  have hb : (do
      let inner ← innerAttributes self
      let items ← many (.not .done) (self .item)
      pure (inner, items) : Rule (List Attribute × List Item)).Always fun x => ∀ i ∈ x.2, i.Outer :=
    .behind fun _ => .bind (hs.many _) fun _ hi => .pure hi
  refine .behind fun _ => .behind fun _ => .behind fun _ => .ite ?_ ?_
  all_goals
    refine .behind fun _ => .behind fun _ => .ite (.behind fun _ => .pure (hn _ _)) ?_
    exact .bind (hb.inside _) fun _ hi => .pure (Item.outer_inline hi)

theorem always_item : (item self).Always Item.Outer := by
  intro ts i rest h
  rw [run_item] at h
  simp only [Option.bind_eq_bind, Option.bind_eq_some_iff, Prod.exists] at h
  obtain ⟨attributes, mid, ha, v, ahead, hv, j, rest', hj, hi⟩ := h
  cases j
  case none =>
    cases hi
    rintro _ _ _ ⟨⟩
  case some j =>
    cases hi
    have hj := yields_itemBody _ _ _ _ _ hj
    cases hj
    case code => rintro _ _ _ ⟨⟩
    case module m hm => exact always_moduleBody hs attributes _ _ _ hm
    case declaration d hd =>
      rintro _ _ _ ⟨⟩
      rw [always_declarationBody attributes _ _ _ hd]
      exact always_outerAttributes _ _ _ ha

end Step

-- The items of a module are read by rules that may go less deep than those for the module.
theorem always_rules (n : Nat) : (rules n .item).Always Item.Outer := by
  induction n
  case zero => exact nofun
  case succ n ih => exact always_item ih

end Grammar

open Grammar Rule

theorem Module.outer_of_ofTokens? (m : Module) {ts : List Token}
    (h : Module.ofTokens? ts = some m) : m.item.Outer := by
  obtain ⟨attributes, _, _, h⟩ := run_bind_eq_some.mp (read?_eq_some.mp h)
  exact always_moduleBody (always_rules _) attributes _ _ _ h

end Accessors
