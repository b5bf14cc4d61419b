import Accessors.Grammar.Reading
import Accessors.Proofs.Scopes
import Accessors.Proofs.Sites

namespace Accessors

open List

mutual

-- The code without the attributes of its declarations.
def Piece.bare : Piece → Piece
  | .token t => .token t
  | .group d o c body => .group d o c (Code.bare body)
  | .attr a => .attr a.bare
  | .lifetimesFirst items trailing => .lifetimesFirst (Code.bareOf items) trailing
  | .constrained subject clause => .constrained (Code.bare subject) (Code.bare clause)
  | .headed head o c inner body =>
    .headed (Code.bare head) o c (Code.bare inner) (Code.bare body)
  | .declaration _ head name body => .declaration [] head name (Code.bare body)

def Code.bare : Code → Code
  | [] => []
  | p :: rest => p.bare :: Code.bare rest

def Code.bareOf : List (Bool × Code) → List (Bool × Code)
  | [] => []
  | (isLifetime, c) :: rest => (isLifetime, Code.bare c) :: Code.bareOf rest

def Attribute.bare : Attribute → Attribute
  | ⟨inner, hash, opened, closed, path, arguments⟩ =>
    ⟨inner, hash, opened, closed, path, arguments.bare⟩

def Arguments.bare : Arguments → Arguments
  | .absent => .absent
  | .list d o c body => .list d o c body
  | .value equals value => .value equals (Code.bare value)

end

namespace Registry

variable (r : Registry) (fragments : List Fragment)

-- How an item of a module may differ from what it was. What the items of a module that is held by
-- another one come to is said of that module itself.
inductive Kept : Item → Item → Prop
  | declaration (d : Declaration) :
    Kept (.declaration d)
      (.declaration { d with attributes := d.attributes.filter fun a => !r.isMarker a })
  | inline (head : ModuleHead) (before after : List Item) :
    Kept (.inline head before) (.inline head after)
  | outOfLine (head : ModuleHead) : Kept (.outOfLine head) (.outOfLine head)
  | code (before after : Code) (bare : Code.bare after = Code.bare before) :
    Kept (.code before) (.code after)
  | verbatim (tokens : List Token) : Kept (.verbatim tokens) (.verbatim tokens)

-- How a module may differ from what it was: behind its own items stand the fragments for its path.
structure Grown (before after : Scope) : Prop where
  modules : after.modules = before.modules
  items : ∃ kept, Forall₂ r.Kept before.items kept ∧
    after.items = kept ++
      (fragments.filter (·.modules = before.modules)).map fun f => .verbatim f.tokens

mutual

theorem bare_sweepPiece : ∀ p : Piece, (r.sweepPiece p).1.bare = p.bare
  | .token _ => rfl
  | .group _ _ _ body => by
    have ih := bare_sweep body
    simp [sweepPiece, Piece.bare, ih]
  | .attr a => by
    have ih := bare_sweepAttribute a
    simp [sweepPiece, Piece.bare, ih]
  | .lifetimesFirst items _ => by
    have ih := bareOf_sweepItems items
    simp [sweepPiece, Piece.bare, ih]
  | .constrained subject clause => by
    have ih₁ := bare_sweep clause
    have ih₂ := bare_sweep subject
    simp [sweepPiece, Piece.bare, ih₁, ih₂]
  | .headed head _ _ inner body => by
    have ih₁ := bare_sweep inner
    have ih₂ := bare_sweep head
    have ih₃ := bare_sweep body
    simp [sweepPiece, Piece.bare, ih₁, ih₂, ih₃]
  | .declaration _ _ _ body => by
    have ih := bare_sweep body
    simp [sweepPiece, Piece.bare, ih]

theorem bare_sweep : ∀ c : Code, Code.bare (r.sweep c).1 = Code.bare c
  | [] => rfl
  | p :: rest => by
    have ih₁ := bare_sweepPiece p
    have ih₂ := bare_sweep rest
    simp [sweep, Code.bare, ih₁, ih₂]

theorem bareOf_sweepItems : ∀ items : List (Bool × Code),
    Code.bareOf (r.sweepItems items).1 = Code.bareOf items
  | [] => rfl
  | (_, c) :: rest => by
    have ih₁ := bare_sweep c
    have ih₂ := bareOf_sweepItems rest
    simp [sweepItems, Code.bareOf, ih₁, ih₂]

theorem bare_sweepAttribute : ∀ a : Attribute, (r.sweepAttribute a).1.bare = a.bare
  | ⟨_, _, _, _, _, arguments⟩ => by
    have ih := bare_sweepArguments arguments
    simp [sweepAttribute, Attribute.bare, ih]

theorem bare_sweepArguments : ∀ a : Arguments, (r.sweepArguments a).1.bare = a.bare
  | .absent => rfl
  | .list _ _ _ _ => rfl
  | .value _ value => by
    have ih := bare_sweep value
    simp [sweepArguments, Arguments.bare, ih]

end

theorem kept_weaveItem (modules : List String) (i : Item) :
    r.Kept i (r.weaveItem fragments modules i).1 := by
  cases i
  case declaration d => exact .declaration d
  case inline head items => exact .inline head items _
  case outOfLine head => exact .outOfLine head
  case code c => exact .code c _ (r.bare_sweep c)
  case verbatim ts => exact .verbatim ts

theorem grown_wovenScope (s : Scope) : r.Grown fragments s (r.wovenScope fragments s) := by
  refine ⟨rfl, (r.weaveItems fragments s.modules s.items).1, ?_, rfl⟩
  rw [weaveItems_eq_map, forall₂_map_right_iff, forall₂_same]
  exact fun i _ => r.kept_weaveItem fragments s.modules i

theorem strip_of_unmarks {as : List Attribute} (h : r.Unmarks as) : r.strip as = as := by
  rw [strip, filter_eq_self]
  intro a ha
  simp [h a ha]

def Settled : Site → Prop
  | .held c => r.Unmarks c.declaration.attributes
  | .loose d => ∀ a ∈ d.attributes, r.keeps d.attributes a = true
  | _ => True

theorem settled_of_unmarks {s : Site} (h : r.Unmarks s.attributes) : r.Settled s := by
  cases s
  case held => exact h
  case loose d =>
    intro a ha
    rw [keeps, h a ha, Bool.not_false, Bool.or_true]
  all_goals trivial

theorem outOfReach?_of_keeps (name : Ident) {as : List Attribute}
    (h : ∀ a ∈ as, r.keeps as a = true) : r.outOfReach? name as = none := by
  cases hd : derivesAccessors as
  case true => exact outOfReach?_of_derives name hd
  case false =>
    have hf : as.find? r.isMarker = none := by
      rw [find?_eq_none]
      intro a ha
      simpa [keeps_of_not_derives hd] using h a ha
    rw [outOfReach?_of_not_derives name hd, hf, Option.map_none]

mutual

theorem sweepPiece_of_settled : ∀ p : Piece, (∀ d, (d, true) ∈ r.surveyPiece p →
    r.Settled (.loose d)) → r.sweepPiece p = (p, [])
  | .token _, _ => rfl
  | .group _ _ _ body, h => by
    have ih := sweep_of_settled body h
    simp [sweepPiece, ih]
  | .attr a, h => by
    have ih := sweepAttribute_of_settled a h
    simp [sweepPiece, ih]
  | .lifetimesFirst items _, h => by
    have ih := sweepItems_of_settled items h
    simp [sweepPiece, ih]
  | .constrained subject clause, h => by
    have ih₁ := sweep_of_settled clause fun d hd => h d (mem_append_left _ hd)
    have ih₂ := sweep_of_settled subject fun d hd => h d (mem_append_right _ hd)
    simp [sweepPiece, ih₁, ih₂]
  | .headed head _ _ inner body, h => by
    have ih₁ := sweep_of_settled inner fun d hd => h d (mem_append_left _ (mem_append_left _ hd))
    have ih₂ := sweep_of_settled head fun d hd => h d (mem_append_left _ (mem_append_right _ hd))
    have ih₃ := sweep_of_settled body fun d hd => h d (mem_append_right _ hd)
    simp [sweepPiece, ih₁, ih₂, ih₃]
  | .declaration attributes head name body, h => by
    have hk : r.Settled (.loose ⟨attributes, name⟩) := h _ (.head _)
    have ih₁ := sweepAttributes_of_settled (r.keeps attributes) attributes hk
      fun d hd => h d (.tail _ (mem_append_left _ hd))
    have ih₂ := sweep_of_settled body fun d hd => h d (.tail _ (mem_append_right _ hd))
    simp [sweepPiece, r.outOfReach?_of_keeps name hk, ih₁, ih₂]

theorem sweep_of_settled : ∀ c : Code, (∀ d, (d, true) ∈ r.survey c → r.Settled (.loose d)) →
    r.sweep c = (c, [])
  | [], _ => rfl
  | p :: rest, h => by
    have ih₁ := sweepPiece_of_settled p fun d hd => h d (mem_append_left _ hd)
    have ih₂ := sweep_of_settled rest fun d hd => h d (mem_append_right _ hd)
    simp [sweep, ih₁, ih₂]

theorem sweepItems_of_settled : ∀ items : List (Bool × Code), (∀ d, (d, true) ∈
    r.surveyItems items → r.Settled (.loose d)) → r.sweepItems items = (items, [])
  | [], _ => rfl
  | (_, c) :: rest, h => by
    have ih₁ := sweep_of_settled c fun d hd => h d (mem_append_left _ hd)
    have ih₂ := sweepItems_of_settled rest fun d hd => h d (mem_append_right _ hd)
    simp [sweepItems, ih₁, ih₂]

theorem sweepAttribute_of_settled : ∀ a : Attribute, (∀ d, (d, true) ∈ r.surveyAttribute a →
    r.Settled (.loose d)) → r.sweepAttribute a = (a, [])
  | ⟨_, _, _, _, _, arguments⟩, h => by
    have ih := sweepArguments_of_settled arguments h
    simp [sweepAttribute, ih]

theorem sweepAttributes_of_settled (kept : Attribute → Bool) : ∀ as : List Attribute,
    (∀ a ∈ as, kept a = true) → (∀ d, (d, true) ∈ r.surveyAttributes kept as →
      r.Settled (.loose d)) → r.sweepAttributes kept as = (as, [])
  | [], _, _ => rfl
  | a :: rest, hk, h => by
    have ⟨ha, hr⟩ := forall_mem_cons.mp hk
    rw [surveyAttributes, if_pos ha] at h
    have ih₁ := sweepAttribute_of_settled a fun d hd => h d (mem_append_left _ hd)
    have ih₂ := sweepAttributes_of_settled kept rest hr fun d hd => h d (mem_append_right _ hd)
    simp [sweepAttributes, ha, ih₁, ih₂]

theorem sweepArguments_of_settled : ∀ a : Arguments, (∀ d, (d, true) ∈ r.surveyArguments a →
    r.Settled (.loose d)) → r.sweepArguments a = (a, [])
  | .absent, _ => rfl
  | .list _ _ _ _, _ => rfl
  | .value _ value, h => by
    have ih := sweep_of_settled value h
    simp [sweepArguments, ih]

end

mutual

theorem weaveItem_of_settled (modules : List String) : ∀ i : Item,
    (∀ s ∈ r.itemSites modules i, r.Settled s) → r.weaveItem [] modules i = (i, [])
  | .declaration d, h => by
    have hu : r.Settled (.held ⟨modules, d⟩) := h _ (.head _)
    rw [weaveItem, r.strip_of_unmarks hu]
  | .inline head items, h => by
    have ih := weaveItems_of_settled (modules ++ [head.name.name]) items
      fun s hs => h s (mem_append_right _ hs)
    simp [weaveItem, ih, fragmentsIn]
  | .outOfLine _, _ => rfl
  | .code c, h => by
    have hc := r.sweep_of_settled c fun d hd => h (.loose d) (mem_map_of_mem hd)
    simp [weaveItem, hc]
  | .verbatim _, _ => rfl

theorem weaveItems_of_settled (modules : List String) : ∀ is : List Item,
    (∀ s ∈ r.itemSitesOf modules is, r.Settled s) → r.weaveItems [] modules is = (is, [])
  | [], _ => rfl
  | i :: rest, h => by
    have ih₁ := weaveItem_of_settled modules i fun s hs => h s (mem_append_left _ hs)
    have ih₂ := weaveItems_of_settled modules rest fun s hs => h s (mem_append_right _ hs)
    simp [weaveItems, ih₁, ih₂]

end

theorem weave_of_settled {m : Module} (h : ∀ s ∈ r.sites m, r.Settled s) :
    r.weave [] m = (m, []) := by
  obtain ⟨head, items⟩ := m
  cases items
  case none => rfl
  case some items =>
    have hi := r.weaveItems_of_settled [head.name.name] items
      fun s hs => h s (mem_append_right _ hs)
    simp [weave, hi, fragmentsIn]

theorem weave_of_unmarks {m : Module} (h : ∀ d ∈ Code.nested m.item.pieces,
    r.Unmarks d.attributes) : r.weave [] m = (m, []) := by
  refine r.weave_of_settled fun s hs => r.settled_of_unmarks (h s.nested ?_)
  rw [← map_nested_sites]
  exact mem_map_of_mem hs

theorem weave_keeps_all_but_markers (m : Module) :
    r.Kept m.item (r.weave fragments m).1.item ∧
    Forall₂ (r.Grown fragments) m.scopes (r.weave fragments m).1.scopes ∧
    ((∀ d ∈ Code.nested m.item.pieces, r.Unmarks d.attributes) → r.weave [] m = (m, [])) := by
  refine ⟨?item, ?scopes, fun h => r.weave_of_unmarks h⟩
  case item =>
    rw [(r.weave_item fragments m).1]
    exact r.kept_weaveItem fragments [] m.item
  case scopes =>
    rw [scopes_weave, forall₂_map_right_iff, forall₂_same]
    exact fun s _ => r.grown_wovenScope fragments s

end Registry

-- `fn area() { body }`
def areaFunction (body : Code) : Piece :=
  .headed [.token (.word "fn"), .token (.word "area"),
    .constrained [.group .paren .unlocated .unlocated []] []] .unlocated .unlocated [] body

-- `mod shapes { #[derive(Clone)] struct Plain; #[note = { struct Inner; 3 }] fn area() {} }`
def plainModule : Module where
  head := ⟨[], [], [], ⟨"shapes", false, .unlocated⟩⟩
  items := some [
    .declaration {
      attributes := [⟨false, .unlocated, .unlocated, .unlocated,
        ⟨false, [⟨"derive", false, .unlocated⟩]⟩,
        .list .paren .unlocated .unlocated [.word "Clone"]⟩]
      visibility := []
      name := ⟨"Plain", false, .unlocated⟩
      generics := .none
      clause := []
      shape := .struct .unit },
    .code [
      .attr ⟨false, .unlocated, .unlocated, .unlocated,
        ⟨false, [⟨"note", false, .unlocated⟩]⟩,
        .value .unlocated [.group .brace .unlocated .unlocated [
          .declaration [] [.word "struct"] ⟨"Inner", false, .unlocated⟩
            [.token (.punct ';' .alone .unlocated)],
          .token (.number 3)]]⟩,
      areaFunction []]]

set_option maxRecDepth 4000 in
theorem plain_module_unchanged :
    Module.ofTokens? plainModule.tokens = some plainModule ∧
    (∀ d ∈ Code.nested plainModule.item.pieces, Registry.canonical.Unmarks d.attributes) ∧
    Registry.canonical.weave [] plainModule = (plainModule, []) := by
  have hs : ∀ d ∈ Code.nested plainModule.item.pieces,
      Registry.canonical.Unmarks d.attributes := by
    unfold Registry.Unmarks
    decide
  exact ⟨rfl, hs, (Registry.canonical.weave_keeps_all_but_markers [] plainModule).right.right hs⟩

end Accessors
