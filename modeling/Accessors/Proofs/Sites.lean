import Accessors.Pass.Scan
import Accessors.Pass.Weave
import Accessors.Proofs.Outcomes

namespace Accessors

-- A declaration as far as its markers are concerned.
structure Nested where
  attributes : List Attribute
  name : Ident

mutual

-- The declarations in a piece of code, in the order in which they are met.
def Piece.nested : Piece → List Nested
  | .token _ => []
  | .group _ _ _ body => Code.nested body
  | .attr a => a.nested
  | .lifetimesFirst items _ => Code.nestedOf items
  | .constrained subject clause => Code.nested clause ++ Code.nested subject
  | .headed head _ _ inner body => Code.nested inner ++ Code.nested head ++ Code.nested body
  | .declaration attributes _ name body =>
    ⟨attributes, name⟩ :: (Attribute.nestedOf attributes ++ Code.nested body)

def Code.nested : Code → List Nested
  | [] => []
  | p :: rest => p.nested ++ Code.nested rest

def Code.nestedOf : List (Bool × Code) → List Nested
  | [] => []
  | (_, c) :: rest => Code.nested c ++ Code.nestedOf rest

def Attribute.nested : Attribute → List Nested
  | ⟨_, _, _, _, _, arguments⟩ => arguments.nested

def Attribute.nestedOf : List Attribute → List Nested
  | [] => []
  | a :: rest => a.nested ++ Attribute.nestedOf rest

def Arguments.nested : Arguments → List Nested
  | .absent => []
  | .list _ _ _ _ => []
  | .value _ value => Code.nested value

end

theorem Code.nested_append (c d : Code) : nested (c ++ d) = nested c ++ nested d := by
  induction c
  case nil => rfl
  case cons p c ih => simp [nested, ih]

theorem Code.nested_ofTokens (ts : List Token) : nested (ofTokens ts) = [] := by
  induction ts
  case nil => rfl
  case cons t ts ih => simp_all [ofTokens, nested, Piece.nested]

theorem Attribute.nested_code (as : List Attribute) :
    Code.nested (code as) = as.flatMap Attribute.nested := by
  induction as
  case nil => rfl
  case cons a as ih => simp_all [code, Code.nested, Piece.nested]

theorem Attribute.nestedOf_eq_flatMap (as : List Attribute) :
    nestedOf as = as.flatMap Attribute.nested := by
  induction as
  case nil => rfl
  case cons a as ih => simp [nestedOf, ih]

def ModuleHead.nested (h : ModuleHead) : List Nested :=
  (h.attributes ++ h.inner).flatMap Attribute.nested

-- A declaration is held by a module, or it is loose in an item that is neither a declaration nor a
-- module. Of the others, those inside of a declaration that a module holds and those in the head of
-- a module are left as they are, but those in the value of a marker are dropped together with it.
inductive Site
  | held (candidate : Candidate)
  | loose (declaration : Nested)
  | enclosed (declaration : Nested)
  | dropped (declaration : Nested)

namespace Site

def nested : Site → Nested
  | held c => ⟨c.declaration.attributes, c.declaration.name⟩
  | loose d | enclosed d | dropped d => d

def attributes (s : Site) : List Attribute :=
  s.nested.attributes

def isHeld : Site → Bool
  | held _ => true
  | _ => false

def isEnclosed : Site → Bool
  | enclosed _ => true
  | _ => false

def isDropped : Site → Bool
  | dropped _ => true
  | _ => false

def candidate? : Site → Option Candidate
  | held c => if c.declaration.attributes.isEmpty then none else some c
  | _ => none

def ofMet : Nested × Bool → Site
  | (d, true) => loose d
  | (d, false) => dropped d

end Site

namespace Registry

variable (r : Registry)

mutual

-- The same declarations, each with whether the sweep meets it. It does not look into attributes
-- that are not kept.
def surveyPiece : Piece → List (Nested × Bool)
  | .token _ => []
  | .group _ _ _ body => survey body
  | .attr a => surveyAttribute a
  | .lifetimesFirst items _ => surveyItems items
  | .constrained subject clause => survey clause ++ survey subject
  | .headed head _ _ inner body => survey inner ++ survey head ++ survey body
  | .declaration attributes _ name body =>
    (⟨attributes, name⟩, true) ::
      (surveyAttributes (r.keeps attributes) attributes ++ survey body)

def survey : Code → List (Nested × Bool)
  | [] => []
  | p :: rest => surveyPiece p ++ survey rest

def surveyItems : List (Bool × Code) → List (Nested × Bool)
  | [] => []
  | (_, c) :: rest => survey c ++ surveyItems rest

def surveyAttribute : Attribute → List (Nested × Bool)
  | ⟨_, _, _, _, _, arguments⟩ => surveyArguments arguments

def surveyAttributes (kept : Attribute → Bool) : List Attribute → List (Nested × Bool)
  | [] => []
  | a :: rest =>
    (if kept a then surveyAttribute a else a.nested.map (·, false)) ++ surveyAttributes kept rest

def surveyArguments : Arguments → List (Nested × Bool)
  | .absent => []
  | .list _ _ _ _ => []
  | .value _ value => survey value

end

def heldSites (as : List Attribute) : List Site :=
  as.flatMap fun a => a.nested.map fun d => if r.isMarker a then .dropped d else .enclosed d

mutual

def itemSites (modules : List String) : Item → List Site
  | .declaration d =>
    .held ⟨modules, d⟩ :: (r.heldSites d.attributes ++ (Code.nested d.body).map .enclosed)
  | .inline head items =>
    head.nested.map .enclosed ++ itemSitesOf (modules ++ [head.name.name]) items
  | .outOfLine head => (head.attributes.flatMap Attribute.nested).map .enclosed
  | .code c => (r.survey c).map .ofMet
  | .verbatim _ => []

def itemSitesOf (modules : List String) : List Item → List Site
  | [] => []
  | i :: rest => itemSites modules i ++ itemSitesOf modules rest

end

def sites (m : Module) : List Site :=
  r.itemSites [] m.item

theorem itemSitesOf_append (modules : List String) (is js : List Item) :
    r.itemSitesOf modules (is ++ js) = r.itemSitesOf modules is ++ r.itemSitesOf modules js := by
  induction is
  case nil => rfl
  case cons i is ih => simp [itemSitesOf, ih]

theorem itemSitesOf_fragmentsIn (modules : List String) (fragments : List Fragment)
    (path : List String) : r.itemSitesOf modules (fragmentsIn fragments path) = [] := by
  rw [fragmentsIn]
  induction fragments.filter (·.modules = path)
  case nil => rfl
  case cons f fs ih => simp [itemSitesOf, itemSites, ih]

mutual

theorem map_fst_surveyPiece : ∀ p : Piece, (r.surveyPiece p).map (·.1) = p.nested
  | .token _ => rfl
  | .group _ _ _ body => map_fst_survey body
  | .attr a => map_fst_surveyAttribute a
  | .lifetimesFirst items _ => map_fst_surveyItems items
  | .constrained subject clause => by
    have ih₁ := map_fst_survey clause
    have ih₂ := map_fst_survey subject
    simp [surveyPiece, Piece.nested, ih₁, ih₂]
  | .headed head _ _ inner body => by
    have ih₁ := map_fst_survey inner
    have ih₂ := map_fst_survey head
    have ih₃ := map_fst_survey body
    simp [surveyPiece, Piece.nested, ih₁, ih₂, ih₃]
  | .declaration attributes _ name body => by
    have ih₁ := map_fst_surveyAttributes (r.keeps attributes) attributes
    have ih₂ := map_fst_survey body
    simp [surveyPiece, Piece.nested, ih₁, ih₂]

theorem map_fst_survey : ∀ c : Code, (r.survey c).map (·.1) = Code.nested c
  | [] => rfl
  | p :: rest => by
    have ih₁ := map_fst_surveyPiece p
    have ih₂ := map_fst_survey rest
    simp [survey, Code.nested, ih₁, ih₂]

theorem map_fst_surveyItems : ∀ items : List (Bool × Code),
    (r.surveyItems items).map (·.1) = Code.nestedOf items
  | [] => rfl
  | (_, c) :: rest => by
    have ih₁ := map_fst_survey c
    have ih₂ := map_fst_surveyItems rest
    simp [surveyItems, Code.nestedOf, ih₁, ih₂]

theorem map_fst_surveyAttribute : ∀ a : Attribute,
    (r.surveyAttribute a).map (·.1) = a.nested
  | ⟨_, _, _, _, _, arguments⟩ => map_fst_surveyArguments arguments

theorem map_fst_surveyAttributes (kept : Attribute → Bool) : ∀ as : List Attribute,
    (r.surveyAttributes kept as).map (·.1) = Attribute.nestedOf as
  | [] => rfl
  | a :: rest => by
    have ih₁ := map_fst_surveyAttribute a
    have ih₂ := map_fst_surveyAttributes kept rest
    cases hk : kept a <;>
      simp [surveyAttributes, Attribute.nestedOf, hk, ih₁, ih₂, Function.comp_def]

theorem map_fst_surveyArguments : ∀ a : Arguments,
    (r.surveyArguments a).map (·.1) = a.nested
  | .absent => rfl
  | .list _ _ _ _ => rfl
  | .value _ value => map_fst_survey value

end

theorem map_nested_heldSites (as : List Attribute) :
    (r.heldSites as).map Site.nested = as.flatMap Attribute.nested := by
  rw [heldSites, List.map_flatMap]
  congr
  funext a
  cases r.isMarker a <;> simp [Function.comp_def, Site.nested]

mutual

theorem map_nested_itemSites (modules : List String) : ∀ i : Item,
    (r.itemSites modules i).map Site.nested = Code.nested i.pieces
  | .declaration d => by
    simp [itemSites, map_nested_heldSites, Item.pieces, Declaration.piece, Code.nested,
      Piece.nested, Attribute.nestedOf_eq_flatMap, Site.nested, Function.comp_def]
  | .inline head items => by
    have ih := map_nested_itemSitesOf (modules ++ [head.name.name]) items
    simp [itemSites, Item.pieces, ModuleHead.code, ModuleHead.nested, Code.nested_append,
      Code.nested_ofTokens, Attribute.nested_code, Code.nested, Piece.nested, ih, Site.nested,
      Function.comp_def]
  | .outOfLine head => by
    simp [itemSites, Item.pieces, ModuleHead.code, Code.nested_append, Code.nested_ofTokens,
      Attribute.nested_code, Site.nested, Function.comp_def]
  | .code c => by
    rw [itemSites, Item.pieces, ← r.map_fst_survey c, List.map_map]
    refine List.map_congr_left ?_
    rintro ⟨d, _ | _⟩ _ <;> rfl
  | .verbatim ts => (Code.nested_ofTokens ts).symm

theorem map_nested_itemSitesOf (modules : List String) : ∀ is : List Item,
    (r.itemSitesOf modules is).map Site.nested = Code.nested (Item.piecesOf is)
  | [] => rfl
  | i :: rest => by
    have ih₁ := map_nested_itemSites modules i
    have ih₂ := map_nested_itemSitesOf modules rest
    simp [itemSitesOf, Item.piecesOf, Code.nested_append, ih₁, ih₂]

end

theorem map_nested_sites (m : Module) :
    (r.sites m).map Site.nested = Code.nested m.item.pieces :=
  r.map_nested_itemSites [] m.item

theorem filterMap_enclosed {α : Type} {f : Site → Option α} (he : ∀ d, f (.enclosed d) = none)
    (ds : List Nested) : (ds.map Site.enclosed).filterMap f = [] := by
  simp [Function.comp_def, he]

theorem filterMap_heldSites {α : Type} {f : Site → Option α} (he : ∀ d, f (.enclosed d) = none)
    (hd : ∀ d, f (.dropped d) = none) (as : List Attribute) :
    (r.heldSites as).filterMap f = [] := by
  simp only [List.filterMap_eq_nil_iff, heldSites, List.mem_flatMap, List.mem_map]
  rintro _ ⟨a, _, d, _, rfl⟩
  cases r.isMarker a
  case false => exact he d
  case true => exact hd d

theorem filterMap_candidate?_ofMet (xs : List (Nested × Bool)) :
    (xs.map Site.ofMet).filterMap Site.candidate? = [] := by
  simp only [List.filterMap_eq_nil_iff, List.mem_map]
  rintro _ ⟨⟨d, met⟩, _, rfl⟩
  cases met <;> rfl

mutual

theorem item_candidates_eq (modules : List String) : ∀ i : Item,
    i.candidates modules = (r.itemSites modules i).filterMap Site.candidate?
  | .declaration d => by
    rw [Item.candidates, itemSites, List.filterMap_cons, List.filterMap_append,
      filterMap_heldSites r (fun _ => rfl) (fun _ => rfl), filterMap_enclosed fun _ => rfl]
    cases h : d.attributes.isEmpty <;> simp [Site.candidate?, h]
  | .inline head items => by
    rw [Item.candidates, itemSites, List.filterMap_append, filterMap_enclosed fun _ => rfl,
      item_candidatesOf_eq, List.nil_append]
  | .outOfLine _ => (filterMap_enclosed (fun _ => rfl) _).symm
  | .code c => (filterMap_candidate?_ofMet (r.survey c)).symm
  | .verbatim _ => rfl

theorem item_candidatesOf_eq (modules : List String) : ∀ is : List Item,
    Item.candidatesOf modules is = (r.itemSitesOf modules is).filterMap Site.candidate?
  | [] => rfl
  | i :: rest => by
    rw [Item.candidatesOf, itemSitesOf, List.filterMap_append, item_candidates_eq modules i,
      item_candidatesOf_eq modules rest]

end

theorem candidates_eq (m : Module) : m.candidates = (r.sites m).filterMap Site.candidate? :=
  r.item_candidates_eq [] m.item

section Keeps

variable {r} {as : List Attribute}

theorem filter_keeps_of_derives (h : derivesAccessors as = true) :
    as.filter (r.keeps as) = as :=
  List.filter_eq_self.mpr fun _ _ => by rw [keeps, h, Bool.true_or]

theorem keeps_of_not_derives (h : derivesAccessors as = false) (a : Attribute) :
    r.keeps as a = !r.isMarker a := by
  rw [keeps, h, Bool.false_or]

theorem outOfReach?_of_derives (name : Ident) (h : derivesAccessors as = true) :
    r.outOfReach? name as = none := by
  rw [outOfReach?, if_pos h]

theorem outOfReach?_of_not_derives (name : Ident) (h : derivesAccessors as = false) :
    r.outOfReach? name as = (as.find? r.isMarker).map fun a => .outOfReach name a.span := by
  rw [outOfReach?, h, if_neg Bool.false_ne_true]

end Keeps

theorem isMarker_sweepAttribute (a : Attribute) :
    r.isMarker (r.sweepAttribute a).1 = r.isMarker a := by
  cases a
  rfl

theorem sweepAttributes_eq (kept : Attribute → Bool) (as : List Attribute) :
    (r.sweepAttributes kept as).1 = (as.filter kept).map fun a => (r.sweepAttribute a).1 := by
  induction as
  case nil => rfl
  case cons a as ih => cases hk : kept a <;> simp [sweepAttributes, hk, ih]

-- A value derives nothing, whatever it is.
theorem derivesAccessors_map_sweep (as : List Attribute) :
    derivesAccessors (as.map fun a => (r.sweepAttribute a).1) = derivesAccessors as := by
  rw [derivesAccessors, List.any_map]
  congr
  funext a
  obtain ⟨_, _, _, _, _, arguments⟩ := a
  cases arguments <;> rfl

theorem keeps_sweepAttribute {as : List Attribute} {a : Attribute} (h : r.keeps as a = true) :
    r.keeps (r.sweepAttributes (r.keeps as) as).1 (r.sweepAttribute a).1 = true := by
  cases hd : derivesAccessors as
  case true =>
    rw [keeps, sweepAttributes_eq, filter_keeps_of_derives hd, derivesAccessors_map_sweep, hd,
      Bool.true_or]
  case false =>
    rw [keeps_of_not_derives hd] at h
    rw [keeps, isMarker_sweepAttribute, h, Bool.or_true]

def reached (d : Nested) : Nested :=
  { d with attributes := (r.sweepAttributes (r.keeps d.attributes) d.attributes).1 }

def unreached? (d : Nested) : Option Problem :=
  r.outOfReach? d.name d.attributes

def left? : Nested × Bool → Option (Nested × Bool)
  | (d, true) => some (r.reached d, true)
  | (_, false) => none

def told? : Nested × Bool → Option Problem
  | (d, true) => r.unreached? d
  | (_, false) => none

mutual

theorem survey_sweepPiece : ∀ p : Piece,
    r.surveyPiece (r.sweepPiece p).1 = (r.surveyPiece p).filterMap r.left? ∧
      (r.sweepPiece p).2 = (r.surveyPiece p).filterMap r.told?
  | .token _ => ⟨rfl, rfl⟩
  | .group _ _ _ body => survey_sweep body
  | .attr a => survey_sweepAttribute a
  | .lifetimesFirst items _ => survey_sweepItems items
  | .constrained subject clause => by
    have ih₁ := survey_sweep clause
    have ih₂ := survey_sweep subject
    simp [sweepPiece, surveyPiece, ih₁, ih₂]
  | .headed head _ _ inner body => by
    have ih₁ := survey_sweep inner
    have ih₂ := survey_sweep head
    have ih₃ := survey_sweep body
    simp [sweepPiece, surveyPiece, ih₁, ih₂, ih₃]
  | .declaration attributes head name body => by
    have ih₁ := survey_sweepAttributes (r.keeps attributes) _ attributes
      fun _ => r.keeps_sweepAttribute
    have ih₂ := survey_sweep body
    cases hu : r.outOfReach? name attributes <;>
      simp [sweepPiece, surveyPiece, ih₁, ih₂, left?, told?, reached, unreached?, hu]

theorem survey_sweep : ∀ c : Code,
    r.survey (r.sweep c).1 = (r.survey c).filterMap r.left? ∧
      (r.sweep c).2 = (r.survey c).filterMap r.told?
  | [] => ⟨rfl, rfl⟩
  | p :: rest => by
    have ih₁ := survey_sweepPiece p
    have ih₂ := survey_sweep rest
    simp [sweep, survey, ih₁, ih₂]

theorem survey_sweepItems : ∀ items : List (Bool × Code),
    r.surveyItems (r.sweepItems items).1 = (r.surveyItems items).filterMap r.left? ∧
      (r.sweepItems items).2 = (r.surveyItems items).filterMap r.told?
  | [] => ⟨rfl, rfl⟩
  | (_, c) :: rest => by
    have ih₁ := survey_sweep c
    have ih₂ := survey_sweepItems rest
    simp [sweepItems, surveyItems, ih₁, ih₂]

theorem survey_sweepAttribute : ∀ a : Attribute,
    r.surveyAttribute (r.sweepAttribute a).1 = (r.surveyAttribute a).filterMap r.left? ∧
      (r.sweepAttribute a).2 = (r.surveyAttribute a).filterMap r.told?
  | ⟨_, _, _, _, _, arguments⟩ => survey_sweepArguments arguments

theorem survey_sweepAttributes (kept after : Attribute → Bool) : ∀ as : List Attribute,
    (∀ a, kept a = true → after (r.sweepAttribute a).1 = true) →
    r.surveyAttributes after (r.sweepAttributes kept as).1 =
        (r.surveyAttributes kept as).filterMap r.left? ∧
      (r.sweepAttributes kept as).2 = (r.surveyAttributes kept as).filterMap r.told?
  | [], _ => ⟨rfl, rfl⟩
  | a :: rest, h => by
    have ih₁ := survey_sweepAttribute a
    have ih₂ := survey_sweepAttributes kept after rest h
    cases hk : kept a
    case false => simp [sweepAttributes, surveyAttributes, hk, ih₂, left?, told?]
    case true => simp [sweepAttributes, surveyAttributes, hk, h a hk, ih₁, ih₂]

theorem survey_sweepArguments : ∀ a : Arguments,
    r.surveyArguments (r.sweepArguments a).1 = (r.surveyArguments a).filterMap r.left? ∧
      (r.sweepArguments a).2 = (r.surveyArguments a).filterMap r.told?
  | .absent => ⟨rfl, rfl⟩
  | .list _ _ _ _ => ⟨rfl, rfl⟩
  | .value _ value => survey_sweep value

end

def outcomeAt : Site → Outcome
  | .held c => r.process c
  | _ => .unmarked

def unreachedAt? : Site → Option Problem
  | .loose d => r.unreached? d
  | _ => none

def wovenAt? : Site → Option Site
  | .held ⟨modules, d⟩ => some (.held ⟨modules, { d with attributes := r.strip d.attributes }⟩)
  | .loose d => some (.loose (r.reached d))
  | .enclosed d => some (.enclosed d)
  | .dropped _ => none

theorem filterMap_candidates {α : Type} (f : Outcome → Option α) (h : f .unmarked = none)
    (m : Module) : (m.candidates.filterMap fun c => f (r.process c)) =
      (r.sites m).filterMap fun s => f (r.outcomeAt s) := by
  rw [r.candidates_eq, List.filterMap_filterMap]
  congr
  funext s
  cases s
  case held c =>
    cases hc : c.declaration.attributes.isEmpty
    case false => simp [Site.candidate?, outcomeAt, hc]
    case true => simp [Site.candidate?, outcomeAt, hc, r.process_eq_unmarked hc, h]
  all_goals exact h.symm

theorem fragments_eq (m : Module) :
    r.fragments m.candidates = (r.sites m).filterMap fun s => (r.outcomeAt s).fragment? :=
  r.filterMap_candidates Outcome.fragment? rfl m

theorem problems_eq (m : Module) :
    r.problems m.candidates = (r.sites m).filterMap fun s => (r.outcomeAt s).problem? :=
  r.filterMap_candidates Outcome.problem? rfl m

theorem filterMap_unreachedAt?_enclosed (ds : List Nested) :
    (ds.map Site.enclosed).filterMap r.unreachedAt? = [] :=
  filterMap_enclosed (fun _ => rfl) ds

theorem filterMap_wovenAt?_enclosed (ds : List Nested) :
    (ds.map Site.enclosed).filterMap r.wovenAt? = ds.map Site.enclosed := by
  rw [List.filterMap_map]
  exact congrFun List.filterMap_eq_map ds

theorem filterMap_wovenAt?_held (as : List Attribute) :
    (r.heldSites as).filterMap r.wovenAt? = r.heldSites (r.strip as) := by
  induction as
  case nil => rfl
  case cons a as ih =>
    rw [heldSites] at ih ⊢
    cases hm : r.isMarker a
    case false =>
      have hs : r.strip (a :: as) = a :: r.strip as := by simp [strip, hm]
      have he := r.filterMap_wovenAt?_enclosed a.nested
      rw [hs, heldSites, List.flatMap_cons, List.flatMap_cons, List.filterMap_append, ih, hm]
      exact congrArg (· ++ _) he
    case true =>
      have hs : r.strip (a :: as) = r.strip as := by simp [strip, hm]
      rw [hs, List.flatMap_cons, List.filterMap_append, ih]
      simp [hm, List.filterMap_map, Function.comp_def, wovenAt?]

theorem filterMap_unreachedAt?_ofMet (xs : List (Nested × Bool)) :
    (xs.map Site.ofMet).filterMap r.unreachedAt? = xs.filterMap r.told? := by
  rw [List.filterMap_map]
  congr
  funext x
  obtain ⟨d, met⟩ := x
  cases met <;> rfl

theorem filterMap_wovenAt?_ofMet (xs : List (Nested × Bool)) :
    (xs.map Site.ofMet).filterMap r.wovenAt? = (xs.filterMap r.left?).map Site.ofMet := by
  rw [List.filterMap_map, List.map_filterMap]
  congr
  funext x
  obtain ⟨d, met⟩ := x
  cases met <;> rfl

variable (fragments : List Fragment)

mutual

theorem weaveItem_sites (modules : List String) : ∀ i : Item,
    r.itemSites modules (r.weaveItem fragments modules i).1 =
        (r.itemSites modules i).filterMap r.wovenAt? ∧
      (r.weaveItem fragments modules i).2 = (r.itemSites modules i).filterMap r.unreachedAt?
  | .declaration d => by
    have hw := r.filterMap_wovenAt?_held d.attributes
    have hu := r.filterMap_heldSites (f := r.unreachedAt?) (fun _ => rfl) (fun _ => rfl)
      d.attributes
    simp only [weaveItem, itemSites, List.filterMap_cons, List.filterMap_append, hw, hu,
      filterMap_wovenAt?_enclosed, filterMap_unreachedAt?_enclosed]
    exact ⟨rfl, rfl⟩
  | .inline head items => by
    have ⟨ih₁, ih₂⟩ := weaveItems_sites (modules ++ [head.name.name]) items
    simp only [weaveItem, itemSites, itemSitesOf_append, itemSitesOf_fragmentsIn,
      List.append_nil, List.filterMap_append, filterMap_wovenAt?_enclosed,
      filterMap_unreachedAt?_enclosed, List.nil_append, ih₁, ih₂, and_self]
  | .outOfLine head => by
    simp only [weaveItem, itemSites, filterMap_wovenAt?_enclosed, filterMap_unreachedAt?_enclosed,
      and_self]
  | .code c => by
    have ⟨hl, ht⟩ := r.survey_sweep c
    simp only [weaveItem, itemSites, filterMap_wovenAt?_ofMet, filterMap_unreachedAt?_ofMet, hl, ht,
      and_self]
  | .verbatim _ => ⟨rfl, rfl⟩

theorem weaveItems_sites (modules : List String) : ∀ is : List Item,
    r.itemSitesOf modules (r.weaveItems fragments modules is).1 =
        (r.itemSitesOf modules is).filterMap r.wovenAt? ∧
      (r.weaveItems fragments modules is).2 = (r.itemSitesOf modules is).filterMap r.unreachedAt?
  | [] => ⟨rfl, rfl⟩
  | i :: rest => by
    have ih₁ := weaveItem_sites modules i
    have ih₂ := weaveItems_sites modules rest
    simp [weaveItems, itemSitesOf, ih₁, ih₂]

end

theorem weave_sites (m : Module) :
    r.sites (r.weave fragments m).1 = (r.sites m).filterMap r.wovenAt? := by
  rw [sites, (r.weave_item fragments m).1, (r.weaveItem_sites fragments [] m.item).1, sites]

theorem weave_problems (m : Module) :
    (r.weave fragments m).2 = (r.sites m).filterMap r.unreachedAt? := by
  rw [(r.weave_item fragments m).2, (r.weaveItem_sites fragments [] m.item).2, sites]

end Registry

end Accessors
