import Accessors.Proofs.Deriving
import Accessors.Proofs.Frame

namespace Accessors

open List

def Arguments.values : Arguments → List Code
  | .absent => []
  | .list _ _ _ _ => []
  | .value _ c => [c]

def Attribute.values (a : Attribute) : List Code :=
  a.arguments.values

def Piece.own : Piece → List Nested
  | .declaration attributes _ name _ => [⟨attributes, name⟩]
  | _ => []

namespace Registry

variable (r : Registry)

-- The code that a piece of code encloses, but for attributes that are not kept. Nothing is looked
-- for in a token, not even in one that is a group, such as the arguments of a macro.
def inner : Piece → List Code
  | .token _ => []
  | .group _ _ _ body => [body]
  | .attr a => a.values
  | .lifetimesFirst items _ => items.map (·.2)
  | .constrained subject clause => [clause, subject]
  | .headed head _ _ inner body => [inner, head, body]
  | .declaration attributes _ _ body =>
    (attributes.filter (r.keeps attributes)).flatMap Attribute.values ++ [body]

inductive Holds : Code → Piece → Prop
  | here {c : Code} {p : Piece} (h : p ∈ c) : Holds c p
  | inside {c i : Code} {p q : Piece} (hq : q ∈ c) (hi : i ∈ r.inner q) (h : Holds i p) : Holds c p

def met (c : Code) : List Nested :=
  ((r.survey c).filter (·.2)).map (·.1)

variable {r}
variable {c e i : Code} {p q : Piece} {d : Nested}

theorem mem_met : d ∈ r.met c ↔ (d, true) ∈ r.survey c := by
  simp [met]

theorem survey_eq (c : Code) : r.survey c = c.flatMap r.surveyPiece := by
  induction c
  case nil => rfl
  case cons p c ih => rw [survey, flatMap_cons, ih]

theorem surveyItems_eq (items : List (Bool × Code)) :
    r.surveyItems items = (items.map (·.2)).flatMap r.survey := by
  induction items
  case nil => rfl
  case cons x items ih => simp [surveyItems, ih]

theorem surveyAttribute_eq (a : Attribute) :
    r.surveyAttribute a = a.values.flatMap r.survey := by
  obtain ⟨_, _, _, _, _, arguments⟩ := a
  cases arguments <;>
    simp [surveyAttribute, surveyArguments, Attribute.values, Arguments.values]

theorem surveyAttributes_eq (kept : Attribute → Bool) (as : List Attribute) :
    r.surveyAttributes kept as = as.flatMap fun a =>
      if kept a then r.surveyAttribute a else a.nested.map (·, false) := by
  induction as
  case nil => rfl
  case cons a as ih => rw [surveyAttributes, flatMap_cons, ih]

theorem mem_surveyPiece {x : Nested × Bool} (h : i ∈ r.inner q) (hx : x ∈ r.survey i) :
    x ∈ r.surveyPiece q := by
  cases q
  case token => contradiction
  case group =>
    obtain rfl := mem_singleton.mp h
    exact hx
  case attr a =>
    rw [surveyPiece, surveyAttribute_eq]
    exact mem_flatMap.mpr ⟨i, h, hx⟩
  case lifetimesFirst items trailing =>
    rw [surveyPiece, surveyItems_eq]
    exact mem_flatMap.mpr ⟨i, h, hx⟩
  case constrained subject clause =>
    obtain rfl | rfl := mem_pair.mp h
    · exact mem_append_left _ hx
    · exact mem_append_right _ hx
  case headed head o c inner body =>
    obtain rfl | rfl | rfl : i = inner ∨ i = head ∨ i = body := by simpa [Registry.inner] using h
    · exact mem_append_left _ (mem_append_left _ hx)
    · exact mem_append_left _ (mem_append_right _ hx)
    · exact mem_append_right _ hx
  case declaration attributes head name body =>
    refine .tail _ ?_
    cases mem_append.mp h
    case inl h =>
      obtain ⟨a, ha, hi⟩ := mem_flatMap.mp h
      obtain ⟨ha, hk⟩ := mem_filter.mp ha
      refine mem_append_left _ ?_
      rw [surveyAttributes_eq]
      refine mem_flatMap.mpr ⟨a, ha, ?_⟩
      rw [if_pos hk, surveyAttribute_eq]
      exact mem_flatMap.mpr ⟨i, hi, hx⟩
    case inr h =>
      obtain rfl := mem_singleton.mp h
      exact mem_append_right _ hx

theorem Holds.mem_survey {x : Nested × Bool} (h : r.Holds c p) (hx : x ∈ r.surveyPiece p) :
    x ∈ r.survey c := by
  induction h
  case here h =>
    rw [survey_eq]
    exact mem_flatMap.mpr ⟨_, h, hx⟩
  case inside hq hi _ ih =>
    rw [survey_eq]
    exact mem_flatMap.mpr ⟨_, hq, mem_surveyPiece hi (ih hx)⟩

theorem Holds.mono (h : r.Holds c p) (hs : c ⊆ e) : r.Holds e p := by
  cases h
  case here h => exact .here (hs h)
  case inside hi hq h => exact .inside (hs hq) hi h

variable (r) in
inductive Accounted (c : Code) : Nested × Bool → Prop
  | met (d : Nested) (head : List Token) (body : Code)
    (h : r.Holds c (.declaration d.attributes head d.name body)) : Accounted c (d, true)
  | dropped (d e : Nested) (head : List Token) (body : Code) (a : Attribute)
    (h : r.Holds c (.declaration e.attributes head e.name body)) (ha : a ∈ e.attributes)
    (hk : r.keeps e.attributes a = false) (hd : d ∈ a.nested) : Accounted c (d, false)

theorem Accounted.mono {x : Nested × Bool} (h : r.Accounted c x) (hs : c ⊆ e) :
    r.Accounted e x := by
  cases h
  case met d head body h => exact .met d head body (h.mono hs)
  case dropped d e head body a h ha hk hd => exact .dropped d e head body a (h.mono hs) ha hk hd

theorem Accounted.inside {x : Nested × Bool} (h : r.Accounted i x) (hi : i ∈ r.inner q) :
    r.Accounted [q] x := by
  cases h
  case met d head body h => exact .met d head body (.inside (.head _) hi h)
  case dropped d e head body a h ha hk hd =>
    exact .dropped d e head body a (.inside (.head _) hi h) ha hk hd

mutual

theorem accounted_surveyPiece : ∀ p : Piece, ∀ x ∈ r.surveyPiece p, r.Accounted [p] x
  | .token _, x, h => by contradiction
  | .group _ _ _ body, x, h => (accounted_survey body x h).inside (.head _)
  | .attr a, x, h => by
    obtain ⟨i, hi, h⟩ := accounted_surveyAttribute a x h
    exact h.inside hi
  | .lifetimesFirst items _, x, h => by
    obtain ⟨i, hi, h⟩ := accounted_surveyItems items x h
    exact h.inside hi
  | .constrained subject clause, x, h => by
    cases mem_append.mp h
    case inl h => exact (accounted_survey clause x h).inside (.head _)
    case inr h => exact (accounted_survey subject x h).inside (.tail _ (.head _))
  | .headed head _ _ inner body, x, h => by
    obtain h | h := mem_append.mp h
    · obtain h | h := mem_append.mp h
      · exact (accounted_survey inner x h).inside (.head _)
      · exact (accounted_survey head x h).inside (.tail _ (.head _))
    · exact (accounted_survey body x h).inside (.tail _ (.tail _ (.head _)))
  | .declaration attributes head name body, x, h => by
    obtain _ | ⟨_, h⟩ := h
    · exact .met ⟨attributes, name⟩ head body (.here (.head _))
    · obtain h | h := mem_append.mp h
      · obtain ⟨i, hi, h⟩ | ⟨a, d, ha, hk, hd, rfl⟩ :=
          accounted_surveyAttributes (r.keeps attributes) attributes x h
        · exact h.inside (mem_append_left _ hi)
        · exact .dropped d ⟨attributes, name⟩ head body a (.here (.head _)) ha hk hd
      · exact (accounted_survey body x h).inside (mem_append_right _ (.head _))

theorem accounted_survey : ∀ c : Code, ∀ x ∈ r.survey c, r.Accounted c x
  | [], x, h => by contradiction
  | p :: rest, x, h => by
    cases mem_append.mp h
    case inl h => exact (accounted_surveyPiece p x h).mono (by simp)
    case inr h => exact (accounted_survey rest x h).mono (subset_cons_self ..)

theorem accounted_surveyItems : ∀ items : List (Bool × Code), ∀ x ∈ r.surveyItems items,
    ∃ i ∈ items.map (·.2), r.Accounted i x
  | [], x, h => by contradiction
  | (_, c) :: rest, x, h => by
    cases mem_append.mp h
    case inl h => exact ⟨c, .head _, accounted_survey c x h⟩
    case inr h =>
      obtain ⟨i, hi, h⟩ := accounted_surveyItems rest x h
      exact ⟨i, .tail _ hi, h⟩

theorem accounted_surveyAttribute : ∀ a : Attribute, ∀ x ∈ r.surveyAttribute a,
    ∃ i ∈ a.values, r.Accounted i x
  | ⟨_, _, _, _, _, arguments⟩, x, h => accounted_surveyArguments arguments x h

theorem accounted_surveyAttributes (kept : Attribute → Bool) : ∀ as : List Attribute,
    ∀ x ∈ r.surveyAttributes kept as,
      (∃ i ∈ (as.filter kept).flatMap Attribute.values, r.Accounted i x) ∨
        ∃ a d, a ∈ as ∧ kept a = false ∧ d ∈ a.nested ∧ x = (d, false)
  | [], x, h => by contradiction
  | a :: rest, x, h => by
    cases mem_append.mp h
    case inl h =>
      cases hk : kept a
      case true =>
        rw [if_pos hk] at h
        obtain ⟨i, hi, h⟩ := accounted_surveyAttribute a x h
        exact .inl ⟨i, mem_flatMap.mpr ⟨a, mem_filter.mpr ⟨.head _, hk⟩, hi⟩, h⟩
      case false =>
        rw [hk, if_neg Bool.false_ne_true] at h
        obtain ⟨d, hd, rfl⟩ := mem_map.mp h
        exact .inr ⟨a, d, .head _, hk, hd, rfl⟩
    case inr h =>
      obtain ⟨i, hi, h⟩ | ⟨b, d, hb, hk, hd⟩ := accounted_surveyAttributes kept rest x h
      · obtain ⟨b, hb, hi⟩ := mem_flatMap.mp hi
        have ⟨hb, hk⟩ := mem_filter.mp hb
        exact .inl ⟨i, mem_flatMap.mpr ⟨b, mem_filter.mpr ⟨.tail _ hb, hk⟩, hi⟩, h⟩
      · exact .inr ⟨b, d, .tail _ hb, hk, hd⟩

theorem accounted_surveyArguments : ∀ a : Arguments, ∀ x ∈ r.surveyArguments a,
    ∃ i ∈ a.values, r.Accounted i x
  | .absent, x, h => by contradiction
  | .list _ _ _ _, x, h => by contradiction
  | .value _ c, x, h => ⟨c, mem_singleton_self c, accounted_survey c x h⟩

end

theorem mem_met_iff : d ∈ r.met c ↔
    ∃ head body, r.Holds c (.declaration d.attributes head d.name body) := by
  rw [mem_met]
  constructor
  case mp =>
    intro h
    obtain ⟨_, head, body, h⟩ := accounted_survey c _ h
    exact ⟨head, body, h⟩
  case mpr =>
    rintro ⟨head, body, h⟩
    exact h.mem_survey (.head _)

theorem met_flatMap (cs : List Code) :
    ((cs.flatMap r.survey).filter (·.2)).map (·.1) = cs.flatMap r.met := by
  rw [filter_flatMap, map_flatMap]
  rfl

theorem met_eq (c : Code) : r.met c = c.flatMap fun p => r.met [p] := by
  induction c
  case nil => rfl
  case cons p c ih => rw [flatMap_cons, ← ih]; simp [met, survey]

theorem filter_surveyAttributes (kept : Attribute → Bool) (as : List Attribute) :
    (r.surveyAttributes kept as).filter (·.2) =
      (((as.filter kept).flatMap Attribute.values).flatMap r.survey).filter (·.2) := by
  induction as
  case nil => rfl
  case cons a as ih =>
    cases hk : kept a
    case false => simp [surveyAttributes, hk, ih]
    case true => simp [surveyAttributes, hk, ih, surveyAttribute_eq]

-- A piece comes before all that it encloses.
theorem met_piece (p : Piece) : r.met [p] = p.own ++ (r.inner p).flatMap r.met := by
  have hs : r.survey [p] = r.surveyPiece p := append_nil _
  rw [← met_flatMap, met, hs]
  cases p
  case token => rfl
  case group => simp [surveyPiece, inner, Piece.own]
  case attr a =>
    rw [surveyPiece, surveyAttribute_eq]
    rfl
  case lifetimesFirst items trailing =>
    rw [surveyPiece, surveyItems_eq]
    rfl
  case constrained => simp [surveyPiece, inner, Piece.own]
  case headed => simp [surveyPiece, inner, Piece.own]
  case declaration attributes head name body =>
    rw [surveyPiece, filter_cons_of_pos rfl, filter_append, filter_surveyAttributes]
    simp [inner, Piece.own]

theorem met_eq_nested_iff_forall :
    r.met c = Code.nested c ↔ ∀ x ∈ r.survey c, x.2 = true := by
  rw [met, ← map_fst_survey]
  constructor
  case mp =>
    intro h
    have hl := congrArg length h
    rw [length_map, length_map] at hl
    exact length_filter_eq_length_iff.mp hl
  case mpr =>
    intro h
    rw [filter_eq_self.mpr h]

theorem met_eq_nested_iff : r.met c = Code.nested c ↔ ∀ d ∈ Code.nested c, ∀ a ∈ d.attributes,
    r.keeps d.attributes a = false → a.nested = [] := by
  rw [met_eq_nested_iff_forall]
  constructor
  case mp =>
    intro h d hd a ha hk
    rw [← r.map_fst_survey] at hd
    obtain ⟨x, hx, rfl⟩ := mem_map.mp hd
    have hm : x.1 ∈ r.met c := mem_map_of_mem (mem_filter.mpr ⟨hx, h x hx⟩)
    obtain ⟨head, body, hd⟩ := mem_met_iff.mp hm
    refine eq_nil_iff_forall_not_mem.mpr fun e he => ?_
    have hs : (e, false) ∈ r.surveyAttributes (r.keeps x.1.attributes) x.1.attributes := by
      rw [surveyAttributes_eq]
      refine mem_flatMap.mpr ⟨a, ha, ?_⟩
      rw [hk]
      exact mem_map_of_mem he
    exact Bool.false_ne_true (h _ (hd.mem_survey (.tail _ (mem_append_left _ hs))))
  case mpr =>
    intro h x hx
    obtain _ | ⟨d, e, head, body, a, he, ha, hk, hd⟩ := accounted_survey c x hx
    case met => rfl
    case dropped =>
      have hn : e ∈ Code.nested c := by
        rw [← r.map_fst_survey]
        exact mem_map_of_mem (he.mem_survey (.head _))
      rw [h e hn a ha hk] at hd
      contradiction

end Registry

namespace Nested

def Derives (d : Nested) : Prop :=
  ∃ a ∈ d.attributes, ∃ paths, a.Derives paths ∧ ∃ p ∈ paths, p.LeadsToDerive

def Plain (d : Nested) : Prop :=
  ∀ a ∈ d.attributes, a.isDerive = true → ∃ paths, a.Derives paths

end Nested

namespace Registry

variable (r : Registry) (fragments : List Fragment) (modules : List String)

def OutOfReach (d : Nested) : Prop :=
  (∃ a ∈ d.attributes, r.isMarker a = true) ∧ ¬d.Derives

-- What a declaration is after the sweep, and what has been said about it. The values of attributes
-- are kept as far as they are no declarations.
inductive Sweeps (d : Nested) : Nested → List Problem → Prop
  | spared (h : ¬r.OutOfReach d) (as : List Attribute)
    (kept : as.map Attribute.bare = d.attributes.map Attribute.bare) : Sweeps d ⟨as, d.name⟩ []
  | reported (h : r.OutOfReach d) (before after : List Attribute) (marker : Attribute)
    (attributes : d.attributes = before ++ marker :: after) (first : r.Unmarks before)
    (isMarker : r.isMarker marker = true) (as : List Attribute)
    (stripped : as.map Attribute.bare =
      (d.attributes.filter fun a => !r.isMarker a).map Attribute.bare) :
    Sweeps d ⟨as, d.name⟩ [.outOfReach d.name marker.span]

theorem bare_reached (d : Nested) : (r.reached d).attributes.map Attribute.bare =
    (d.attributes.filter (r.keeps d.attributes)).map Attribute.bare := by
  rw [reached, sweepAttributes_eq, map_map]
  exact map_congr_left fun a _ => r.bare_sweepAttribute a

theorem sweeps_reached {d : Nested} (h : d.Plain) :
    r.Sweeps d (r.reached d) (r.unreached? d).toList := by
  have hb := r.bare_reached d
  cases hd : derivesAccessors d.attributes
  case true =>
    rw [filter_keeps_of_derives hd] at hb
    rw [unreached?, outOfReach?_of_derives d.name hd]
    exact .spared (fun ho => ho.right ((derivesAccessors_iff h).mp hd)) _ hb
  case false =>
    rw [funext (keeps_of_not_derives hd)] at hb
    rw [unreached?, outOfReach?_of_not_derives d.name hd]
    cases hm : d.attributes.find? r.isMarker
    case none =>
      have hn : r.Unmarks d.attributes := fun a ha => by simpa using find?_eq_none.mp hm a ha
      have hs : (d.attributes.filter fun a => !r.isMarker a) = d.attributes :=
        r.strip_of_unmarks hn
      rw [hs] at hb
      refine .spared (fun ho => ?_) _ hb
      obtain ⟨a, ha, hm⟩ := ho.left
      rw [hn a ha] at hm
      contradiction
    case some marker =>
      obtain ⟨hi, before, after, ha, hb'⟩ := find?_eq_some_iff_append.mp hm
      have ho : r.OutOfReach d := by
        refine ⟨⟨marker, mem_of_find?_eq_some hm, hi⟩, fun h' => ?_⟩
        rw [(derivesAccessors_iff h).mpr h'] at hd
        contradiction
      exact .reported ho before after marker ha (fun a ha => by simpa using hb' a ha) hi _ hb

theorem met_sweep (c : Code) : r.met (r.sweep c).1 = (r.met c).map r.reached := by
  rw [met, (r.survey_sweep c).left, met]
  induction r.survey c
  case nil => rfl
  case cons x xs ih =>
    obtain ⟨d, _ | _⟩ := x <;> simpa [filterMap_cons, left?] using ih

theorem problems_sweep (c : Code) : (r.sweep c).2 = (r.met c).filterMap r.unreached? := by
  rw [(r.survey_sweep c).right, met]
  induction r.survey c
  case nil => rfl
  case cons x xs ih =>
    obtain ⟨d, _ | _⟩ := x <;> simp [filterMap_cons, told?, ih]

-- The sweep through an item says of each declaration that it meets what there is to be said of this
-- declaration, in the order in which they are met, and changes nothing else. It meets the
-- declarations that the item holds at any depth, and those inside of another one right behind it.
-- The exception are those in the value of a marker that is taken from a declaration.
theorem sweep_reports_exactly :
    (∀ ts, r.weaveItem fragments modules (.verbatim ts) = (.verbatim ts, [])) ∧
    (∀ name span, (Problem.outOfReach name span).span = span ∧
      (Problem.outOfReach name span).message =
        s!"member access markers on `{name.name}` are out of reach; only declarations directly " ++
          "inside the module tree are scanned, not ones inside function bodies or other items") ∧
    ∀ c : Code, (∀ d ∈ r.met c, d.Plain) → ∃ swept outcomes,
      r.weaveItem fragments modules (.code c) = (.code swept, outcomes.flatMap Prod.snd) ∧
      Code.bare swept = Code.bare c ∧
      r.met swept = outcomes.map Prod.fst ∧
      Forall₂ (fun d x => r.Sweeps d x.1 x.2) (r.met c) outcomes ∧
      (∀ d, d ∈ r.met c ↔
        ∃ head body, r.Holds c (.declaration d.attributes head d.name body)) ∧
      (r.met c = c.flatMap fun p => p.own ++ (r.inner p).flatMap r.met) ∧
      (r.met c = Code.nested c ↔ ∀ d ∈ Code.nested c, ∀ a ∈ d.attributes,
        r.keeps d.attributes a = false → a.nested = []) := by
  refine ⟨fun _ => rfl, fun _ _ => ⟨rfl, rfl⟩, fun c h => ?_⟩
  refine ⟨(r.sweep c).1, (r.met c).map fun d => (r.reached d, (r.unreached? d).toList),
    ?item, r.bare_sweep c, ?met, ?sweeps, fun d => mem_met_iff, ?order,
    met_eq_nested_iff⟩
  case item =>
    simp only [weaveItem, problems_sweep, filterMap_eq_flatMap_toList, flatMap_map]
  case met =>
    rw [met_sweep, map_map]
    rfl
  case sweeps =>
    rw [forall₂_map_right_iff, forall₂_same]
    exact fun d hd => r.sweeps_reached (h d hd)
  case order => simp only [← met_piece, ← met_eq]

end Registry

-- `#[derive(Clone, member_access::MemberAccess)]`
def deriveAttribute : Attribute :=
  ⟨false, .unlocated, .unlocated, .unlocated, ⟨false, [⟨"derive", false, .unlocated⟩]⟩,
    .list .paren .unlocated .unlocated
      [.word "Clone", .punct ',' .alone .unlocated, .word "member_access",
        .punct ':' .joint .unlocated, .punct ':' .alone .unlocated, .word "MemberAccess"]⟩

theorem deriveAttribute_derives : deriveAttribute.Derives
    [⟨false, [⟨"Clone", false, .unlocated⟩]⟩,
      ⟨false, [⟨"member_access", false, .unlocated⟩, ⟨"MemberAccess", false, .unlocated⟩]⟩] where
  path := ⟨_, rfl, rfl⟩
  arguments := by
    refine ⟨_, _, _, _, rfl, .inr <| .more _ _ [_] _ _ _ (.inScope _ _ _ .none) ?_⟩
    exact .last _ _ (.inScope _ _ _ (.more _ _ _ _ _ _ .none))

-- `#[by_index] struct name;`
def markedUnit (name : Ident) : Piece :=
  .declaration [indexMarker] [.word "struct"] name [.token (.punct ';' .alone .unlocated)]

-- `#[name = { declaration 3 }]`
def valueAttribute (name : String) (declaration : Piece) : Attribute :=
  ⟨false, .unlocated, .unlocated, .unlocated, ⟨false, [⟨name, false, .unlocated⟩]⟩,
    .value .unlocated [.group .brace .unlocated .unlocated [declaration, .token (.number 3)]]⟩

def noteAttribute : Attribute :=
  valueAttribute "note" (markedUnit ⟨"Noted", false, .unlocated⟩)

-- `fn area() { #[derive(…)] #[by_index] #[note = { … }] struct Outer([u8; { … 3 }]); }`
def outerCode : Code :=
  [areaFunction [
    .declaration [deriveAttribute, indexMarker, noteAttribute] [.word "struct"]
      ⟨"Outer", false, .unlocated⟩ [
        .constrained [.group .paren .unlocated .unlocated [.group .bracket .unlocated .unlocated [
          .token (.word "u8"), .token (.punct ';' .alone .unlocated),
          .group .brace .unlocated .unlocated [
            markedUnit ⟨"type", true, .unlocated⟩, .token (.number 3)]]]] [],
        .token (.punct ';' .alone .unlocated)]]]

set_option maxRecDepth 4000 in
-- The markers of `Outer` belong to the derive macro, but those inside of it do not.
theorem inner_markers_reported :
    Item.ofTokens? (Code.tokens outerCode) = some (.code outerCode) ∧
    (∀ d ∈ Registry.canonical.met outerCode, d.Plain) ∧ ∃ swept outcomes,
      Registry.canonical.weaveItem [] ["shapes"] (.code outerCode) =
        (.code swept, outcomes.flatMap Prod.snd) ∧
      Forall₂ (fun d x => Registry.canonical.Sweeps d x.1 x.2)
        (Registry.canonical.met outerCode) outcomes ∧
      outcomes.map (·.1.attributes.length) = [3, 0, 0] ∧
      outcomes.flatMap Prod.snd = [.outOfReach ⟨"Noted", false, .unlocated⟩ .unlocated,
        .outOfReach ⟨"type", true, .unlocated⟩ .unlocated] := by
  have hi : indexMarker.isDerive = true → ∃ paths, indexMarker.Derives paths :=
    fun h => absurd h (by decide)
  have hn : noteAttribute.isDerive = true → ∃ paths, noteAttribute.Derives paths :=
    fun h => absurd h (by decide)
  have hm (name : Ident) : Nested.Plain ⟨[indexMarker], name⟩ := forall_mem_singleton.mpr hi
  have ho (name : Ident) : Nested.Plain ⟨[deriveAttribute, indexMarker, noteAttribute], name⟩ :=
    forall_mem_cons.mpr ⟨fun _ => ⟨_, deriveAttribute_derives⟩,
      forall_mem_cons.mpr ⟨hi, forall_mem_singleton.mpr hn⟩⟩
  have hp : ∀ d ∈ Registry.canonical.met outerCode, d.Plain :=
    forall_mem_cons.mpr ⟨ho _, forall_mem_cons.mpr ⟨hm _, forall_mem_singleton.mpr (hm _)⟩⟩
  obtain ⟨swept, outcomes, hw, _, hs, hf, _⟩ :=
    (Registry.canonical.sweep_reports_exactly [] ["shapes"]).right.right outerCode hp
  refine ⟨rfl, hp, swept, outcomes, hw, hf, ?_, (congrArg Prod.snd hw).symm⟩
  have hl : outcomes.map (·.1.attributes.length) =
      (outcomes.map Prod.fst).map (·.attributes.length) := by rw [map_map]; rfl
  rw [hl, ← hs, ← Item.code.inj (congrArg Prod.fst hw)]
  rfl

-- `fn area() { #[by_index = { #[by_index] struct Inner; 3 }] struct Outer; }`
def consumedCode : Code :=
  [areaFunction [
    .declaration [valueAttribute "by_index" (markedUnit ⟨"Inner", false, .unlocated⟩)]
      [.word "struct"] ⟨"Outer", false, .unlocated⟩ [.token (.punct ';' .alone .unlocated)]]]

set_option maxRecDepth 4000 in
theorem consumed_request_unreported :
    Item.ofTokens? (Code.tokens consumedCode) = some (.code consumedCode) ∧
    (∃ d ∈ Code.nested consumedCode, d.name.name = "Inner" ∧ Registry.canonical.OutOfReach d) ∧
    (Registry.canonical.weaveItem [] ["shapes"] (.code consumedCode)).2 =
      [.outOfReach ⟨"Outer", false, .unlocated⟩ .unlocated] := by
  have hr : Registry.canonical.OutOfReach ⟨[indexMarker], ⟨"Inner", false, .unlocated⟩⟩ := by
    refine ⟨⟨indexMarker, .head _, by decide⟩, ?_⟩
    rintro ⟨a, ha, paths, hd, _⟩
    obtain rfl := mem_singleton.mp ha
    exact absurd hd.isDerive (by decide)
  exact ⟨rfl, ⟨_, .tail _ (.head _), rfl, hr⟩, rfl⟩

end Accessors
