import Accessors.Proofs.Derivation
import Accessors.Proofs.Entries

namespace Accessors

-- `#[name]`
structure Attribute.Names (a : Attribute) (name : Ident) : Prop where
  path : a.path = ⟨false, [name]⟩
  arguments : a.arguments = .absent

-- `#[member_access(…)]`, with any delimiter around the names.
structure Attribute.Lists (a : Attribute) (names : List Ident) : Prop where
  path : ∃ i : Ident, i.text = libraryName ∧ a.path = ⟨false, [i]⟩
  arguments : ∃ delimiter opened closed body, a.arguments = .list delimiter opened closed body ∧
    Entries.Written (fun name ts => ts = [.ident name]) names body

namespace Registry

variable {r : Registry}

def gather (r : Registry) (s : Capabilities) (name : Ident) : Except Fault Capabilities :=
  match r.lookup name.text with
  | some c => .ok (s.insert c)
  | none => Entries.fault .unknownMarker name.span

theorem follows_visitMarker (r : Registry) (scope : Span) :
    Entries.Follows scope (r.visitMarker scope) (fun name ts => ts = [.ident name]) r.gather := by
  rintro name _ rest s rfl hr
  refine ⟨⟨false, [name]⟩, rest, Entries.readPath_name hr, ?_⟩
  have hn : Path.name? ⟨false, [name]⟩ = some name := rfl
  rw [visitMarker, gather, hn, Option.bind_some]
  cases r.lookup name.text <;> rfl

theorem isListMarker_iff {name : Ident} :
    isListMarker ⟨false, [name]⟩ = true ↔ name.text = libraryName := by
  rw [isListMarker, Path.name?, Option.any_some, beq_iff_eq]

theorem isMarker_of_lists {a : Attribute} {names : List Ident} (h : a.Lists names) :
    r.isMarker a := by
  obtain ⟨i, hi, hp⟩ := h.path
  rw [isMarker, hp, isListMarker_iff.mpr hi, Bool.true_or]

theorem resolve_of_lists {a : Attribute} {names : List Ident} (h : a.Lists names) :
    r.resolve a = names.foldlM r.gather .empty := by
  obtain ⟨i, hi, hp⟩ := h.path
  obtain ⟨delimiter, opened, closed, body, ha, hw⟩ := h.arguments
  rw [resolve, hp, isListMarker_iff.mpr hi, if_pos rfl, Entries.visitArguments, ha]
  exact Entries.result_visitAny (r.follows_visitMarker closed) hw .empty

theorem capabilityOf_of_names {a : Attribute} {name : Ident} (h : a.Names name) :
    r.capabilityOf a.path = r.lookup name.text := by
  rw [h.path, capabilityOf]
  rfl

section Known

variable {name : Ident} {c : Capability} (hc : r.lookup name.text = some c)

include hc

theorem isMarker_of_names {a : Attribute} (h : a.Names name) : r.isMarker a := by
  rw [isMarker, capabilityOf_of_names h, hc, Option.isSome_some, Bool.or_true]

theorem resolve_of_names {a : Attribute} (h : a.Names name) (hn : name.text ≠ libraryName) :
    r.resolve a = .ok (.ofList [c]) := by
  have hl : isListMarker a.path = false := by
    rw [h.path, Bool.eq_false_iff, ne_eq, isListMarker_iff]
    exact hn
  rw [resolve, hl, if_neg Bool.false_ne_true, capabilityOf_of_names h, hc]
  rfl

theorem resolve_of_lists_single {a : Attribute} (h : a.Lists [name]) :
    r.resolve a = .ok (.ofList [c]) := by
  rw [resolve_of_lists h, List.foldlM_cons, gather, hc]
  rfl

end Known

-- By itself, the library's own name is a list without arguments.
theorem resolve_of_names_reserved {a : Attribute} {name : Ident} (h : a.Names name)
    (hn : name.text = libraryName) :
    r.resolve a = .error ⟨.noArguments (renderTokens a.path.tokens), a.path.span⟩ := by
  have hl : isListMarker a.path = true := by rwa [h.path, isListMarker_iff]
  rw [resolve, hl, if_pos rfl, Entries.visitArguments, h.arguments]
  rfl

theorem classify_congr {a b : Attribute} (h : r.resolve a = r.resolve b)
    (before after : List Attribute) :
    r.classify (before ++ a :: after) = r.classify (before ++ b :: after) := by
  induction before
  case nil => rw [List.nil_append, List.nil_append, classify, classify, h]
  case cons d before ih => rw [List.cons_append, List.cons_append, classify, classify, ih]

theorem known_name_marks_unless_reserved (hr : r.Reachable) {name : Ident} {c : Capability}
    (hc : r.lookup name.text = some c) :
    (∀ a : Attribute, a.Names name →
      r.isMarker a ∧ (r.resolve a = .ok (.ofList [c]) ↔ name.text ≠ libraryName)) ∧
    (∀ a : Attribute, a.Lists [name] → r.isMarker a ∧ r.resolve a = .ok (.ofList [c])) ∧
    ∀ (canonical : Ident) (a b : Attribute), canonical.text = c.marker → b.Names canonical →
      a.Lists [name] ∨ a.Names name ∧ name.text ≠ libraryName →
        ∀ before after : List Attribute,
          r.classify (before ++ a :: after) = r.classify (before ++ b :: after) := by
  refine ⟨fun a h => ⟨isMarker_of_names hc h, fun ho hn => ?_, resolve_of_names hc h⟩,
    fun a h => ⟨isMarker_of_lists h, resolve_of_lists_single hc h⟩, ?_⟩
  · rw [resolve_of_names_reserved h hn] at ho
    contradiction
  · intro canonical a b hm hb ha
    have hcm : r.lookup canonical.text = some c := by
      rw [hm]
      exact hr.extends_canonical _ _ (by cases c <;> rfl)
    have hcn : canonical.text ≠ libraryName := by
      rw [hm]
      cases c <;> decide
    refine classify_congr ?_
    rw [resolve_of_names hcm hb hcn]
    cases ha
    case inl h => exact resolve_of_lists_single hc h
    case inr h => exact resolve_of_names hc h.left h.right

end Registry

-- `#[name]`
def plainMarker (name : String) : Attribute :=
  ⟨false, .unlocated, .unlocated, .unlocated, ⟨false, [plainIdent name]⟩, .absent⟩

-- `#[member_access(name)]`
def listedMarker (name : String) : Attribute :=
  ⟨false, .unlocated, .unlocated, .unlocated, ⟨false, [plainIdent libraryName]⟩,
    .list .paren .unlocated .unlocated [.ident (plainIdent name)]⟩

theorem names_plainMarker (name : String) : (plainMarker name).Names (plainIdent name) :=
  ⟨rfl, rfl⟩

theorem lists_listedMarker (name : String) : (listedMarker name).Lists [plainIdent name] :=
  ⟨⟨plainIdent libraryName, rfl, rfl⟩, _, _, _, _, rfl, .last _ _ rfl⟩

theorem index_alias_marks :
    indexAlias.Reachable ∧ indexAlias.lookup (plainIdent "idx").text = some .byIndex ∧
    (indexAlias.isMarker (plainMarker "idx") ∧
      indexAlias.resolve (plainMarker "idx") = .ok (.ofList [.byIndex])) ∧
    (indexAlias.isMarker (listedMarker "idx") ∧
      indexAlias.resolve (listedMarker "idx") = .ok (.ofList [.byIndex])) ∧
    indexAlias.classify [plainMarker "doc", listedMarker "idx", plainMarker "by_name"] =
      indexAlias.classify [plainMarker "doc", plainMarker "by_index", plainMarker "by_name"] := by
  have hl : indexAlias.lookup (plainIdent "idx").text = some .byIndex := rfl
  obtain ⟨hp, hm, hc⟩ := Registry.known_name_marks_unless_reserved indexAlias_reachable hl
  obtain ⟨hi, hr⟩ := hp (plainMarker "idx") (names_plainMarker "idx")
  have hlists := lists_listedMarker "idx"
  exact ⟨indexAlias_reachable, hl, ⟨hi, hr.mpr (by decide)⟩, hm _ hlists,
    hc (plainIdent "by_index") _ _ rfl (names_plainMarker "by_index") (.inl hlists)
      [plainMarker "doc"] [plainMarker "by_name"]⟩

-- The library's own name can be made to stand for a capability. By itself, it is read as a list all
-- the same, and there are no arguments.
def reservedAlias : Registry :=
  Registry.canonical.bind libraryName .byIndex

theorem reserved_alias_misread :
    reservedAlias.Reachable ∧ reservedAlias.lookup libraryName = some .byIndex ∧
    reservedAlias.resolve (listedMarker libraryName) = .ok (.ofList [.byIndex]) ∧
    reservedAlias.isMarker (plainMarker libraryName) ∧
    reservedAlias.resolve (plainMarker libraryName) ≠ .ok (.ofList [.byIndex]) ∧
    reservedAlias.classify [plainMarker libraryName] ≠
      reservedAlias.classify [plainMarker "by_index"] := by
  refine ⟨.aliased (plainIdent libraryName) (plainIdent "by_index") .initial rfl, rfl, rfl, rfl,
    ?_, ?_⟩
  all_goals rintro ⟨⟩

end Accessors
