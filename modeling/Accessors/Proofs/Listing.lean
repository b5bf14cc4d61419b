import Accessors.Proofs.Classification
import Accessors.Proofs.Recognition

namespace Accessors

open List

def Attribute.entries? (a : Attribute) : Option (List (List Token)) :=
  match a.arguments with
  | .list _ _ _ body => some (commaSeparated body)
  | _ => none

namespace Registry

variable {r : Registry} {a : Attribute} {i : Ident} {names : List Ident} {ts : List Token}
variable {s t : Capabilities} {c : Capability}

def Means (r : Registry) (entry : List Token) (c : Capability) : Prop :=
  ∃ name : Ident, entry = [.ident name] ∧ r.lookup name.text = some c

theorem means_name {name : Ident} : r.Means [.ident name] c ↔ r.lookup name.text = some c := by
  simp [Means]

theorem takes_visitMarker (r : Registry) (scope : Span) :
    Entries.Takes scope (r.visitMarker scope) fun name ts => ts = [.ident name] := by
  intro ts path mid s t rest hp hv
  rw [visitMarker] at hv
  cases hn : path.name?
  case none =>
    rw [hn] at hv
    contradiction
  case some name =>
    rw [hn, Option.bind_some] at hv
    cases hl : r.lookup name.text
    case none =>
      rw [hl] at hv
      contradiction
    case some c =>
      rw [hl] at hv
      cases hv
      exact ⟨name, [.ident name], Entries.eq_of_readPath hp hn, rfl⟩

theorem apart_name : Entries.Apart fun (name : Ident) ts => ts = [.ident name] := by
  rintro name _ rfl
  exact ⟨cons_ne_nil _ _, by simp [Token.isComma]⟩

theorem foldlM_gather_eq_ok_iff : names.foldlM r.gather s = .ok t ↔
    (∀ n ∈ names, ∃ c, r.lookup n.text = some c) ∧
      ∀ c, t.contains c = true ↔ s.contains c = true ∨ ∃ n ∈ names, r.lookup n.text = some c := by
  induction names generalizing s
  case nil =>
    rw [foldlM_nil]
    constructor
    case mp =>
      rintro ⟨⟩
      simp
    case mpr =>
      rintro ⟨_, h⟩
      exact congrArg Except.ok (Capabilities.eq_of_contains_iff fun c => by simp [h c])
  case cons name names ih =>
    rw [foldlM_cons, gather]
    cases hl : r.lookup name.text
    case none =>
      constructor
      case mp => rintro ⟨⟩
      case mpr =>
        rintro ⟨h, _⟩
        simp [hl] at h
    case some c =>
      refine ih.trans ?_
      simp only [Capabilities.contains_insert, Bool.or_eq_true, decide_eq_true_eq, forall_mem_cons,
        exists_mem_cons_iff, hl, Option.some.injEq, exists_eq', true_and, or_assoc, or_left_comm]

theorem exists_gather_iff :
    (∃ names, Entries.WrittenAny (fun (name : Ident) ts => ts = [.ident name]) names ts ∧
      names.foldlM r.gather .empty = .ok s) ↔
    (∀ e ∈ commaSeparated ts, ∃ c, r.Means e c) ∧
      ∀ c, s.contains c = true ↔ ∃ e ∈ commaSeparated ts, r.Means e c := by
  have entries {names : List Ident}
      (h : Entries.WrittenAny (fun (name : Ident) ts => ts = [.ident name]) names ts) :
      names.map (fun n => [.ident n]) = commaSeparated ts := by
    rw [← forall₂_eq_eq_eq, forall₂_map_left_iff]
    exact ((Entries.writtenAny_iff_forall₂ apart_name).mp h).imp fun _ _ => Eq.symm
  constructor
  case mp =>
    rintro ⟨names, hl, hs⟩
    rw [foldlM_gather_eq_ok_iff] at hs
    simpa [← entries hl, means_name, Capabilities.contains_empty] using hs
  case mpr =>
    intro h
    obtain ⟨names, hl⟩ := (Entries.exists_writtenAny_iff apart_name).mpr fun e he =>
      have ⟨_, name, hn, _⟩ := h.left e he
      ⟨name, hn⟩
    refine ⟨names, hl, ?_⟩
    rw [foldlM_gather_eq_ok_iff]
    simpa [← entries hl, means_name, Capabilities.contains_empty] using h

theorem resolve_list_eq_ok_iff (h : isListMarker a.path = true) : r.resolve a = .ok s ↔
    ∃ entries, a.entries? = some entries ∧ (∀ e ∈ entries, ∃ c, r.Means e c) ∧
      ∀ c, s.contains c = true ↔ ∃ e ∈ entries, r.Means e c := by
  rw [resolve, if_pos h, Entries.visitArguments, Attribute.entries?]
  cases a.arguments
  case absent => simp [Entries.result]
  case value => simp [Entries.result]
  case list delimiter opened closed body =>
    simp only [Option.some.injEq, exists_eq_left', ← exists_gather_iff]
    exact Entries.result_visitAny_eq_ok_iff (r.follows_visitMarker closed)
      (r.takes_visitMarker closed)

theorem exists_resolve_list_iff (h : isListMarker a.path = true) : (∃ s, r.resolve a = .ok s) ↔
    ∃ entries, a.entries? = some entries ∧ ∀ e ∈ entries, ∃ c, r.Means e c := by
  simp only [resolve_list_eq_ok_iff h]
  constructor
  case mp =>
    rintro ⟨s, entries, he, hm, _⟩
    exact ⟨entries, he, hm⟩
  case mpr =>
    rintro ⟨entries, he, hm⟩
    have ⟨s, hs⟩ := Capabilities.exists_contains_iff fun c => ∃ e ∈ entries, r.Means e c
    exact ⟨s, entries, he, hm, hs⟩

theorem exists_resolve_list_error_iff (h : isListMarker a.path = true) :
    (∃ fault, r.resolve a = .error fault) ↔ a.entries? = none ∨
      ∃ entries, a.entries? = some entries ∧ ∃ e ∈ entries, ∀ c, ¬r.Means e c := by
  have hn : (∃ fault, r.resolve a = .error fault) ↔ ¬∃ s, r.resolve a = .ok s := by
    cases r.resolve a <;> simp
  rw [hn, exists_resolve_list_iff h]
  cases a.entries? <;> simp

theorem process_of_resolve_error {fault : Fault} {d : Candidate} (h : r.resolve a = .error fault)
    (ha : a ∈ d.declaration.attributes) : ∃ other, r.process d = .failed (.misread other) := by
  rw [process]
  cases hc : r.classify d.declaration.attributes
  case error other => exact ⟨other, rfl⟩
  case ok s => exact absurd (exists_classify_iff.mp ⟨s, hc⟩ a ha) (not_isRead h)

-- The library's own marker means the set of what its entries stand for, each of which is a single
-- name that is known. If there is no list, or if one of its entries is anything else, the marker is
-- malformed, and the declaration asks for nothing at all.
theorem list_means_its_entries (r : Registry) {a : Attribute} {i : Ident}
    (hp : a.path = ⟨false, [i]⟩) (hi : i.text = libraryName) :
    (∀ s, r.resolve a = .ok s ↔
      ∃ entries, a.entries? = some entries ∧ (∀ e ∈ entries, ∃ c, r.Means e c) ∧
        ∀ c, s.contains c = true ↔ ∃ e ∈ entries, r.Means e c) ∧
    ((∃ fault, r.resolve a = .error fault) ↔ a.entries? = none ∨
      ∃ entries, a.entries? = some entries ∧ ∃ e ∈ entries, ∀ c, ¬r.Means e c) ∧
    ∀ fault (d : Candidate), r.resolve a = .error fault → a ∈ d.declaration.attributes →
      ∃ other, r.process d = .failed (.misread other) := by
  have hl : isListMarker a.path = true := by rw [hp, isListMarker_iff, hi]
  exact ⟨fun s => resolve_list_eq_ok_iff hl, exists_resolve_list_error_iff hl,
    fun fault d => process_of_resolve_error⟩

end Registry

-- `#[member_access(by_name, by_index, by_name,)]`
def repeatingList : Attribute :=
  { listedMarker libraryName with
    arguments := .list .paren .unlocated .unlocated
      (["by_name", "by_index", "by_name"].flatMap fun n => .word n :: Token.operator ",") }

-- `by_index = by_name`
def valuedEntry : List Token :=
  [.word "by_index", .punct '=' .alone .unlocated, .word "by_name"]

-- `#[by_index] #[member_access(by_name, by_index = by_name)] struct Point;`
def valuedCandidate : Candidate where
  modules := ["shapes"]
  declaration := {
    attributes := [indexMarker, { listedMarker libraryName with
      arguments := .list .paren .unlocated .unlocated
        (.word "by_name" :: Token.operator "," ++ valuedEntry) }]
    visibility := []
    name := plainIdent "Point"
    generics := .none
    clause := []
    shape := .struct .unit }

theorem valued_entry_spoils_list :
    (∃ entries, repeatingList.entries? = some entries ∧ entries.length = 3 ∧
      ∀ c, (Capabilities.ofList [.byIndex, .byName]).contains c = true ↔
        ∃ e ∈ entries, Registry.canonical.Means e c) ∧
    (∃ entries, valuedCandidate.declaration.attributes[1].entries? = some entries ∧
      valuedEntry ∈ entries ∧ ∀ c, ¬Registry.canonical.Means valuedEntry c) ∧
    ∃ fault, Registry.canonical.process valuedCandidate = .failed (.misread fault) := by
  have ⟨hs, _, _⟩ := Registry.canonical.list_means_its_entries (a := repeatingList) rfl rfl
  have ⟨_, hf, hd⟩ := Registry.canonical.list_means_its_entries
    (a := valuedCandidate.declaration.attributes[1]) rfl rfl
  obtain ⟨entries, he, _, hm⟩ := (hs (.ofList [.byIndex, .byName])).mp rfl
  have hn (c : Capability) : ¬Registry.canonical.Means valuedEntry c := by
    simp [Registry.Means, valuedEntry]
  have hv : valuedEntry ∈ [[.word "by_name"], valuedEntry] := .tail _ (.head _)
  obtain ⟨fault, h⟩ := hf.mpr (.inr ⟨_, rfl, _, hv, hn⟩)
  refine ⟨⟨entries, he, ?_, hm⟩, ⟨_, rfl, hv, hn⟩, hd fault _ h (getElem_mem _)⟩
  cases he
  rfl

end Accessors
