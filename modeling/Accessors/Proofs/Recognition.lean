import Mathlib.Data.List.Forall2
import Accessors.Proofs.Arms
import Accessors.Proofs.Entries

namespace Accessors.Entries

open List

variable {α σ : Type} {entry : α → List Token → Prop} {scope : Span} {visitor : Visitor σ}
variable {as : List α} {ts us rest : List Token} {s t : σ}

theorem exists_of_bind_eq_ok {β ε : Type} {x : Except ε α} {f : α → Except ε β} {b : β}
    (h : x >>= f = .ok b) : ∃ a, x = .ok a ∧ f a = .ok b := by
  cases x
  case error => contradiction
  case ok a => exact ⟨a, rfl, h⟩

theorem faultAt_ne_ok {cause : Bool → Misreading} {a : α} :
    faultAt scope ts cause ≠ .ok a := by
  cases ts <;> nofun

theorem eq_of_readPunct {c : Char} (h : readPunct scope c ts = .ok rest) :
    ∃ spacing span, ts = .punct c spacing span :: rest := by
  rw [readPunct.eq_def] at h
  split at h
  case h_1 d spacing span us =>
    split at h
    case isTrue hc =>
      cases h
      exact ⟨spacing, span, by rw [hc]⟩
    case isFalse => contradiction
  case h_2 => exact absurd h faultAt_ne_ok

theorem eq_of_readName {target : Ident} (h : readName scope ts = .ok (target, rest)) :
    ts = .ident target :: rest := by
  rw [readName.eq_def] at h
  split at h
  case h_1 =>
    split at h
    case isTrue => contradiction
    case isFalse =>
      cases h
      rfl
  case h_2 => exact absurd h faultAt_ne_ok

theorem eq_of_readString {value : String} (h : readString scope ts = .ok (value, rest)) :
    ∃ text span, ts = .literal text span :: rest ∧ Text.unquote? text = some value := by
  rw [readString.eq_def] at h
  split at h
  case h_1 text span _ =>
    split at h
    case h_1 v hv =>
      cases h
      exact ⟨text, span, rfl, hv⟩
    case h_2 => contradiction
  case h_2 => exact absurd h faultAt_ne_ok

theorem eq_of_readSegments (h : readSegments scope ts = .ok ([], rest)) : ts = rest := by
  rw [readSegments.eq_def] at h
  split at h
  case h_1 us =>
    cases hs : readSegments scope us
    all_goals
      rw [hs] at h
      cases h
  case h_2 => exact absurd h faultAt_ne_ok
  case h_3 =>
    cases h
    rfl

theorem eq_of_readPath {path : Path} {name : Ident} (h : readPath scope ts = .ok (path, rest))
    (hn : path.name? = some name) : ts = .ident name :: rest := by
  have ⟨hg, hs⟩ : path.global = false ∧ path.segments = [name] := by
    rw [Path.name?] at hn
    split at hn
    case h_1 hg hs => exact ⟨hg, Option.some.inj hn ▸ hs⟩
    case h_2 => contradiction
  rw [readPath] at h
  split at h
  case h_1 i us hi =>
    cases hr : readSegments scope us
    case error =>
      rw [hr] at h
      cases h
    case ok x =>
      obtain ⟨more, mid⟩ := x
      rw [hr] at h
      cases h
      obtain ⟨rfl, rfl⟩ := List.cons.inj hs
      have hg : Ahead.punct "::" ts = false := hg
      rw [hg, eq_of_readSegments hr] at hi
      exact hi
  case h_2 => contradiction
  case h_3 => contradiction

-- A visitor that takes an entry, and nothing that is not one.
def Takes (scope : Span) (visitor : Visitor σ) (entry : α → List Token → Prop) : Prop :=
  ∀ ts path mid s t rest, readPath scope ts = .ok (path, mid) → visitor path mid s = .ok (t, rest) →
    ∃ a us, ts = us ++ rest ∧ entry a us

theorem exists_written_of_visit (ht : Takes scope visitor entry) {n : Nat} (hn : ts.length < n)
    (h : result (visit scope visitor n ts s) = .ok t) : ∃ as, Written entry as ts := by
  induction n generalizing ts s
  case zero => contradiction
  case succ n ih =>
    rw [visit] at h
    split at h
    case h_1 => contradiction
    case h_2 path mid hp =>
      split at h
      case h_1 => contradiction
      case h_2 u hv =>
        obtain ⟨a, us, rfl, ha⟩ := ht _ _ _ _ _ _ hp hv
        exact ⟨[a], (append_nil us).symm ▸ .last a us ha⟩
      case h_3 u c more hv =>
        obtain ⟨a, us, rfl, ha⟩ := ht _ _ _ _ _ _ hp hv
        split at h
        case h_1 => contradiction
        case h_2 hc =>
          obtain ⟨spacing, comma, hc⟩ := eq_of_readPunct hc
          exact ⟨[a], hc ▸ .closed a us spacing comma ha⟩
        case h_3 rest _ hc =>
          obtain ⟨spacing, comma, hc⟩ := eq_of_readPunct hc
          rw [hc] at hn ⊢
          have hl : rest.length < n := by
            rw [length_append, length_cons] at hn
            omega
          obtain ⟨as, hw⟩ := ih hl h
          exact ⟨a :: as, .more a as us rest spacing comma ha hw⟩

def WrittenAny (entry : α → List Token → Prop) (as : List α) (ts : List Token) : Prop :=
  as = [] ∧ ts = [] ∨ Written entry as ts

theorem exists_writtenAny_of_visitAny (ht : Takes scope visitor entry)
    (h : result (visitAny scope visitor ts s) = .ok t) : ∃ as, WrittenAny entry as ts := by
  rw [visitAny] at h
  split at h
  case isTrue hn => exact ⟨[], .inl ⟨rfl, isEmpty_iff.mp hn⟩⟩
  case isFalse =>
    obtain ⟨as, hw⟩ := exists_written_of_visit ht (Nat.lt_succ_self _) h
    exact ⟨as, .inr hw⟩

theorem result_visitAny_writtenAny {step : σ → α → Except Fault σ}
    (hf : Follows scope visitor entry step) (h : WrittenAny entry as ts) (s : σ) :
    result (visitAny scope visitor ts s) = as.foldlM step s := by
  rcases h with ⟨rfl, rfl⟩ | h
  · rfl
  · exact result_visitAny hf h s

theorem result_visitAny_eq_ok_iff {step : σ → α → Except Fault σ}
    (hf : Follows scope visitor entry step) (ht : Takes scope visitor entry) :
    result (visitAny scope visitor ts s) = .ok t ↔
      ∃ as, WrittenAny entry as ts ∧ as.foldlM step s = .ok t := by
  constructor
  case mp =>
    intro h
    obtain ⟨as, hl⟩ := exists_writtenAny_of_visitAny ht h
    exact ⟨as, hl, (result_visitAny_writtenAny hf hl s).symm.trans h⟩
  case mpr =>
    rintro ⟨as, hl, h⟩
    exact (result_visitAny_writtenAny hf hl s).trans h

theorem commaSeparated_eq_nil (h : commaSeparated ts = []) : ts = [] := by
  rw [commaSeparated.eq_def] at h
  split at h
  case h_1 => rfl
  case h_2 => contradiction
  case h_3 => split at h <;> contradiction

theorem of_commaSeparated_cons {part : List Token} {parts : List (List Token)}
    (h : commaSeparated ts = part :: parts) :
    ts = part ∧ parts = [] ∨ ∃ spacing comma rest,
      ts = part ++ .punct ',' spacing comma :: rest ∧ commaSeparated rest = parts := by
  induction ts generalizing part
  case nil => contradiction
  case cons t ts ih =>
    cases ht : t.isComma
    case true =>
      obtain ⟨spacing, comma, rfl⟩ := Token.eq_of_isComma ht
      obtain ⟨rfl, rfl⟩ := List.cons.inj h
      exact .inr ⟨spacing, comma, ts, rfl, rfl⟩
    case false =>
      rw [commaSeparated_cons ts ht] at h
      split at h
      case h_1 hn =>
        obtain ⟨rfl, rfl⟩ := List.cons.inj h
        exact .inl ⟨by rw [commaSeparated_eq_nil hn], rfl⟩
      case h_2 hp =>
        obtain ⟨rfl, rfl⟩ := List.cons.inj h
        rcases ih hp with ⟨rfl, rfl⟩ | ⟨spacing, comma, rest, rfl, rfl⟩
        · exact .inl ⟨rfl, rfl⟩
        · exact .inr ⟨spacing, comma, rest, rfl, rfl⟩

def Apart (entry : α → List Token → Prop) : Prop :=
  ∀ a us, entry a us → us ≠ [] ∧ ∀ t ∈ us, t.isComma = false

theorem forall₂_of_written (he : Apart entry) (h : Written entry as ts) :
    Forall₂ entry as (commaSeparated ts) := by
  induction h
  case last a us ha =>
    have ⟨hn, hc⟩ := he a us ha
    obtain ⟨u, us, rfl⟩ := exists_cons_of_ne_nil hn
    rw [commaSeparated_part hc]
    exact .cons ha .nil
  case closed a us spacing comma ha =>
    rw [commaSeparated_append_comma (he a us ha).right]
    exact .cons ha .nil
  case more a as us _ spacing comma ha _ ih =>
    rw [commaSeparated_append_comma (he a us ha).right]
    exact .cons ha ih

theorem writtenAny_of_forall₂ (h : Forall₂ entry as (commaSeparated ts)) : WrittenAny entry as ts := by
  induction as generalizing ts
  case nil => exact .inl ⟨rfl, commaSeparated_eq_nil (forall₂_nil_left_iff.mp h)⟩
  case cons a as ih =>
    obtain ⟨part, parts, ha, hs, hp⟩ := forall₂_cons_left_iff.mp h
    rcases of_commaSeparated_cons hp with ⟨rfl, rfl⟩ | ⟨spacing, comma, rest, rfl, rfl⟩
    · rw [forall₂_nil_right_iff.mp hs]
      exact .inr (.last a ts ha)
    · rcases ih hs with ⟨rfl, rfl⟩ | hw
      · exact .inr (.closed a part spacing comma ha)
      · exact .inr (.more a as part rest spacing comma ha hw)

theorem writtenAny_iff_forall₂ (he : Apart entry) :
    WrittenAny entry as ts ↔ Forall₂ entry as (commaSeparated ts) := by
  constructor
  case mp =>
    rintro (⟨rfl, rfl⟩ | h)
    · exact .nil
    · exact forall₂_of_written he h
  case mpr => exact writtenAny_of_forall₂

theorem exists_writtenAny_iff (he : Apart entry) :
    (∃ as, WrittenAny entry as ts) ↔ ∀ part ∈ commaSeparated ts, ∃ a, entry a part := by
  simp only [writtenAny_iff_forall₂ he]
  generalize commaSeparated ts = parts
  induction parts
  case nil => simp
  case cons part parts ih => simp [forall₂_cons_right_iff, ← ih]

end Accessors.Entries
