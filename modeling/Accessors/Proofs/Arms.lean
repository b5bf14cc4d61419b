import Accessors.Fragment.Method
import Accessors.Proofs.Quoting

namespace Accessors

-- The parts of a list between its commas. A comma behind the last part adds no part.
def commaSeparated : List Token → List (List Token)
  | [] => []
  | .punct ',' _ _ :: rest => [] :: commaSeparated rest
  | t :: rest =>
    match commaSeparated rest with
    | [] => [[t]]
    | part :: parts => (t :: part) :: parts

def Token.isComma : Token → Bool
  | .punct c _ _ => c == ','
  | _ => false

theorem Token.eq_of_isComma {t : Token} (h : t.isComma = true) :
    ∃ spacing span, t = .punct ',' spacing span := by
  rw [isComma.eq_def] at h
  split at h
  case h_1 spacing span => exact ⟨spacing, span, by rw [beq_iff_eq.mp h]⟩
  case h_2 => contradiction

theorem commaSeparated_cons {t : Token} (rest : List Token) (h : t.isComma = false) :
    commaSeparated (t :: rest) =
      match commaSeparated rest with
      | [] => [[t]]
      | part :: parts => (t :: part) :: parts := by
  rw [commaSeparated]
  rintro s sp rfl
  exact absurd h (by simp [Token.isComma])

theorem commaSeparated_append_comma {part : List Token} {spacing : Spacing} {comma : Span}
    {rest : List Token} (h : ∀ t ∈ part, t.isComma = false) :
    commaSeparated (part ++ .punct ',' spacing comma :: rest) = part :: commaSeparated rest := by
  induction part
  case nil => rfl
  case cons t part ih =>
    have ⟨ht, hp⟩ := List.forall_mem_cons.mp h
    rw [List.cons_append, commaSeparated_cons _ ht, ih hp]

theorem commaSeparated_cons_part {part : List Token} (rest : List Token)
    (h : ∀ t ∈ part, t.isComma = false) :
    commaSeparated (part ++ (Token.operator "," ++ rest)) = part :: commaSeparated rest :=
  commaSeparated_append_comma h

theorem commaSeparated_part {t : Token} {part : List Token}
    (h : ∀ u ∈ t :: part, u.isComma = false) : commaSeparated (t :: part) = [t :: part] := by
  induction part generalizing t
  case nil =>
    have ⟨ht, _⟩ := List.forall_mem_cons.mp h
    rw [commaSeparated_cons _ ht, commaSeparated]
  case cons u part ih =>
    have ⟨ht, hp⟩ := List.forall_mem_cons.mp h
    rw [commaSeparated_cons _ ht, ih hp]

theorem commaSeparated_terminated {parts : List (List Token)}
    (h : ∀ part ∈ parts, ∀ t ∈ part, t.isComma = false) (rest : List Token) :
    commaSeparated (parts.flatMap (· ++ Token.operator ",") ++ rest) =
      parts ++ commaSeparated rest := by
  induction parts
  case nil => rfl
  case cons part parts ih =>
    have ⟨hp, hr⟩ := List.forall_mem_cons.mp h
    rw [List.flatMap_cons, List.append_assoc, List.append_assoc, commaSeparated_cons_part _ hp,
      ih hr, List.cons_append]

theorem commaSeparated_separate {parts : List (List Token)}
    (h : ∀ part ∈ parts, part ≠ [] ∧ ∀ t ∈ part, t.isComma = false) :
    commaSeparated (separate (Token.operator ",") parts) = parts := by
  induction parts
  case nil => rfl
  case cons part parts ih =>
    have ⟨⟨hn, hp⟩, hr⟩ := List.forall_mem_cons.mp h
    have ih := ih hr
    cases parts
    case nil =>
      cases part
      case nil => contradiction
      case cons => exact commaSeparated_part hp
    case cons =>
      rw [separate, List.append_assoc, commaSeparated_cons_part _ hp, ih]
      exact List.cons_ne_nil _ _

inductive Key
  | index (n : Nat)
  | name (s : String)
deriving DecidableEq

-- The number that a literal without a suffix stands for.
def readNumber? (literal : String) : Option Nat :=
  if literal.toList.all Char.isDigit then some (Nat.ofDigitChars 10 literal.toList 0) else none

theorem readNumber?_toString (n : Nat) : readNumber? (toString n) = some n := by
  have h : (Nat.toDigits 10 n).all Char.isDigit = true := by
    rw [List.all_eq_true]
    intro c hc
    exact Nat.isDigit_of_mem_toDigits (by decide) (by decide) hc
  rw [readNumber?, Nat.toString_eq_ofList_toDigits, String.toList_ofList, if_pos h,
    Nat.ofDigitChars_ten_toDigits]

theorem readNumber?_quote (s : String) : readNumber? (Text.quote s) = none := by
  simp [readNumber?, Text.quote]

def Key.read? (literal : String) : Option Key :=
  match readNumber? literal with
  | some n => some (index n)
  | none => name <$> Text.unquote? literal

theorem Key.read?_toString (n : Nat) : read? (toString n) = some (index n) := by
  rw [read?, readNumber?_toString]

theorem Key.read?_quote (s : String) : read? (Text.quote s) = some (name s) := by
  rw [read?, readNumber?_quote, Text.unquote?_quote]
  rfl

-- An arm of a match: `pattern => result`.
structure Arm where
  pattern : Token
  result : List Token

namespace Arm

def ofTokens? : List Token → Option Arm
  | pattern :: .punct '=' .joint _ :: .punct '>' _ _ :: result => some ⟨pattern, result⟩
  | _ => none

-- A literal fits what it stands for, and the wildcard fits everything.
def fits (arm : Arm) (key : Key) : Bool :=
  match arm.pattern with
  | .literal text _ => Key.read? text == some key
  | .ident i => i.text == "_"
  | _ => false

end Arm

structure Match where
  key : String
  arms : List Arm

namespace Match

-- `match key { arms }`
def ofTokens? : List Token → Option Match
  | [.ident keyword, .ident key, .group .brace _ _ body] =>
    if keyword.text = "match" then (⟨key.text, ·⟩) <$> (commaSeparated body).mapM Arm.ofTokens?
    else none
  | _ => none

def position? (m : Match) (key : Key) : Option Nat :=
  m.arms.findIdx? (·.fits key)

def value? (m : Match) (key : Key) : Option (List Token) := do
  let i ← m.position? key
  let arm ← m.arms[i]?
  pure arm.result

theorem fits_wildcard (result : List Token) (key : Key) :
    Arm.fits ⟨.word "_", result⟩ key = true :=
  rfl

section

variable {α : Type} {literal : α → Token} {key : α → Key} (scrutinee : String)
variable (entries : List (α × List Token)) (fallback : List Token)

-- A match with an arm for the literal of each entry, and a last arm for everything else.
def ofKeys (literal : α → Token) : Match where
  key := scrutinee
  arms := entries.map (fun (x, result) => ⟨literal x, result⟩) ++ [⟨.word "_", fallback⟩]

theorem length_arms_ofKeys :
    (ofKeys scrutinee entries fallback literal).arms.length = entries.length + 1 := by
  simp [ofKeys]

variable {scrutinee entries fallback}

variable (hk : ∀ x y result, Arm.fits ⟨literal y, result⟩ (key x) = true ↔ x = y)
include hk

theorem position?_entry (hd : (entries.map Prod.fst).Nodup) {i : Nat} {x : α}
    {result : List Token} (hi : entries[i]? = some (x, result)) :
    (ofKeys scrutinee entries fallback literal).position? (key x) = some i := by
  have ⟨hl, he⟩ := List.getElem?_eq_some_iff.mp hi
  have hd := List.pairwise_iff_getElem.mp (List.pairwise_map.mp hd)
  rw [position?, ofKeys, List.findIdx?_eq_some_iff_getElem]
  refine ⟨by simp; omega, ?_, ?_⟩
  · simp [List.getElem_append_left, hl, he, hk]
  · intro j hj hf
    have hl' : j < entries.length := by omega
    have hx : x = entries[j].1 := by simpa [List.getElem_append_left, hl', hk] using hf
    exact hd j i hl' hl hj (he ▸ hx.symm)

theorem position?_of_notMem {x : α} (hx : x ∉ entries.map Prod.fst) :
    (ofKeys scrutinee entries fallback literal).position? (key x) = some entries.length := by
  rw [position?, ofKeys, List.findIdx?_eq_some_iff_getElem]
  refine ⟨by simp, by simp [fits_wildcard], ?_⟩
  intro j hj hf
  have he : x = entries[j].1 := by simpa [List.getElem_append_left, hj, hk] using hf
  exact hx <| he ▸ List.mem_map_of_mem (List.getElem_mem hj)

theorem value?_entry (hd : (entries.map Prod.fst).Nodup) {i : Nat} {x : α}
    {result : List Token} (hi : entries[i]? = some (x, result)) :
    (ofKeys scrutinee entries fallback literal).value? (key x) = some result := by
  have ⟨hl, he⟩ := List.getElem?_eq_some_iff.mp hi
  rw [value?, position?_entry hk hd hi]
  simp [ofKeys, List.getElem?_append_left, hl, he]

theorem value?_of_notMem {x : α} (hx : x ∉ entries.map Prod.fst) :
    (ofKeys scrutinee entries fallback literal).value? (key x) = some fallback := by
  rw [value?, position?_of_notMem hk hx]
  simp [ofKeys]

theorem exists_position?_eq (hd : (entries.map Prod.fst).Nodup) {x : α}
    (hx : x ∉ entries.map Prod.fst) {j : Nat}
    (hj : j < (ofKeys scrutinee entries fallback literal).arms.length) :
    ∃ y, (ofKeys scrutinee entries fallback literal).position? (key y) = some j := by
  rw [length_arms_ofKeys] at hj
  by_cases h : j < entries.length
  case pos => exact ⟨entries[j].1, position?_entry hk hd (List.getElem?_eq_getElem h)⟩
  case neg =>
    have hl : j = entries.length := by omega
    exact ⟨x, hl ▸ position?_of_notMem hk hx⟩

end

end Match

end Accessors
