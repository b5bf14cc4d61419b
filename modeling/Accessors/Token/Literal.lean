import Accessors.Text.IdentifierContinue
import Accessors.Text.IdentifierStart
import Accessors.Text.Quoted

namespace Accessors

open Text

-- What is left of a text behind the form that the scan is for, if the text opens with it.
abbrev Scan := List Char → Option (List Char)

namespace Scan

def identifier : Scan
  | c :: rest => if isIdentifierStart c then some (rest.dropWhile isIdentifierContinue) else none
  | [] => none

def suffix (cs : List Char) : List Char :=
  (identifier cs).getD cs

-- A number must not run on into a word.
def wordBreak : Scan
  | c :: rest => if isIdentifierContinue c then none else some (c :: rest)
  | [] => some []

end Scan

-- The three kinds of quoted literals: text, bytes, and text that ends at its first NUL.
inductive Quotation
  | text
  | bytes
  | terminated
deriving DecidableEq

namespace Quotation

def admits : Quotation → Char → Bool
  | text, _ => true
  | bytes, c => c.toNat < 128
  | terminated, c => c != '\x00'

-- The two digits of an escape by number. In a text they must name an ASCII character.
def admitsByte : Quotation → Nat → Nat → Bool
  | text, high, _ => high < 8
  | bytes, _, _ => true
  | terminated, high, low => high != 0 || low != 0

def admitsCodePoint : Quotation → List Char → Bool
  | bytes, _ => false
  | q, digits =>
    digits.all (fun c => c == '_' || (hexValue? c).isSome)
      && digits.head?.any (· != '_')
      && (digits.filter (· != '_')).length ≤ 6
      && (hexNumber digits).isValidChar
      && (q == text || hexNumber digits != 0)

-- A line that ends in a backslash goes on at the next visible character, which there must be.
def continuation : Scan
  | [] => none
  | '\r' :: '\n' :: rest => continuation rest
  | c :: rest =>
    if c = ' ' ∨ c = '\t' ∨ c = '\n' then continuation rest
    else if c = '\r' then none
    else some (c :: rest)

def escape (q : Quotation) : Scan
  | 'x' :: h :: l :: rest => do
    let high ← hexValue? h
    let low ← hexValue? l
    if q.admitsByte high low then some rest else none
  | 'u' :: '\x7b' :: rest =>
    match rest.dropWhile (· != '\x7d') with
    | _ :: rest' => if q.admitsCodePoint (rest.takeWhile (· != '\x7d')) then some rest' else none
    | [] => none
  | '\n' :: rest => continuation rest
  | '\r' :: rest => continuation ('\r' :: rest)
  | '0' :: rest => if q = terminated then none else some rest
  | c :: rest => if c ∈ ['n', 'r', 't', '\\', '\'', '"'] then some rest else none
  | [] => none

theorem continuation_length {cs rest : List Char} (h : continuation cs = some rest) :
    rest.length ≤ cs.length := by
  fun_induction continuation cs with
  | case1 => simp at h
  | case2 cs ih =>
    have := ih h
    simp only [List.length_cons]
    omega
  | case3 c cs _ _ ih =>
    have := ih h
    simp only [List.length_cons]
    omega
  | case4 => simp at h
  | case5 => simp_all

theorem escape_length {q : Quotation} {cs rest : List Char} (h : q.escape cs = some rest) :
    rest.length ≤ cs.length := by
  unfold escape at h
  split at h
  case h_1 =>
    simp only [Option.bind_eq_bind, Option.bind_eq_some_iff] at h
    obtain ⟨_, _, _, _, h⟩ := h
    grind
  case h_2 tail =>
    have := length_dropWhile_le (· != '\x7d') tail
    grind
  case h_3 | h_4 =>
    have := continuation_length h
    simp_all
    try omega
  all_goals grind

def cooked (q : Quotation) (cs : List Char) : Option (List Char) :=
  match cs with
  | [] => none
  | '"' :: rest => some (Scan.suffix rest)
  | '\r' :: '\n' :: rest => q.cooked rest
  | '\\' :: rest =>
    match h : q.escape rest with
    | some rest' =>
      have := escape_length h
      q.cooked rest'
    | none => none
  | c :: rest => if c ≠ '\r' ∧ q.admits c then q.cooked rest else none
termination_by cs.length

def rawBody (q : Quotation) (hashes : Nat) : Scan
  | [] => none
  | '\r' :: '\n' :: rest => q.rawBody hashes rest
  | c :: rest =>
    if c = '"' ∧ hashes ≤ (rest.takeWhile (· == '#')).length then
      some (Scan.suffix (rest.drop hashes))
    else if c ≠ '\r' ∧ q.admits c then q.rawBody hashes rest
    else none

-- At most 255 hashes may stand before the opening quote.
def raw (q : Quotation) : Scan := fun cs =>
  let hashes := (cs.takeWhile (· == '#')).length
  match cs.drop hashes with
  | '"' :: rest => if hashes ≤ 255 then q.rawBody hashes rest else none
  | _ => none

-- One character or escape, and the closing apostrophe. A NUL-terminated text has no such form.
def single (q : Quotation) : Scan
  | '\\' :: rest =>
    match rest with
    | '\n' :: _ => none
    | '\r' :: _ => none
    | _ => (q.escape rest).bind closeSingle
  | c :: rest => if q.admits c then closeSingle rest else none
  | [] => none
where
  closeSingle : Scan
    | '\'' :: rest => some (Scan.suffix rest)
    | _ => none

end Quotation

namespace Scan

def digitOrUnderscore (c : Char) : Bool :=
  c.isDigit || c == '_'

def exponent : Scan := fun cs =>
  let unsigned :=
    match cs.dropWhile (· == '_') with
    | c :: rest => if c = '+' ∨ c = '-' then rest else c :: rest
    | [] => []
  match unsigned.dropWhile (· == '_') with
  | c :: rest => if c.isDigit then some (rest.dropWhile digitOrUnderscore) else none
  | [] => none

-- A mantissa with a point, an exponent or both. Without digits, an exponent is a suffix.
def floatDigits : Scan
  | [] => none
  | c :: cs =>
    if c.isDigit then
      match cs.dropWhile digitOrUnderscore with
      | '.' :: rest =>
        if rest.head?.any (fun c => c == '.' || isIdentifierStart c) then none
        else
          match rest.dropWhile digitOrUnderscore with
          | e :: tail =>
            if e = 'e' ∨ e = 'E' then some ((exponent tail).getD (e :: tail)) else some (e :: tail)
          | [] => some []
      | e :: rest => if e = 'e' ∨ e = 'E' then exponent rest else none
      | [] => none
    else none

def float : Scan := fun cs =>
  (floatDigits cs).bind (wordBreak <| suffix ·)

-- The digits of a whole number in one base. A digit beyond the base spoils the number, a letter
-- beyond it begins the suffix.
def digits (base : Nat) : Scan := fun cs =>
  let isBody (c : Char) := digitOrUnderscore c || (hexValue? c).any (· < base)
  let body := cs.takeWhile isBody
  if body.any (fun c => (hexValue? c).any (base ≤ ·)) then none
  else if body.all (· == '_') then none
  else if base = 10 ∧ body.head? = some '_' then none
  else some (cs.dropWhile isBody)

def wholeDigits : Scan
  | '0' :: 'x' :: rest => digits 16 rest
  | '0' :: 'o' :: rest => digits 8 rest
  | '0' :: 'b' :: rest => digits 2 rest
  | cs => digits 10 cs

def whole : Scan := fun cs =>
  (wholeDigits cs).bind (wordBreak <| suffix ·)

def quoted : Scan
  | '"' :: rest => Quotation.text.cooked rest
  | 'r' :: rest => Quotation.text.raw rest
  | 'b' :: '"' :: rest => Quotation.bytes.cooked rest
  | 'b' :: 'r' :: rest => Quotation.bytes.raw rest
  | 'b' :: '\'' :: rest => Quotation.bytes.single rest
  | 'c' :: '"' :: rest => Quotation.terminated.cooked rest
  | 'c' :: 'r' :: rest => Quotation.terminated.raw rest
  | '\'' :: rest => Quotation.text.single rest
  | _ => none

def literal : Scan := fun cs =>
  quoted cs <|> float cs <|> whole cs

end Scan

end Accessors
