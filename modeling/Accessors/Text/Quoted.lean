import Accessors.Text.Blank
import Accessors.Text.Extend
import Accessors.Text.Printable

namespace Accessors.Text

def hexDigits (n : Nat) : List Char :=
  Nat.toDigits 16 n

def hexValue? (c : Char) : Option Nat :=
  if c.isDigit then some (c.toNat - '0'.toNat)
  else if 'a' ≤ c && c ≤ 'f' then some (c.toNat - 'a'.toNat + 10)
  else if 'A' ≤ c && c ≤ 'F' then some (c.toNat - 'A'.toNat + 10)
  else none

def isOctalDigit (c : Char) : Bool :=
  '0' ≤ c && c ≤ '7'

def escape (c : Char) : List Char :=
  match c with
  | '\t' => ['\\', 't']
  | '\r' => ['\\', 'r']
  | '\n' => ['\\', 'n']
  | '\\' => ['\\', '\\']
  | '"' => ['\\', '"']
  | c =>
    if isPrintable c && !isGraphemeExtend c then [c]
    else ['\\', 'u', '\x7b'] ++ hexDigits c.toNat ++ ['\x7d']

-- NUL has a short form, which an octal digit behind it would extend.
def escapeAll : List Char → List Char
  | [] => []
  | c :: rest =>
    if c = '\x00' then
      (if rest.head?.any isOctalDigit then ['\\', 'x', '0', '0'] else ['\\', '0']) ++ escapeAll rest
    else
      escape c ++ escapeAll rest

def quote (s : String) : String :=
  String.ofList ('"' :: escapeAll s.toList ++ ['"'])

-- The number that hexadecimal digits write. Underscores only group them.
def hexNumber (cs : List Char) : Nat :=
  (cs.filterMap hexValue?).foldl (16 * · + ·) 0

theorem length_dropWhile_le {α : Type} (p : α → Bool) (l : List α) :
    (l.dropWhile p).length ≤ l.length :=
  (List.dropWhile_sublist p).length_le

-- What stands between the quotes of a literal. A line that ends in a backslash goes on at the
-- next character that is no blank.
def unescape (cs : List Char) : Option (List Char) :=
  match cs with
  | [] => none
  | '"' :: _ => some []
  | '\r' :: '\n' :: rest => ('\n' :: ·) <$> unescape rest
  | '\\' :: 'n' :: rest => ('\n' :: ·) <$> unescape rest
  | '\\' :: 'r' :: rest => ('\r' :: ·) <$> unescape rest
  | '\\' :: 't' :: rest => ('\t' :: ·) <$> unescape rest
  | '\\' :: '0' :: rest => ('\x00' :: ·) <$> unescape rest
  | '\\' :: '\\' :: rest => ('\\' :: ·) <$> unescape rest
  | '\\' :: '\'' :: rest => ('\'' :: ·) <$> unescape rest
  | '\\' :: '"' :: rest => ('"' :: ·) <$> unescape rest
  | '\\' :: 'x' :: h :: l :: rest => do
    let high ← hexValue? h
    let low ← hexValue? l
    (Char.ofNat (16 * high + low) :: ·) <$> unescape rest
  | '\\' :: 'u' :: '\x7b' :: rest =>
    have := length_dropWhile_le (· != '\x7d') rest
    (Char.ofNat (hexNumber (rest.takeWhile (· != '\x7d'))) :: ·) <$>
      unescape ((rest.dropWhile (· != '\x7d')).drop 1)
  | '\\' :: '\n' :: rest =>
    have := length_dropWhile_le isBlank rest
    unescape (rest.dropWhile isBlank)
  | '\\' :: '\r' :: rest =>
    have := length_dropWhile_le isBlank rest
    unescape (rest.dropWhile isBlank)
  | '\\' :: _ => none
  | c :: rest => (c :: ·) <$> unescape rest
termination_by cs.length
decreasing_by all_goals (simp only [List.length_cons, List.length_drop]; omega)

-- The content of a raw literal: it runs to the last quote, and nothing in it is an escape.
def unquoteRaw (cs : List Char) : Option (List Char) :=
  match cs.dropWhile (· == '#') with
  | '"' :: rest => some ((rest.reverse.dropWhile (· != '"')).drop 1).reverse
  | _ => none

-- The text that a string literal stands for. Byte strings and the like are no string literals.
def unquote? (literal : String) : Option String :=
  match literal.toList with
  | '"' :: rest => String.ofList <$> unescape rest
  | 'r' :: rest => String.ofList <$> unquoteRaw rest
  | _ => none

end Accessors.Text
