import Accessors.Text.Quoted
import Accessors.Token.Basic

namespace Accessors

-- The characters of one operator are joint with each other, but not with what follows.
def joinOperator : List Char → List Token
  | [] => []
  | [c] => [.punct c .alone .unlocated]
  | c :: rest => .punct c .joint .unlocated :: joinOperator rest

namespace Token

def operator (s : String) : List Token :=
  joinOperator s.toList

def word (name : String) : Token :=
  .ident ⟨name, false, .unlocated⟩

def number (n : Nat) : Token :=
  .literal (toString n) .unlocated

def string (text : String) : Token :=
  .literal (Text.quote text) .unlocated

def lifetime (name : String) : List Token :=
  [.punct '\'' .joint .unlocated, word name]

def enclosed (d : Delimiter) (body : List Token) : Token :=
  .group d .unlocated .unlocated body

end Token

def separate (separator : List Token) : List (List Token) → List Token
  | [] => []
  | [ts] => ts
  | ts :: rest => ts ++ separator ++ separate separator rest

end Accessors
