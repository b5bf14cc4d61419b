import Accessors.Grammar.Items
import Accessors.Token.Lexer

namespace Accessors

namespace Grammar

def step (self : Rules) : Rules
  | .type plus => type self plus
  | .bound captures conditional => bound self captures conditional
  | .expression structs => expression self structs
  | .statement => statementExpression self
  | .unary structs => unary self structs
  | .operand structs precedence => operand self structs precedence
  | .pattern => pattern self
  | .block => statements self
  | .item => item self
  | .useTree crateRoot => useTree self crateRoot

-- The rules, for input that is nested at most so deep.
def rules : Nat → Rules
  | 0 => fun _ => failure
  | depth + 1 => step (rules depth)

mutual

def size : Token → Nat
  | .group _ _ _ body => sizeAll body + 1
  | _ => 1

def sizeAll : List Token → Nat
  | [] => 0
  | t :: rest => size t + sizeAll rest

end

-- Every rule reads a token before it comes back to itself, and it passes through fewer rules than
-- this on its way.
def depth (ts : List Token) : Nat :=
  8 * (sizeAll ts + 1)

def read? {α : Type} (p : Rules → Rule α) (ts : List Token) : Option α :=
  match (p (rules (depth ts))).run ts with
  | some (a, []) => some a
  | _ => none

end Grammar

def Module.ofTokens? (ts : List Token) : Option Module :=
  Grammar.read? Grammar.module ts

def Declaration.ofTokens? (ts : List Token) : Option Declaration :=
  Grammar.read? Grammar.declaration ts

def Item.ofTokens? (ts : List Token) : Option Item :=
  Grammar.read? Grammar.item ts

def Item.listOfTokens? (ts : List Token) : Option (List Item) :=
  Grammar.read? (fun self => do
    let _ ← Grammar.innerAttributes self
    Rule.many (.not .done) (self .item)) ts

def Attribute.listOfTokens? (ts : List Token) : Option (List Attribute) :=
  Grammar.read? Grammar.outerAttributes ts

end Accessors
