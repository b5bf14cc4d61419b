import Accessors.Code.Item
import Accessors.Grammar.Rule

namespace Accessors

-- From the loosest binding of operators to the tightest one.
inductive Precedence
  | jump
  | assign
  | range
  | or
  | and
  | binding
  | compare
  | bitOr
  | bitXor
  | bitAnd
  | shift
  | sum
  | product
  | cast
  | prefixed
  | unambiguous
deriving DecidableEq

namespace Precedence

def rank (p : Precedence) : Nat :=
  p.ctorIdx

def below (p q : Precedence) : Bool :=
  p.rank < q.rank

end Precedence

-- What the context of a type has to know of it.
inductive TypeForm
  | name
  | path
  | parenthesised
  -- A single bound without `dyn`.
  | bound
  | other
deriving DecidableEq

inductive BoundForm
  | lifetime
  | trait
  | capture
  | verbatim
deriving DecidableEq

inductive ExpressionForm
  | block
  -- A macro call in braces, which does so only if nothing is done with it.
  | bracedCall
  | call
  | comparison
  | range
  | verbatim
  | other
deriving DecidableEq

def ExpressionForm.endsStatement (f : ExpressionForm) : Bool :=
  f == .block || f == .bracedCall

inductive PatternForm
  | rest
  | halfOpen
  | other
deriving DecidableEq

structure Phrase (φ : Type) where
  code : Code
  form : φ

inductive Nonterminal
  -- In some places, a type does not extend over `+`.
  | type (plus : Bool)
  | bound (captures : Bool) (conditional : Bool)
  -- In some places, a brace does not belong to the expression before it.
  | expression (structs : Bool)
  -- An expression that may end early, so that the next statement begins.
  | statement
  | unary (structs : Bool)
  | operand (structs : Bool) (precedence : Precedence)
  | pattern
  | block
  | item
  | useTree (crateRoot : Bool)

namespace Nonterminal

abbrev Result : Nonterminal → Type
  | type _ => Phrase TypeForm
  | bound _ _ => Phrase BoundForm
  | expression _ => Phrase ExpressionForm
  | statement => Phrase ExpressionForm
  | unary _ => Phrase ExpressionForm
  | operand _ _ => Phrase ExpressionForm
  | pattern => Phrase PatternForm
  | block => Code
  | item => Item
  | useTree _ => Phrase Bool

end Nonterminal

-- A rule is given the rules that it may use, so that it need not be recursive itself.
abbrev Rules := (n : Nonterminal) → Rule n.Result

namespace Rules

open Nonterminal

variable (self : Rules)

def typeCode : Rule Code :=
  return (← self (.type true)).code

def narrowType : Rule Code :=
  return (← self (.type false)).code

def boundCode : Rule Code :=
  return (← self (.bound false true)).code

def expressionCode : Rule Code :=
  return (← self (.expression true)).code

def patternCode : Rule Code :=
  return (← self .pattern).code

end Rules

end Accessors
