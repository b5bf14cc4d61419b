import Accessors.Marker.Registry

namespace Accessors

-- What can be wrong with the arguments of an attribute. Some of it is told differently if the
-- input has ended.
inductive Misreading
  | noArguments (name : String)
  | valueForArguments (name : String)
  | missingEntry
  | literalEntry
  | strayEntry
  | missingSegment (ended : Bool)
  | missingPunct (char : Char)
  | missingString (ended : Bool)
  | missingParentheses (ended : Bool)
  | missingName (ended : Bool)
  | reservedName (word : String)
  | unknownMarker
  | unsupportedArgument
  | compoundAlias
  | badAlias (problem : AliasProblem)

namespace Misreading

def expected (ended : Bool) (what : String) : String :=
  (if ended then "unexpected end of input, " else "") ++ "expected " ++ what

def message : Misreading → String
  | noArguments name => s!"expected attribute arguments in parentheses: #[{name}(...)]"
  | valueForArguments name => s!"expected parentheses: #[{name}(...)]"
  | missingEntry => expected true "nested attribute"
  | literalEntry => "unexpected literal in nested attribute, expected ident"
  | strayEntry => "unexpected token in nested attribute, expected ident"
  | missingSegment ended => expected ended "ident"
  | missingPunct char => s!"expected `{char}`"
  | missingString ended => expected ended "string literal"
  | missingParentheses ended => expected ended "parentheses"
  | missingName ended => expected ended "identifier"
  | reservedName word => s!"expected identifier, found keyword `{word}`"
  | unknownMarker => "unknown member access marker; expected `by_index`, `by_name` or `enumerate`"
  | unsupportedArgument =>
    "unsupported `generate` argument; expected `dump`, `verbose` or `markers`"
  | compoundAlias => "marker alias must be a single identifier"
  | badAlias problem => problem.message

end Misreading

structure Fault where
  cause : Misreading
  span : Span

end Accessors
