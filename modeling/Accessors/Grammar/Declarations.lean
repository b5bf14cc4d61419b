import Accessors.Grammar.Types

namespace Accessors.Grammar

open Rule

variable (self : Rules)

-- The words in parentheses that restrict who can see something. Other parentheses behind `pub`
-- belong to what follows.
def restriction : Rule Code := do
  match ← get with
  | .group .paren _ _ body :: _ =>
    if Ahead.anyOf ["crate", "self", "super"] body && body.length = 1 then anyGroup
    else if Ahead.keyword "in" body then enclosed .paren (cat [keyword "in", plainPathCode])
    else pure []
  | _ => pure []

def visibility : Rule Code :=
  maybe (.keyword "pub") (cat [keyword "pub", restriction])

-- A field without a name of its own may be a struct or a union in place.
def namedField : Rule (Ident × Field) := do
  let attributes ← outerAttributes self
  let visibility ← visibility
  let blank ← sees (.keyword "_")
  let name ← if blank then anyIdent else ident
  let _ ← punct ":"
  let inPlace := .any [.keyword "struct", .both (.keyword "union") (.second (.group .brace))]
  let type ←
    if blank && (← sees inPlace) then
      asWritten do
        let _ ← anyIdent
        inside .brace (listed true .done "," nested)
    else self.typeCode
  pure (name, ⟨attributes, visibility.tokens, type⟩)
where
  nested : Rule Code :=
    cat [outerAttributesCode self, visibility, identCode, punct ":", self.typeCode]

def tupleField : Rule Field := do
  let attributes ← outerAttributes self
  let visibility ← visibility
  let type ← self.typeCode
  pure ⟨attributes, visibility.tokens, type⟩

def namedFields : Rule (Listed (Ident × Field)) :=
  inside .brace (listed true .done "," (namedField self))

def tupleFields : Rule (Listed Field) :=
  inside .paren (listed true .done "," (tupleField self))

-- A visibility is accepted in front of a variant, but it is dropped.
def variant : Rule Code := do
  let attributes ← outerAttributesCode self
  let _ ← visibility
  let name ← identCode
  let fields ←
    if ← sees (.group .brace) then pure [Fields.bracedNamed (← namedFields self)]
    else if ← sees (.group .paren) then pure [Fields.parenthesised (← tupleFields self)]
    else pure []
  let discriminant ← maybe (.punct "=") (cat [punct "=", self.expressionCode])
  pure (attributes ++ name ++ fields ++ discriminant)

def structRest : Rule (Code × Fields) := do
  if ← sees (.group .paren) then
    let fields ← tupleFields self
    let clause ← whereCode self
    let _ ← punct ";"
    pure (clause, .tuple fields)
  else
    let clause ← whereCode self
    if ← sees (.group .brace) then pure (clause, .named (← namedFields self))
    else
      let _ ← punct ";"
      pure (clause, .unit)

def shape (kind : Kind) : Rule (Code × Shape) := do
  match kind with
  | .struct =>
    let (clause, fields) ← structRest self
    pure (clause, .struct fields)
  | .enum =>
    let clause ← whereCode self
    pure (clause, .enum (← inside .brace (commaList (variant self))))
  | .union =>
    let clause ← whereCode self
    pure (clause, .union (← namedFields self))

def kindWord : Rule Kind := do
  let word ← anyIdent
  match [Kind.struct, .enum, .union].find? (·.text == word.text) with
  | some kind => pure kind
  | none => failure

def declarationBody (attributes : List Attribute) : Rule Declaration := do
  let visibility ← visibility
  let kind ← kindWord
  let name ← ident
  let generics ← generics self
  let (clause, shape) ← shape self kind
  pure ⟨attributes, visibility.tokens, name, generics, clause, shape⟩

def declaration : Rule Declaration := do
  let attributes ← outerAttributes self
  declarationBody self attributes

end Accessors.Grammar
