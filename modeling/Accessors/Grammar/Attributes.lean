import Accessors.Grammar.Nonterminal

namespace Accessors.Grammar

open Rule

-- The words that may stand in a path although they cannot be names.
def pathWords : List String :=
  ["super", "self", "Self", "crate"]

def plainSegment : Ahead :=
  .any [.ident, .anyOf pathWords]

def plainPath : Rule Path := do
  let isGlobal := !(← maybePunct "::").isEmpty
  let first ← segment
  let rest ← many (.punct "::") (do let _ ← punct "::"; segment)
  pure ⟨isGlobal, first :: rest⟩
where
  segment : Rule Ident := do
    if ← sees plainSegment then anyIdent else failure

def plainPathCode : Rule Code :=
  return Code.ofTokens (← plainPath).tokens

-- Of the reserved words that are not for paths, only one can name an attribute.
def attributePath : Rule Path := do
  if ← sees (.keyword "unsafe") then pure ⟨false, [← anyIdent]⟩ else plainPath

variable (self : Rules)

-- The value of an attribute is a literal that nothing follows, or else any expression, though not
-- one with an attribute of its own.
def attributeValue : Rule Code := do
  let alone ← accepts (do let _ ← literal; if !(← sees .done) then failure)
  if alone then literal
  else if ← sees (.both (.punct "#") (.second (.group .bracket))) then failure
  else self.expressionCode

def attributeArguments : Rule Arguments := do
  if ← sees .anyGroup then
    match ← next with
    | .group d opened closed body => pure (.list d opened closed body)
    | _ => failure
  else if ← sees (.punct "=") then
    let equals ← next
    pure (.value equals.span (← attributeValue self))
  else pure .absent

def oneAttribute (inner : Bool) : Rule Attribute := do
  if !(← sees (.punct "#")) then failure
  let hash ← next
  if inner then
    let _ ← punct "!"
  let ((path, arguments), opened, closed) ← inGroup .bracket do
    let path ← attributePath
    let arguments ← attributeArguments self
    pure (path, arguments)
  pure ⟨inner, hash.span, opened, closed, path, arguments⟩

def outerAttributes : Rule (List Attribute) :=
  many (.punct "#") (oneAttribute self false)

def innerAttributes : Rule (List Attribute) :=
  many (.both (.punct "#") (.second (.punct "!"))) (oneAttribute self true)

def outerAttributesCode : Rule Code :=
  return Attribute.code (← outerAttributes self)

def innerAttributesCode : Rule Code :=
  return Attribute.code (← innerAttributes self)

def block : Rule Code :=
  enclosed .brace (self .block)

def headed (head : Code) (body : Rule Code) : Rule Code := do
  let ((inner, body), opened, closed) ← inGroup .brace do
    let inner ← innerAttributesCode self
    let body ← body
    pure (inner, body)
  pure [.headed head opened closed inner body]

def attributedBlock : Rule Code :=
  enclosed .brace (cat [innerAttributesCode self, self .block])

end Accessors.Grammar
