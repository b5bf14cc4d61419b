import Accessors.Grammar.Expressions

namespace Accessors.Grammar

open Rule

variable (self : Rules)

def dropWord (k : String) (ts : List Token) : List Token :=
  if Ahead.keyword k ts then ts.drop 1 else ts

-- What is behind the qualifiers that precede the safety of a function.
def fromSafety (ts : List Token) : List Token :=
  dropWord "async" (dropWord "const" ts)

def opensSignature (safe : Bool) : Ahead := fun ts =>
  let ts := fromSafety ts
  let ts := if safe && Ahead.keyword "safe" ts then ts.drop 1 else dropWord "unsafe" ts
  let ts :=
    if Ahead.keyword "extern" ts then
      if Ahead.stringLiteral (ts.drop 1) then ts.drop 2 else ts.drop 1
    else ts
  Ahead.keyword "fn" ts

-- Where an item begins among statements, attributes and macro calls apart.
def opensItem : Ahead :=
  let word := Ahead.keyword
  let then₂ (p q : Ahead) := Ahead.both p (.second q)
  .any
    [.anyOf
        ["pub", "extern", "use", "fn", "mod", "type", "struct", "enum", "trait", "impl", "macro"],
      then₂ (word "crate") (.not (.punct "::")),
      then₂ (word "static") <| .any
        [word "mut", .both .ident (.not (.both (word "async")
          (.second (.any [word "move", .punct "|"]))))],
      then₂ (word "const") <| .not <| .any
        [.group .brace, word "static", word "move", .punct "|",
          then₂ (word "async") (.not (.anyOf ["unsafe", "extern", "fn"]))],
      then₂ (word "unsafe") (.not (.group .brace)),
      then₂ (word "async") (.anyOf ["unsafe", "extern", "fn"]),
      then₂ (word "union") .ident,
      then₂ (word "auto") (word "trait"),
      then₂ (word "default") (.anyOf ["unsafe", "impl"])]

inductive StatementKind
  | call
  | item
  | binding
  | expression

-- A macro call in braces is a statement by itself, unless something is done with what it returns.
def statementKind : Rule StatementKind := lookAhead do
  let _ ← outerAttributes self
  let start ← get
  let path ← (some <$> plainPath) <|> pure none
  if path.isSome && (← sees (.punct "!")) then
    if ← sees (.second (.any [.ident, .keyword "try"])) then return .item
    if ← sees (.both (.second (.group .brace))
        (.not (.third (.any [.only "." [".."], .punct "?"])))) then return .call
  set start
  if ← sees (.keyword "let") then return .binding
  if ← sees opensItem then return .item
  return .expression

-- A binding may provide for the case that its pattern does not match, but not behind a brace.
def bindingStatement : Rule Code := do
  let head ← cat [outerAttributesCode self, keyword "let", self.patternCode,
    maybe (.punct ":") (cat [punct ":", self.typeCode])]
  let value ← maybe (.punct "=") (cat [punct "=", self.expressionCode])
  let otherwise ←
    if value.isEmpty || endsInBrace value then pure []
    else maybe (.keyword "else") (cat [keyword "else", block self])
  return head ++ value ++ otherwise ++ (← punct ";")

def statement : Rule (Code × Bool) := do
  match ← statementKind self with
  | .call =>
    return (← cat [outerAttributesCode self, plainPathCode, callRest, maybePunct ";"], true)
  | .item => return ((← self .item).pieces, true)
  | .binding => return (← bindingStatement self, true)
  | .expression =>
    let e ← self .statement
    let semicolon ← maybePunct ";"
    return (e.code ++ semicolon, !semicolon.isEmpty || e.form.endsStatement)

-- The statements in a block. Only the last one may lack the semicolon that it would need.
def statements : Rule Code := do
  rounds (← get).length
where
  rounds : Nat → Rule Code
    | 0 => do if ← sees .done then pure [] else failure
    | n + 1 => do
      if ← sees .done then return []
      if ← sees (.punct ";") then
        return (← punct ";") ++ (← rounds n)
      let (code, complete) ← statement self
      if !complete && !(← sees .done) then failure
      return code ++ (← rounds n)

end Accessors.Grammar
