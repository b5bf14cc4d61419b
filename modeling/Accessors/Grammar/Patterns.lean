import Accessors.Grammar.Types

namespace Accessors.Grammar

open Rule

variable (self : Rules)

-- Between alternatives stands a bar, which is neither part of `||` nor of `|=`.
def bar : Ahead :=
  .only "|" ["||", "|="]

def alternatives : Rule (Phrase PatternForm) := do
  let lead ← maybePunct "|"
  let first ← self .pattern
  if lead.isEmpty && !(← sees bar) then return first
  let more ← manyCode bar (cat [punct "|", self.patternCode])
  return ⟨lead ++ first.code ++ more, .other⟩

def alternativesCode : Rule Code :=
  return (← alternatives self).code

def tupleIndex? (text : String) : Option Nat :=
  let (base, digits) : Nat × List Char :=
    match text.toList with
    | '0' :: 'x' :: rest => (16, rest)
    | '0' :: 'o' :: rest => (8, rest)
    | '0' :: 'b' :: rest => (2, rest)
    | cs => (10, cs)
  let values := (digits.filter (· != '_')).map Text.hexValue?
  if !Ahead.isNumber text || values.isEmpty || values.any (·.all (base ≤ ·)) then none
  else
    let n := (values.filterMap id).foldl (base * · + ·) 0
    if n < UInt32.size then some n else none

def indexCode (span : Span) (n : Nat) : Code :=
  [.token (.literal (toString n) span)]

def member : Rule (Code × Bool) := do
  if ← sees .ident then return (← identCode, true)
  match ← next with
  | .literal text span =>
    match tupleIndex? text with
    | some n => pure (indexCode span n, false)
    | none => failure
  | _ => failure

-- Two dots and an end, three dots and an end, or two dots alone. In a pattern, three dots are an
-- old way to write `..=`.
def patternDots : Rule (Code × Bool) := do
  if ← sees (.punct "..=") then return (← punct "..=", true)
  else if ← sees (.punct "...") then
    let _ ← punct "..."
    return (Code.ofTokens (Token.operator "..="), true)
  else return (← punct "..", false)

def rangeBound : Rule (Option Code) := do
  if ← sees (.any [.done, .punct "|", .punct "=", .only ":" ["::"], .punct ",", .punct ";",
      .keyword "if"]) then return none
  if ← sees .literal then return some (← literal)
  else if ← sees opensPath then return some (← qualifiedRoute self true).code
  else if ← sees (.keyword "const") then
    return some (← cat [keyword "const", attributedBlock self])
  else failure

-- What follows the start of a range. An end is needed where it is included.
def rangeRest (start : Code) : Rule (Phrase PatternForm) := do
  let (dots, closed) ← patternDots
  match ← rangeBound self with
  | some stop => pure ⟨start ++ dots ++ stop, if start.isEmpty then .halfOpen else .other⟩
  | none =>
    if closed then failure
    else pure ⟨start ++ dots, if start.isEmpty then .rest else .halfOpen⟩

def fieldPattern : Rule Code := do
  if ← sees (.keyword "box") then
    return ← asWritten (cat [keyword "box", maybeKeyword "ref", maybeKeyword "mut", identCode])
  let marks ← cat [maybeKeyword "ref", maybeKeyword "mut"]
  if !marks.isEmpty then
    return marks ++ (← identCode)
  let (name, named) ← member
  if !named || (← sees (.punct ":")) then
    return name ++ (← cat [punct ":", alternativesCode self])
  else return name

def fieldPatterns : Rule Code := do
  rounds (← get).length
where
  rounds : Nat → Rule Code
    | 0 => do if ← sees .done then pure [] else failure
    | n + 1 => do
      if ← sees .done then return []
      let attributes ← outerAttributesCode self
      if ← sees (.punct "..") then
        return attributes ++ (← punct "..")
      let field ← fieldPattern self
      if ← sees .done then return attributes ++ field
      let comma ← punct ","
      return attributes ++ field ++ comma ++ (← rounds n)

def pathPattern : Rule (Phrase PatternForm) := do
  let r ← qualifiedRoute self true
  if r.isPlain && (← sees opensCall) then return ⟨r.code ++ (← callRest), .other⟩
  if ← sees (.group .brace) then
    return ⟨r.code ++ (← enclosed .brace (fieldPatterns self)), .other⟩
  else if ← sees (.group .paren) then
    return ⟨r.code ++ (← enclosed .paren (commaList (alternativesCode self))), .other⟩
  else if ← sees (.punct "..") then rangeRest self r.code
  else return ⟨r.code, .other⟩

def identPattern : Rule Code :=
  cat [maybeKeyword "ref", maybeKeyword "mut",
    (do if ← sees (.keyword "self") then anyIdentCode else identCode),
    maybe (.punct "@") (cat [punct "@", self.patternCode])]

-- In a slice, a range without one of its ends would be ambiguous.
def sliceElement : Rule Code := do
  let p ← alternatives self
  if p.form == .halfOpen then failure else pure p.code

def opensPathPattern : Ahead :=
  .any
    [.both .ident (.second (.any
        [.punct "::", .punct "!", .group .brace, .group .paren, .punct ".."])),
      .both (.keyword "self") (.second (.punct "::")),
      .punct "::", .punct "<", .anyOf ["Self", "super", "crate"]]

def pattern : Rule (Phrase PatternForm) := do
  if ← sees opensPathPattern then pathPattern self
  else if ← sees (.keyword "_") then return ⟨← anyIdentCode, .other⟩
  else if ← sees (.keyword "box") then
    return ⟨← asWritten (cat [keyword "box", self.patternCode]), .other⟩
  else if ← sees (.any [.punct "-", .literal, .keyword "const"]) then
    match ← rangeBound self with
    | some start =>
      if ← sees (.punct "..") then rangeRest self start else return ⟨start, .other⟩
    | none => failure
  else if ← sees (.any [.anyOf ["ref", "mut", "self"], .ident]) then
    return ⟨← identPattern self, .other⟩
  else if ← sees (.punct "&") then
    return ⟨← cat [punct "&", maybeKeyword "mut", self.patternCode], .other⟩
  else if ← sees (.group .paren) then
    return ⟨← enclosed .paren (commaList (alternativesCode self)), .other⟩
  else if ← sees (.group .bracket) then
    return ⟨← enclosed .bracket (commaList (sliceElement self)), .other⟩
  else if ← sees (.only ".." ["..."]) then rangeRest self []
  else failure

end Accessors.Grammar
