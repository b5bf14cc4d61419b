import Accessors.Grammar.Paths

namespace Accessors.Grammar

open Rule

variable (self : Rules)

def parameterBody (attributes : List Attribute) (blank : Bool) : Rule Parameter := do
  if ← sees .lifetime then
    let name ← lifetime
    let bounds ← optionalBounds (.any [.done, .punct ",", .punct ">"]) lifetime
    pure ⟨true, attributes, [], name.tokens, bounds, []⟩
  else if ← sees .ident then
    let name ← identCode
    let bounds ← optionalBounds (.any [.done, .punct ",", .punct ">", .punct "="]) self.boundCode
    let default ← maybe (.punct "=") (cat [punct "=", self.typeCode])
    pure ⟨false, attributes, [], name.tokens, bounds, default⟩
  else if ← sees (.keyword "const") then
    let introducer ← keyword "const"
    let name ← identCode
    let type ← cat [punct ":", self.typeCode]
    let default ← maybe (.punct "=") (cat [punct "=", constArgument self])
    pure ⟨false, attributes, introducer.tokens, name.tokens, type, default⟩
  else if blank && (← sees (.keyword "_")) then
    pure ⟨false, attributes, [], (← anyIdentCode).tokens, [], []⟩
  else failure
where
  -- A colon without bounds is dropped.
  optionalBounds (stop : Ahead) (bound : Rule Code) : Rule Code := do
    if ← sees (.punct ":") then
      let colon ← punct ":"
      let bounds ← listed false stop "+" bound
      pure (if bounds.items.isEmpty then [] else colon ++ bounds.code "+" id)
    else pure []

def parameter (blank : Bool) : Rule Parameter := do
  let attributes ← outerAttributes self
  parameterBody self attributes blank

def generics : Rule Generics := do
  if ← sees (.punct "<") then
    let _ ← punct "<"
    let parameters ← listed true (.punct ">") "," (parameter self true)
    let _ ← punct ">"
    pure parameters
  else pure Generics.none

-- The generics in front of an `impl` block's type, which might as well begin with `<` itself.
def opensGenerics : Ahead :=
  let name := .any [.lifetime, .ident]
  let follows := .any [.punct ">", .punct ",", .only ":" ["::"], .punct "="]
  .both (.punct "<") <| .any
    [.second (.punct ">"), .second (.punct "#"), .both (.second name) (.third follows),
      .second (.keyword "const")]

def binder : Rule Code := do
  maybe (.keyword "for") <| cat
    [keyword "for", punct "<",
      return (← listed true (.punct ">") "," (parameter self false)).code "," Parameter.code,
      punct ">"]

-- The code of a bound on a trait, and whether the trait is constant. Only one of the marks `for`
-- and `?` may stand in front of the trait.
def traitBound (conditional : Bool) : Rule (Code × Bool) := do
  let lifetimes ← binder self
  let bracketed ← sees (.group .bracket)
  let constant ← sees (.any [.group .bracket, .keyword "const"])
  if bracketed then
    let _ ← inside .bracket (keyword "const")
  else if constant then
    let _ ← keyword "const"
  if constant && !conditional then failure
  let mark ← maybePunct "?"
  if !mark.isEmpty && (!lifetimes.isEmpty || (← sees (.keyword "for"))) then failure
  let path ← boundRoute self
  pure (mark ++ lifetimes ++ path.code, constant)

def capture : Rule Code := do
  let lead ← cat [keyword "use", punct "<"]
  let captured ← listed true (.punct ">") "," do
    if ← sees .lifetime then return (true, ← lifetime)
    else if ← sees (.any [.ident, .keyword "Self"]) then return (false, ← anyIdentCode)
    else failure
  let close ← punct ">"
  pure (lead ++ captured.codeLifetimesFirst ++ close)

-- A bound on a constant trait is kept as it stands in the source.
def bound (captures conditional : Bool) : Rule (Phrase BoundForm) := do
  if ← sees .lifetime then
    return ⟨← lifetime, .lifetime⟩
  if ← sees (.keyword "use") then
    if captures then return ⟨← capture, .capture⟩ else failure
  let ((code, constant), source) ← verbatim do
    if ← sees (.group .paren) then
      let ((code, constant), opened, closed) ← inGroup .paren (traitBound self conditional)
      pure ([.group .paren opened closed code], constant)
    else traitBound self conditional
  pure (if constant then ⟨Code.ofTokens source, .verbatim⟩ else ⟨code, .trait⟩)

def opensBound : Ahead :=
  .any [.anyIdent, .punct "::", .punct "?", .lifetime, .group .paren]

def boundList (plus captures conditional : Bool) : Rule (Listed (Phrase BoundForm)) := do
  rounds (← get).length
where
  rounds : Nat → Rule (Listed (Phrase BoundForm))
    | 0 => failure
    | n + 1 => do
      let b ← self (.bound captures conditional)
      if plus && (← sees (.punct "+")) then
        let _ ← punct "+"
        if ← sees opensBound then
          let rest ← rounds n
          pure ⟨b :: rest.items, rest.trailing⟩
        else pure ⟨[b], true⟩
      else pure ⟨[b], false⟩

def objectBounds (plus captures conditional : Bool) : Rule (Listed (Phrase BoundForm)) := do
  let bounds ← boundList self plus captures conditional
  if bounds.items.any fun b => b.form == .trait || b.form == .verbatim then pure bounds else failure

def boundsCode (bounds : Listed (Phrase BoundForm)) : Code :=
  bounds.code "+" (·.code)

def wherePredicate : Rule Code := do
  let common := [.done, .group .brace, .punct ",", .punct ";", .punct "="]
  if ← sees (.both .lifetime (.second (.punct ":"))) then
    cat [lifetime, punct ":", lifetimeList (.any (.punct ":" :: common))]
  else
    cat [binder self, self.typeCode, punct ":",
      listedCode false (.any (.only ":" ["::"] :: common)) "+" self.boundCode]

-- A where clause without predicates is there, but nothing is written for it.
def whereClause : Rule (Option Code) := do
  if ← sees (.keyword "where") then
    let lead ← keyword "where"
    let stop := .any
      [.done, .group .brace, .punct ",", .punct ";", .only ":" ["::"], .punct "="]
    let predicates ← listed false stop "," (wherePredicate self)
    pure (some (if predicates.items.isEmpty then [] else lead ++ predicates.code "," id))
  else pure none

def whereCode : Rule Code :=
  return (← whereClause self).getD []

end Accessors.Grammar
