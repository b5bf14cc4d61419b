import Accessors.Grammar.Attributes

namespace Accessors.Grammar

open Rule

inductive SegmentArguments
  | absent
  | angled (code : Code) (blank : Bool)
  | round (code : Code)

-- Whether a segment may still get arguments. Empty angle brackets do not count.
def SegmentArguments.isBlank : SegmentArguments → Bool
  | absent => true
  | angled _ blank => blank
  | round _ => false

def SegmentArguments.code : SegmentArguments → Code
  | absent => []
  | angled c _ => c
  | round c => c

structure Segment where
  name : Code
  arguments : SegmentArguments

-- A path, with what precedes its first name: nothing, `::`, or a type in angle brackets.
structure Route where
  lead : Code
  qualified : Bool
  segments : List Segment

namespace Route

def colons : Code :=
  Code.ofTokens (Token.operator "::")

def code (r : Route) : Code :=
  r.lead ++ join r.segments
where
  join : List Segment → Code
    | [] => []
    | [s] => s.name ++ s.arguments.code
    | s :: rest => s.name ++ s.arguments.code ++ colons ++ join rest

def isPlain (r : Route) : Bool :=
  !r.qualified && r.segments.all fun s => s.arguments matches .absent

def isSingle (r : Route) : Bool :=
  r.lead.isEmpty && r.segments.length == 1

def endsBlank (r : Route) : Bool :=
  r.segments.getLast?.any (·.arguments.isBlank)

def withArguments (r : Route) (arguments : SegmentArguments) : Route :=
  { r with
    segments := r.segments.dropLast ++
      (r.segments.getLast?.map fun s => { s with arguments }).toList }

end Route

variable (self : Rules)

def lifetimeList (stop : Ahead) : Rule Code :=
  listedCode false stop "+" lifetime

def constArgument : Rule Code := do
  if ← sees .literal then literal
  else if ← sees .ident then identCode
  else attributedBlock self

def genericArgument : Rule (Bool × Code) := do
  if ← sees (.both .lifetime (.not (.second (.punct "+")))) then
    return (true, ← lifetime)
  if ← sees (.any [.literal, .group .brace]) then
    return (false, ← constArgument self)
  let type ← self (.type true)
  if type.form != .name then
    return (false, type.code)
  if ← sees (.punct "=") then
    let equals ← punct "="
    let value ←
      if ← sees (.any [.literal, .group .brace]) then constArgument self else self.typeCode
    return (false, type.code ++ equals ++ value)
  if ← sees (.punct ":") then
    let colon ← punct ":"
    let bounds ← listedCode false (.any [.punct ",", .punct ">"]) "+" self.boundCode
    return (false, type.code ++ colon ++ bounds)
  return (false, type.code)

def angleArguments : Rule SegmentArguments := do
  let opened ← punct "<"
  let arguments ← listed true (.punct ">") "," (genericArgument self)
  let closed ← punct ">"
  pure (.angled (opened ++ arguments.codeLifetimesFirst ++ closed)
    arguments.items.isEmpty)

def returnType (plus : Bool) : Rule (Option (Phrase TypeForm)) := do
  if ← sees (.punct "->") then
    let arrow ← punct "->"
    let type ← self (.type plus)
    pure (some ⟨arrow ++ type.code, type.form⟩)
  else pure none

-- The arguments of a path to a function trait. If nothing of it is returned, or a type in
-- parentheses, the path may go on.
def roundArguments : Rule (SegmentArguments × Bool) := do
  let inputs ← enclosed .paren (commaList self.typeCode)
  match ← returnType self false with
  | none => pure (.round inputs, true)
  | some output => pure (.round (inputs ++ output.code), output.form == .parenthesised)

-- In an expression, a `<` behind a name is an operator, unless `::` precedes it.
def segment (expression : Bool) : Rule Segment := do
  if ← sees (.anyOf ["super", "self", "crate", "try"]) then
    return ⟨← anyIdentCode, .absent⟩
  let name ← if ← sees (.keyword "Self") then anyIdentCode else identCode
  let bare ← sees (.only "<" ["<="])
  let colons ← sees (.both (.punct "::") (.third (.punct "<")))
  if bare && !expression then
    return ⟨name, ← angleArguments self⟩
  else if colons then
    let lead ← punct "::"
    match ← angleArguments self with
    | .angled c blank => return ⟨name, .angled (lead ++ c) blank⟩
    | arguments => return ⟨name, arguments⟩
  else
    return ⟨name, .absent⟩

-- Whether `::` and another name follow. Before a parenthesis, `::` belongs to arguments.
def goesOn : Ahead :=
  .both (.punct "::") (.not (.third (.group .paren)))

def furtherSegments (expression : Bool) : Rule (List Segment) :=
  many goesOn (do let _ ← punct "::"; segment self expression)

def route (expression : Bool) : Rule Route := do
  let lead ← maybePunct "::"
  let first ← segment self expression
  pure ⟨lead, false, first :: (← furtherSegments self expression)⟩

def qualifiedRoute (expression : Bool) : Rule Route := do
  if ← sees (.punct "<") then
    let lead ← cat [punct "<", self.typeCode,
      maybe (.keyword "as") (cat [keyword "as", return (← route self false).code]),
      punct ">", punct "::"]
    let first ← segment self expression
    let rest ← many (.punct "::") (do let _ ← punct "::"; segment self expression)
    pure ⟨lead, true, first :: rest⟩
  else route self expression

def opensRound : Ahead :=
  .any [.group .paren, .both (.punct "::") (.third (.group .paren))]

def typeRoute : Rule Route := do
  let start ← qualifiedRoute self false
  extend (← get).length start
where
  extend : Nat → Route → Rule Route
    | 0, r => pure r
    | n + 1, r => do
      if r.endsBlank && (← sees opensRound) then
        let _ ← maybePunct "::"
        let (arguments, open?) ← roundArguments self
        let r := r.withArguments arguments
        if open? then
          let more ← furtherSegments self false
          extend n { r with segments := r.segments ++ more }
        else extend n r
      else pure r

-- A path with one pair of parentheses at most, as it stands in a bound.
def boundRoute : Rule Route := do
  let r ← route self false
  if r.endsBlank && (← sees opensRound) then
    let _ ← maybePunct "::"
    return r.withArguments (← roundArguments self).1
  else return r

def callRest : Rule Code :=
  cat [punct "!", anyGroup]

def opensCall : Ahead :=
  .only "!" ["!="]

end Accessors.Grammar
