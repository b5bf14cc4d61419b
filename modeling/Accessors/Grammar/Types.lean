import Accessors.Grammar.Bounds

namespace Accessors.Grammar

open Rule

variable (self : Rules)

def abi : Rule Code :=
  cat [keyword "extern", maybe .stringLiteral stringLiteral]

def maybeAbi : Rule Code :=
  maybe (.keyword "extern") abi

def returnCode (plus : Bool) : Rule Code :=
  return ((← returnType self plus).map (·.code)).getD []

def argumentName : Ahead :=
  .both (.any [.ident, .keyword "_"]) (.second (.only ":" ["::"]))

-- An argument that has the form of a receiver is kept as it stands in the source.
def functionArgument (first : Bool) : Rule Code := do
  let attributes ← outerAttributesCode self
  let receiver := .both (.keyword "mut") (.second (.keyword "self"))
  let named := .any [argumentName, .both (.keyword "self") (.second (.only ":" ["::"]))]
  if first && (← sees receiver) then
    let rest ← asWritten do
      let _ ← keyword "mut"
      if ← sees named then cat [keyword "self", punct ":", self.typeCode] else keyword "self"
    pure (attributes ++ rest)
  else if ← sees (if first then named else argumentName) then
    return attributes ++ (← cat [anyIdentCode, punct ":", self.typeCode])
  else return attributes ++ (← self.typeCode)

def variadicArgument : Ahead :=
  .any [.punct "...",
    .both (.any [.ident, .keyword "_"]) (.both (.second (.punct ":")) (.third (.punct "...")))]

def functionArguments : Rule Code := do
  rounds true (← get).length
where
  rounds (first : Bool) : Nat → Rule Code
    | 0 => do if ← sees .done then pure [] else failure
    | n + 1 => do
      if ← sees .done then return []
      if ← lookAhead (do let _ ← outerAttributes self; sees variadicArgument) then
        cat [outerAttributesCode self, maybe (.not (.punct "...")) (cat [anyIdentCode, punct ":"]),
          punct "...", maybePunct ","]
      else
        let argument ← functionArgument self first
        if ← sees .done then pure argument
        else
          let comma ← punct ","
          return argument ++ comma ++ (← rounds false n)

def functionType : Rule Code :=
  cat [maybeKeyword "unsafe", maybeAbi, keyword "fn", enclosed .paren (functionArguments self),
    returnCode self false]

def furtherBounds : Rule Code :=
  manyCode (.punct "+") (cat [punct "+", return (← self (.bound false false)).code])

def lifetimeObject : Rule Code :=
  return boundsCode (← objectBounds self true false false)

def parenthesisedType (plus : Bool) : Rule (Phrase TypeForm) := do
  let ((code, form), opened, closed) ← inGroup .paren content
  let group : Code := [.group .paren opened closed code]
  match form with
  | .bound =>
    let more ← furtherBounds self
    pure ⟨group ++ more, if more.isEmpty then .bound else .other⟩
  | .name =>
    if plus && (← sees (.punct "+")) then
      return ⟨group ++ (← furtherBounds self), .other⟩
    else pure ⟨group, .parenthesised⟩
  | form => pure ⟨group, form⟩
where
  -- Here, `name` stands for what could be a bound as well.
  content : Rule (Code × TypeForm) := do
    if ← sees .done then return ([], .other)
    if ← sees .lifetime then return (← lifetimeObject self, .parenthesised)
    if ← sees (.punct "?") then
      let (code, constant) ← traitBound self false
      if constant then failure
      return (code, .bound)
    let first ← self (.type true)
    if ← sees (.punct ",") then
      return (first.code ++ (← cat [punct ",", commaList self.typeCode]), .other)
    match first.form with
    | .name | .path | .bound => pure (first.code, .name)
    | _ => pure (first.code, .parenthesised)

def opensPath : Ahead :=
  .any [.ident, .anyOf pathWords, .punct "::", .punct "<"]

def pathType (plus : Bool) (lifetimes : Code) : Rule (Phrase TypeForm) := do
  let r ← typeRoute self
  if r.qualified then return ⟨r.code, .other⟩
  if r.isPlain && (← sees opensCall) then
    return ⟨r.code ++ (← callRest), .other⟩
  if plus && (← sees (.punct "+")) then
    let plusSign ← punct "+"
    let more ←
      if ← sees opensBound then pure (boundsCode (← boundList self true false false)) else pure []
    return ⟨lifetimes ++ r.code ++ plusSign ++ more, .other⟩
  if !lifetimes.isEmpty then return ⟨lifetimes ++ r.code, .bound⟩
  let round := r.segments.any fun s => s.arguments matches .round _
  return ⟨r.code, if r.isSingle && !round then .name else .path⟩

def bracketedType : Rule Code := do
  let element ← self.typeCode
  let length ← maybe (.punct ";") (cat [punct ";", self.expressionCode])
  pure (element ++ length)

def pointerQualifier : Rule Code := do
  if ← sees (.anyOf ["const", "mut"]) then anyIdentCode else failure

def objectType (plus : Bool) : Rule (Phrase TypeForm) := do
  let ((code, star), source) ← verbatim do
    let lead ← keyword "dyn"
    let star ← maybePunct "*"
    let bounds ← objectBounds self plus false false
    pure (lead ++ boundsCode bounds, !star.isEmpty)
  pure ⟨if star then Code.ofTokens source else code, .other⟩

def bindable : Ahead :=
  .any [.ident, .anyOf pathWords, .anyOf ["fn", "unsafe", "extern"]]

def type (plus : Bool) : Rule (Phrase TypeForm) := do
  let lifetimes ← binder self
  if !lifetimes.isEmpty && !(← sees bindable) then failure
  if ← sees (.group .paren) then parenthesisedType self plus
  else if ← sees (.anyOf ["fn", "unsafe", "extern"]) then
    return ⟨lifetimes ++ (← functionType self), .other⟩
  else if ← sees opensPath then pathType self plus lifetimes
  else if ← sees (.keyword "dyn") then objectType self plus
  else if ← sees (.group .bracket) then
    return ⟨← enclosed .bracket (bracketedType self), .other⟩
  else if ← sees (.punct "*") then
    return ⟨← cat [punct "*", pointerQualifier, self.narrowType], .other⟩
  else if ← sees (.punct "&") then
    let reference ← cat [punct "&", maybe .lifetime lifetime, maybeKeyword "mut"]
    return ⟨reference ++ (← self.narrowType), .other⟩
  else if ← sees (.punct "!") then
    return ⟨← punct "!", .other⟩
  else if ← sees (.keyword "impl") then
    return ⟨← cat [keyword "impl", return boundsCode (← objectBounds self plus true true)], .other⟩
  else if ← sees (.keyword "_") then
    return ⟨← anyIdentCode, .other⟩
  else if ← sees .lifetime then
    return ⟨← lifetimeObject self, .other⟩
  else failure

end Accessors.Grammar
