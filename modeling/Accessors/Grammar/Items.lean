import Accessors.Grammar.Declarations
import Accessors.Grammar.Statements

namespace Accessors.Grammar

open Rule

variable (self : Rules)

def receiver : Rule Code := do
  let reference ← maybe (.punct "&") (cat [punct "&", maybe .lifetime lifetime])
  let name ← cat [maybeKeyword "mut", keyword "self"]
  let type ←
    if reference.isEmpty then maybe (.punct ":") (cat [punct ":", self.typeCode]) else pure []
  return reference ++ name ++ type

inductive ArgumentKind
  | receiver
  | typed
  | variadic

-- An argument without a pattern is an old form. It gets the pattern that matches anything.
def argument : Rule (Code × ArgumentKind) := do
  if ← sees (.punct "...") then return (← punct "...", .variadic)
  if ← accepts (receiver self) then return (← receiver self, .receiver)
  if ← sees (.both .ident (.second (.punct "<"))) then
    let type ← self.typeCode
    return (Code.ofTokens (.word "_" :: Token.operator ":") ++ type, .typed)
  let pattern ← cat [self.patternCode, punct ":"]
  if ← sees (.punct "...") then return (pattern ++ (← punct "..."), .variadic)
  return (pattern ++ (← self.typeCode), .typed)

-- Only the first argument can be a receiver, and only the last one can be variadic.
def arguments : Rule Code := do
  rounds true (← get).length
where
  rounds (first : Bool) : Nat → Rule Code
    | 0 => do if ← sees .done then pure [] else failure
    | n + 1 => do
      if ← sees .done then return []
      let attributes ← outerAttributesCode self
      let (code, kind) ← argument self
      match kind with
      | .receiver => if !first then failure
      | .variadic => return attributes ++ code ++ (← maybePunct ",")
      | .typed => pure ()
      if ← sees .done then return attributes ++ code
      let comma ← punct ","
      return attributes ++ code ++ comma ++ (← rounds false n)

def genericsCode : Rule Code :=
  return (← generics self).code

def constrained (subject : Rule Code) : Rule Code := do
  let subject ← subject
  let clause ← whereCode self
  pure [.constrained subject clause]

def signature (safe : Bool) : Rule Code :=
  cat [maybeKeyword "const", maybeKeyword "async",
    (if safe then maybe (.anyOf ["unsafe", "safe"]) anyIdentCode else maybeKeyword "unsafe"),
    maybeAbi, keyword "fn", identCode, genericsCode self,
    constrained self (cat [enclosed .paren (arguments self), returnCode self true])]

-- What a rule has no place for is kept as it stands in the source, from its attributes on.
def orVerbatim (p : Rule (Option Code)) : Rule Code := do
  let (code, source) ← verbatim p
  pure (code.getD (Code.ofTokens source))

-- The call of a macro as an item. It ends in a semicolon unless it is in braces.
def callItem (named : Bool) : Rule Code := do
  let head ← cat [plainPathCode, punct "!"]
  let name ← if named then maybe (.any [.ident, .keyword "try"]) anyIdentCode else pure []
  let body ← anyGroup
  let semicolon ← if endsInBrace body then pure [] else punct ";"
  return head ++ name ++ body ++ semicolon

def opensCallItem : Ahead :=
  .any [.ident, .anyOf ["self", "super", "crate"], .punct "::"]

-- A constant behind the word for it, and whether it has nothing but a type and a value.
def constant : Rule (Code × Bool × Bool) := do
  let name ← if ← sees (.any [.ident, .keyword "_"]) then anyIdentCode else failure
  let hasGenerics ← sees (.punct "<")
  let generics ← genericsCode self
  let type ← cat [punct ":", self.typeCode]
  let value ← maybe (.punct "=") (cat [punct "=", self.expressionCode])
  let hasClause ← sees (.keyword "where")
  let clause ← whereCode self
  let semicolon ← punct ";"
  pure (name ++ generics ++ type ++ value ++ clause ++ semicolon, !hasGenerics && !hasClause,
    !value.isEmpty)

structure Alias where
  head : Code
  bounded : Bool
  bounds : Code
  clause : Option Code
  definition : Code

def typeAlias (before after : Bool) : Rule Alias := do
  let head ← cat [keyword "type", identCode, genericsCode self]
  let bounded ← sees (.punct ":")
  let bounds ←
    if bounded then
      let colon ← punct ":"
      let bounds ← listed true (.any [.keyword "where", .punct "=", .punct ";"]) "+" self.boundCode
      pure (if bounds.items.isEmpty then [] else colon ++ bounds.code "+" id)
    else pure []
  let first ← if before then whereClause self else pure none
  let definition ← maybe (.punct "=") (cat [punct "=", self.typeCode])
  let second ← if after && first.isNone then whereClause self else pure none
  let _ ← punct ";"
  pure ⟨head, bounded, bounds, first <|> second, definition⟩

def semicolonCode : Code :=
  Code.ofTokens (Token.operator ";")

def typeItem : Rule (Option Code) := do
  let visibility ← visibility
  let a ← typeAlias self true false
  if a.bounded || a.definition.isEmpty then return none
  return some (visibility ++ a.head ++ a.clause.getD [] ++ a.definition ++ semicolonCode)

def foreignMember : Rule Code := orVerbatim do
  let attributes ← outerAttributesCode self
  let ahead ← lookAhead (do let _ ← visibility; get)
  let safety := Ahead.anyOf ["unsafe", "safe"]
  let opensStatic := Ahead.any [.keyword "static", .both safety (.second (.keyword "static"))]
  let some code ← (do
    if opensSignature true ahead then
      let head ← cat [visibility, signature self true]
      let safe := Ahead.keyword "safe" (fromSafety ahead)
      if ← sees (.group .brace) then
        let _ ← attributedBlock self
        return none
      let semicolon ← punct ";"
      return if safe then none else some (head ++ semicolon)
    else if opensStatic ahead then
      let head ← cat [visibility, maybe safety anyIdentCode, keyword "static", maybeKeyword "mut",
        identCode, punct ":", self.typeCode]
      let value ← maybe (.punct "=") (cat [punct "=", self.expressionCode])
      let semicolon ← punct ";"
      return if safety ahead || !value.isEmpty then none else some (head ++ semicolon)
    else if Ahead.keyword "type" ahead then
      let visibility ← visibility
      let a ← typeAlias self true true
      return if a.bounded || !a.definition.isEmpty then none
        else some (visibility ++ a.head ++ a.clause.getD [] ++ semicolonCode)
    else if opensCallItem ahead then
      return some (← callItem false)
    else failure : Rule (Option Code)) | return none
  return some (attributes ++ code)

def traitMember : Rule Code := orVerbatim do
  let attributes ← outerAttributesCode self
  let qualifiers ← cat [visibility, maybeKeyword "default"]
  let ahead ← get
  let some code ← (do
    if opensSignature false ahead then
      let head ← signature self false
      if ← sees (.group .brace) then return some (← headed self head (self .block))
      return some (head ++ (← punct ";"))
    else if Ahead.keyword "const" ahead then
      let lead ← keyword "const"
      let (code, plain, _) ← constant self
      return if plain then some (lead ++ code) else none
    else if Ahead.keyword "type" ahead then
      let qualifiers ← visibility
      let a ← typeAlias self false true
      if !qualifiers.isEmpty then return none
      return some (a.head ++ [.constrained (a.bounds ++ a.definition) (a.clause.getD [])] ++
        semicolonCode)
    else if qualifiers.isEmpty && opensCallItem ahead then
      return some (← callItem false)
    else failure : Rule (Option Code)) | return none
  return if qualifiers.isEmpty then some (attributes ++ code) else none

def implMember : Rule Code := orVerbatim do
  let attributes ← outerAttributesCode self
  let hasDefault := Ahead.both (.keyword "default") (.not (.second (.punct "!")))
  let (isPublic, isDefault, ahead) ← lookAhead do
    let visibility ← visibility
    let default ← maybe hasDefault anyIdentCode
    return (!visibility.isEmpty, !default.isEmpty, ← get)
  let qualifiers := cat [visibility, maybeKeyword "default"]
  let some code ← (do
    if opensSignature false ahead then
      let head ← cat [qualifiers, signature self false]
      if ← sees (.punct ";") then
        let _ ← punct ";"
        return none
      return some (← headed self head (self .block))
    else if Ahead.keyword "const" ahead then
      let head ← cat [qualifiers, keyword "const"]
      let (code, plain, hasValue) ← constant self
      return if plain && hasValue then some (head ++ code) else none
    else if Ahead.keyword "type" ahead then
      let head ← qualifiers
      let a ← typeAlias self false true
      if a.bounded || a.definition.isEmpty then return none
      let definition : Code := [.constrained a.definition (a.clause.getD [])]
      return some (head ++ a.head ++ definition ++ semicolonCode)
    else if !isPublic && !isDefault && opensCallItem ahead then
      return some (← callItem false)
    else failure : Rule (Option Code)) | return none
  return some (attributes ++ code)

def functionItem : Rule (Option Code) := do
  let head ← cat [visibility, signature self false]
  if ← sees (.punct ";") then
    let _ ← punct ";"
    return none
  return some (← headed self head (self .block))

def externCrateItem : Rule Code :=
  cat [visibility, keyword "extern", keyword "crate",
    (do if ← sees (.keyword "self") then anyIdentCode else identCode),
    maybe (.keyword "as") (cat [keyword "as",
      (do if ← sees (.keyword "_") then anyIdentCode else identCode)]),
    punct ";"]

def foreignItem : Rule Code := do
  headed self (← cat [maybeKeyword "unsafe", abi]) (manyCode (.not .done) (foreignMember self))

-- What is used, and whether a path in it begins anew behind a brace.
def useTree (crateRoot : Bool) : Rule (Phrase Bool) := do
  if ← sees (.any [.ident, .anyOf ["self", "super", "crate", "try"]]) then
    let name ← anyIdentCode
    if ← sees (.punct "::") then
      let colons ← punct "::"
      let tree ← self (.useTree false)
      return ⟨name ++ colons ++ tree.code, tree.form⟩
    let rename ← maybe (.keyword "as") (cat [keyword "as",
      (do if ← sees (.keyword "_") then anyIdentCode else identCode)])
    return ⟨name ++ rename, false⟩
  else if ← sees (.punct "*") then return ⟨← punct "*", false⟩
  else
    let (trees, opened, closed) ← inGroup .brace <| listed true .done "," do
      let lead ← if crateRoot then maybePunct "::" else pure []
      let tree ← self (.useTree (crateRoot && lead.isEmpty))
      return (⟨lead ++ tree.code, tree.form || !lead.isEmpty⟩ : Phrase Bool)
    return ⟨[.group .brace opened closed (trees.code "," (·.code))],
      trees.items.any (·.form)⟩

def useItem : Rule (Option Code) := do
  let head ← cat [visibility, keyword "use"]
  let lead ← maybePunct "::"
  let tree ← self (.useTree lead.isEmpty)
  let semicolon ← punct ";"
  return if tree.form then none else some (head ++ lead ++ tree.code ++ semicolon)

def staticItem : Rule (Option Code) := do
  let head ← cat [visibility, keyword "static", maybeKeyword "mut", identCode]
  let type ← maybe (.not (.punct "=")) (cat [punct ":", self.typeCode])
  let value ← maybe (.punct "=") (cat [punct "=", self.expressionCode])
  let semicolon ← punct ";"
  return if type.isEmpty || value.isEmpty then none
    else some (head ++ type ++ value ++ semicolon)

def constItem : Rule (Option Code) := do
  let head ← cat [visibility, keyword "const"]
  let (code, plain, hasValue) ← constant self
  return if plain && hasValue then some (head ++ code) else none

def traitItem : Rule Code := do
  let head ← cat [visibility, maybeKeyword "unsafe", maybeKeyword "auto", keyword "trait",
    identCode, genericsCode self]
  if ← sees (.punct "=") then
    let bounds ← constrained self (cat [punct "=",
      listedCode true (.any [.keyword "where", .punct ";"]) "+"
        (return (← self (.bound false true)).code)])
    return head ++ bounds ++ (← punct ";")
  let stop := .any [.keyword "where", .group .brace]
  let supertraits ← constrained self do
    if ← sees (.punct ":") then
      let colon ← punct ":"
      let bounds ← listed true stop "+" self.boundCode
      pure (if bounds.items.isEmpty then [] else colon ++ bounds.code "+" id)
    else pure []
  headed self (head ++ supertraits) (manyCode (.not .done) (traitMember self))

def implItem : Rule (Option Code) := do
  let visibility ← visibility
  let head ← cat [maybeKeyword "default", maybeKeyword "unsafe", keyword "impl",
    maybe opensGenerics (genericsCode self)]
  let isConst ← sees (.any [.keyword "const", .both (.punct "?") (.second (.keyword "const"))])
  if isConst then
    let _ ← cat [maybePunct "?", keyword "const"]
  let polarity ← maybe (.both (.punct "!") (.not (.second (.group .brace)))) (punct "!")
  let first ← self (.type true)
  let isFor ← sees (.keyword "for")
  if !isFor && !polarity.isEmpty then failure
  let subject ← constrained self do
    return first.code ++ (← maybe (.keyword "for") (cat [keyword "for", self.typeCode]))
  let block ← headed self (head ++ polarity ++ subject) (manyCode (.not .done) (implMember self))
  let isPath := first.form == .name || first.form == .path
  return if !visibility.isEmpty || isConst || (isFor && !isPath) then none else some block

-- A macro that is declared by the word for it is kept as it stands in the source.
def macroItem : Rule (Option Code) := do
  let _ ← cat [visibility, keyword "macro", identCode]
  let _ ← maybe (.group .paren) anyGroup
  let _ ← if ← sees (.group .brace) then anyGroup else failure
  return none

def moduleBody (attributes : List Attribute) : Rule Module := do
  let qualifiers ← cat [visibility, maybeKeyword "unsafe"]
  let _ ← keyword "mod"
  let name ← if ← sees (.keyword "try") then anyIdent else ident
  if ← sees (.punct ";") then
    let _ ← punct ";"
    return ⟨⟨attributes, [], qualifiers.tokens, name⟩, none⟩
  let (inner, items) ← inside .brace do
    let inner ← innerAttributes self
    let items ← many (.not .done) (self .item)
    pure (inner, items)
  return ⟨⟨attributes, inner, qualifiers.tokens, name⟩, some items⟩

def module : Rule Module := do
  let attributes ← outerAttributes self
  moduleBody self attributes

def itemBody (isPublic : Bool) (ahead : List Token) (attributes : List Attribute) :
    Rule (Option Item) :=
  let word (k : String) := Ahead.keyword k ahead
  let behind (p : Ahead) := Ahead.second p ahead
  let code (c : Code) := Item.code (Attribute.code attributes ++ c)
  let always (p : Rule Code) : Rule (Option Item) := return some (code (← p))
  let sometimes (p : Rule (Option Code)) : Rule (Option Item) := return (← p).map code
  let moduleItem : Rule (Option Item) := return some (← moduleBody self attributes).item
  let declaration : Rule (Option Item) :=
    return some (.declaration (← declarationBody self attributes))
  let isTrait : Ahead := .any
    [.keyword "trait", .both (.keyword "auto") (.second (.keyword "trait"))]
  let isForeign : Ahead := .any
    [.second (.group .brace), .both (.second .stringLiteral) (.third (.group .brace))]
  if opensSignature false ahead then sometimes (functionItem self)
  else if word "extern" then
    if behind (.keyword "crate") then always externCrateItem
    else if isForeign ahead then always (foreignItem self)
    else failure
  else if word "use" then sometimes (useItem self)
  else if word "static" then sometimes (staticItem self)
  else if word "const" then sometimes (constItem self)
  else if word "unsafe" then
    if behind isTrait then always (traitItem self)
    else if behind (.keyword "impl") then sometimes (implItem self)
    else if behind (.keyword "extern") then always (foreignItem self)
    else if behind (.keyword "mod") then moduleItem
    else failure
  else if word "mod" then moduleItem
  else if word "type" then sometimes (typeItem self)
  else if word "struct" || word "enum" || (word "union" && behind .ident) then declaration
  else if isTrait ahead then always (traitItem self)
  else if word "impl" || (word "default" && !behind (.punct "!")) then sometimes (implItem self)
  else if word "macro" then sometimes macroItem
  else if !isPublic && opensCallItem ahead then always (callItem true)
  else failure

def item : Rule Item := do
  let (item, source) ← verbatim do
    let attributes ← outerAttributes self
    let (isPublic, ahead) ← lookAhead (do let v ← visibility; return (!v.isEmpty, ← get))
    itemBody self isPublic ahead attributes
  pure (item.getD (.verbatim source))

end Accessors.Grammar
