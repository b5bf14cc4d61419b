import Accessors.Grammar.Patterns

namespace Accessors.Grammar

open Rule

variable (self : Rules)

abbrev Expression := Phrase ExpressionForm

def plain (code : Code) : Expression :=
  ⟨code, .other⟩

def endsInBrace (c : Code) : Bool :=
  match c.tokens.getLast? with
  | some (.group .brace _ _ _) => true
  | _ => false

-- The binary operators. An operator comes before those that it begins with.
def binaryOperators : List (String × Precedence) :=
  [("<<=", .assign), (">>=", .assign), ("+=", .assign), ("-=", .assign), ("*=", .assign),
    ("/=", .assign), ("%=", .assign), ("^=", .assign), ("&=", .assign), ("|=", .assign),
    ("&&", .and), ("||", .or), ("<<", .shift), (">>", .shift), ("==", .compare), ("<=", .compare),
    ("!=", .compare), (">=", .compare), ("+", .sum), ("-", .sum), ("*", .product), ("/", .product),
    ("%", .product), ("^", .bitXor), ("&", .bitAnd), ("|", .bitOr), ("<", .compare),
    (">", .compare)]

def binaryOperator? (ts : List Token) : Option (String × Precedence) :=
  binaryOperators.find? fun (s, _) => Ahead.punct s ts

def assigns : Ahead :=
  .only "=" ["=>"]

def nextPrecedence : Rule Precedence := do
  match binaryOperator? (← get) with
  | some (_, p) => pure p
  | none =>
    if ← sees assigns then pure .assign
    else if ← sees (.punct "..") then pure .range
    else if ← sees (.keyword "as") then pure .cast
    else pure .jump

def opensExpression : Ahead :=
  .any
    [.both .anyIdent (.not (.keyword "as")), .anyGroup, .literal, .only "!" ["!="],
      .only "-" ["-=", "->"], .only "*" ["*="], .only "|" ["|="], .only "&" ["&="], .punct "..",
      .only "<" ["<=", "<<="], .punct "::", .lifetime, .punct "#"]

-- Where a range that includes its end may not need one.
def endsRange (structs : Bool) : Ahead :=
  .any
    [.done, .punct ",", .punct ";", .only "." [".."], .punct "?", .punct "=>",
      .both (fun _ => !structs) (.group .brace), .punct "=", .punct "+", .punct "/", .punct "%",
      .punct "^", .punct ">", .punct "<=", .punct "!=", .punct "-=", .punct "*=", .punct "&=",
      .punct "|=", .punct "<<=", .keyword "as"]

def rangeEnd (structs : Bool) : Rule Code := do
  if ← sees (.punct "..=") then
    return (← punct "..=") ++ (← self (.operand structs .range)).code
  if ← sees (.punct "...") then failure
  let dots ← punct ".."
  if ← sees (endsRange structs) then return dots
  return dots ++ (← self (.operand structs .range)).code

-- What binds tighter than a cast cannot follow it.
def afterCast : Ahead :=
  .any [.only "." [".."], .punct "?", .group .bracket, .group .paren]

def operators (structs : Bool) (base : Precedence) (left : Expression) : Rule Expression := do
  rounds (← get).length left
where
  rounds : Nat → Expression → Rule Expression
    | 0, left => pure left
    | n + 1, left => do
      if left.form == .range then return left
      match binaryOperator? (← get) with
      | some (s, precedence) =>
        if precedence.below base then return left
        if precedence == .compare && left.form == .comparison then failure
        let operator ← punct s
        let right ← self (.operand structs precedence)
        let form := if precedence == .compare then .comparison else .other
        rounds n ⟨left.code ++ operator ++ right.code, form⟩
      | none =>
        if !Precedence.assign.below base && (← sees assigns) then
          let operator ← punct "="
          let right ← self (.operand structs .assign)
          rounds n (plain (left.code ++ operator ++ right.code))
        else if !Precedence.range.below base && (← sees (.punct "..")) then
          rounds n ⟨left.code ++ (← rangeEnd self structs), .range⟩
        else if !Precedence.cast.below base && (← sees (.keyword "as")) then
          let cast ← cat [keyword "as", self.narrowType]
          if ← sees afterCast then failure
          rounds n (plain (left.code ++ cast))
        else pure left

def operand (structs : Bool) (precedence : Precedence) : Rule Expression := do
  rounds (← get).length (← self (.unary structs))
where
  rounds : Nat → Expression → Rule Expression
    | 0, right => pure right
    | n + 1, right => do
      let before := (← get).length
      let next ← nextPrecedence
      if precedence.below next || (next == precedence && precedence == .assign) then
        let right ← operators self structs next right
        if (← get).length = before then pure right else rounds n right
      else pure right

def expression (structs : Bool) : Rule Expression := do
  operators self structs .jump (← self (.unary structs))

def label : Rule Code :=
  maybe .lifetime (cat [lifetime, punct ":"])

def condition : Rule Code :=
  return (← self (.expression false)).code

def conditional : Rule Code := do
  rounds (← get).length
where
  rounds : Nat → Rule Code
    | 0 => failure
    | n + 1 => do
      let first ← cat [keyword "if", condition self, block self]
      if ← sees (.keyword "else") then
        let otherwise ← keyword "else"
        let rest ← if ← sees (.keyword "if") then rounds n else block self
        return first ++ otherwise ++ rest
      else return first

def whileLoop : Rule Code := do
  headed self (← cat [label, keyword "while", condition self]) (self .block)

def forLoop : Rule Code := do
  let head ← cat
    [label, keyword "for", alternativesCode self, keyword "in", condition self]
  headed self head (self .block)

def endlessLoop : Rule Code :=
  cat [label, keyword "loop", attributedBlock self]

-- An arm needs a comma unless its expression ends by itself or no arm follows.
def matchArm : Rule Code := do
  let head ← cat [outerAttributesCode self, alternativesCode self,
    maybe (.keyword "if") (cat [keyword "if", self.expressionCode]), punct "=>"]
  let body ← self .statement
  let comma ←
    if body.form != .block && !(← sees .done) then punct "," else maybePunct ","
  return head ++ body.code ++ comma

def choice : Rule Code := do
  headed self (← cat [keyword "match", condition self]) (manyCode (.not .done) (matchArm self))

def labelled : Rule Code := do
  let behind := fun p : Ahead => Ahead.both .lifetime (.second (.second p))
  if ← sees (behind (.keyword "while")) then whileLoop self
  else if ← sees (behind (.keyword "for")) then forLoop self
  else if ← sees (behind (.keyword "loop")) then endlessLoop self
  else cat [lifetime, punct ":", attributedBlock self]

-- A pattern that is kept as it stands in the source loses its attributes, unless a type follows it.
def closureArgument : Rule Code := do
  let attributes ← outerAttributesCode self
  let verbatim ← sees (.keyword "box")
  let pattern ← self.patternCode
  let type ← maybe (.punct ":") (cat [punct ":", self.typeCode])
  return (if verbatim && type.isEmpty then [] else attributes) ++ pattern ++ type

-- A closure with a declared type has a block as its body.
def closure (structs : Bool) : Rule Code := do
  let head ← cat [binder self, maybeKeyword "const", maybeKeyword "static", maybeKeyword "async",
    maybeKeyword "move", punct "|", listedCode true (.punct "|") "," (closureArgument self),
    punct "|"]
  if ← sees (.punct "->") then
    return head ++ (← cat [punct "->", self.typeCode, block self])
  return head ++ (← self (.expression structs)).code

def fieldValue : Rule Code := do
  let attributes ← outerAttributesCode self
  let (name, named) ← member
  if !named || (← sees (.punct ":")) then
    return attributes ++ name ++ (← cat [punct ":", self.expressionCode])
  return attributes ++ name

def fieldValues : Rule Code := do
  rounds (← get).length
where
  rounds : Nat → Rule Code
    | 0 => do if ← sees .done then pure [] else failure
    | n + 1 => do
      if ← sees .done then return []
      if ← sees (.punct "..") then
        return ← cat [punct "..", maybe (.not .done) self.expressionCode]
      let field ← fieldValue self
      if ← sees .done then return field
      let comma ← punct ","
      return field ++ comma ++ (← rounds n)

def pathExpression (structs : Bool) : Rule Expression := do
  let r ← qualifiedRoute self true
  if r.isPlain && (← sees opensCall) then
    let code := r.code ++ (← callRest)
    return ⟨code, if endsInBrace code then .bracedCall else .call⟩
  if structs && (← sees (.group .brace)) then
    return plain (r.code ++ (← enclosed .brace (fieldValues self)))
  return plain r.code

def arrayContent : Rule Code := do
  if ← sees .done then return []
  let first ← self.expressionCode
  if ← sees (.punct ";") then
    return first ++ (← cat [punct ";", self.expressionCode])
  if ← sees .done then return first
  return first ++ (← cat [punct ",", commaList self.expressionCode])

def breakExpression (structs : Bool) : Rule Code := do
  if ← sees (.both (.second .lifetime) (.third (.punct ":"))) then failure
  let head ← cat [keyword "break", maybe .lifetime lifetime]
  if (← sees opensExpression) && (structs || !(← sees (.group .brace))) then
    return head ++ (← self (.expression structs)).code
  return head

def letExpression (structs : Bool) : Rule Code := do
  let head ← cat [keyword "let", alternativesCode self, punct "="]
  let value ← operators self structs .compare (← self (.unary structs))
  return head ++ value.code

-- Whether a closure or a loop comes first is decided by what follows `for`.
def opensBinder : Ahead :=
  .both (.keyword "for") (.second opensGenerics)

def opensClosure : Ahead :=
  .any
    [.punct "|", .keyword "move", opensBinder,
      .both (.keyword "const") (.not (.second (.group .brace))), .keyword "static",
      .both (.keyword "async") (.second (.any [.punct "|", .keyword "move"]))]

def opensAsync : Ahead :=
  .both (.keyword "async") <| .any
    [.second (.group .brace), .both (.second (.keyword "move")) (.third (.group .brace))]

def opensTry : Ahead :=
  .both (.keyword "try") (.second (.group .brace))

def opensPathExpression : Ahead :=
  .any [opensPath, .both (.keyword "try") (.second (.any [.punct "!", .punct "::"]))]

-- The expressions that end a statement by themselves, as far as a keyword tells.
def blockLike : List (Ahead × Rule Code) :=
  [(.keyword "if", conditional self), (.keyword "while", whileLoop self),
    (.both (.keyword "for") (.not opensBinder), forLoop self),
    (.keyword "loop", endlessLoop self), (.keyword "match", choice self),
    (opensTry, cat [keyword "try", block self]),
    (.keyword "unsafe", cat [keyword "unsafe", attributedBlock self]),
    (.both (.keyword "const") (.second (.group .brace)),
      cat [keyword "const", attributedBlock self]),
    (.group .brace, attributedBlock self), (.lifetime, labelled self)]

def firstOf {α : Type} (choices : List (Ahead × Rule α)) (otherwise : Rule α) : Rule α := do
  let ts ← get
  match choices.find? fun (p, _) => p ts with
  | some (_, p) => p
  | none => otherwise

def blockExpression (otherwise : Rule Expression) : Rule Expression :=
  firstOf ((blockLike self).map fun (p, q) => (p, (⟨·, .block⟩) <$> q)) otherwise

def builtinCall : Rule Code :=
  asWritten do
    let _ ← cat [keyword "builtin", punct "#", identCode]
    if ← sees (.group .paren) then anyGroup else failure

def atom (structs : Bool) : Rule Expression :=
  firstOf
    [(.literal, plain <$> literal),
      (opensAsync, plain <$> cat [keyword "async", maybeKeyword "move", block self]),
      (opensTry, (⟨·, .block⟩) <$> cat [keyword "try", block self]),
      (opensClosure, plain <$> closure self structs),
      (.both (.keyword "builtin") (.second (.punct "#")), (⟨·, .verbatim⟩) <$> builtinCall),
      (opensPathExpression, pathExpression self structs),
      (.group .paren, plain <$> enclosed .paren (commaList self.expressionCode)),
      (.keyword "break", plain <$> breakExpression self structs),
      (.keyword "continue", plain <$> cat [keyword "continue", maybe .lifetime lifetime]),
      (.anyOf ["return", "yield"],
        plain <$> cat [anyIdentCode, maybe opensExpression self.expressionCode]),
      (.keyword "become", (⟨·, .verbatim⟩) <$> asWritten (cat [anyIdentCode, self.expressionCode])),
      (.group .bracket, plain <$> enclosed .bracket (arrayContent self)),
      (.keyword "let", plain <$> letExpression self structs),
      (.punct "..", (⟨·, .range⟩) <$> rangeEnd self structs),
      (.keyword "_", plain <$> anyIdentCode)]
    (blockExpression self failure)

-- The parts of a number with points in it, each of them the index of a field.
def indexChain (span : Span) (text : String) : Option Code :=
  (text.splitOn ".").foldlM (fun code part => do
    let n ← tupleIndex? part
    let dot := if code.isEmpty then [] else Code.ofTokens (Token.operator ".")
    pure (code ++ dot ++ indexCode span n)) []

def selection : Rule Code := do
  let dot ← punct "."
  match ← get with
  | .literal text span :: rest =>
    if Ahead.isNumber text && text.contains '.' then
      set rest
      let trailing := text.endsWith "."
      let shown := if trailing then (text.dropEnd 1).toString else text
      match indexChain span shown with
      | some code =>
        if trailing then return dot ++ code ++ Code.ofTokens (Token.operator ".") ++ (← named)
        else return dot ++ code
      | none => failure
    else return dot ++ (← named)
  | _ => return dot ++ (← named)
where
  named : Rule Code := do
    if ← sees (.keyword "await") then return ← anyIdentCode
    let (name, isNamed) ← member
    if !isNamed then return name
    let turbofish ← maybe (.punct "::") do
      let colons ← punct "::"
      return colons ++ (← angleArguments self).code
    if !turbofish.isEmpty || (← sees (.group .paren)) then
      return name ++ turbofish ++ (← enclosed .paren (commaList self.expressionCode))
    return name

def trailers (start : Expression) : Rule Expression := do
  rounds (← get).length start
where
  rounds : Nat → Expression → Rule Expression
    | 0, e => pure e
    | n + 1, e => do
      if ← sees (.group .paren) then
        rounds n (plain (e.code ++ (← enclosed .paren (commaList self.expressionCode))))
      else if e.form != .range && (← sees (.only "." [".."])) then
        rounds n (plain (e.code ++ (← selection self)))
      else if ← sees (.group .bracket) then
        rounds n (plain (e.code ++ (← enclosed .bracket self.expressionCode)))
      else if e.form != .range && (← sees (.punct "?")) then
        rounds n (plain (e.code ++ (← punct "?")))
      else pure e

-- What is kept as it stands in the source keeps its attributes the same way. A range without a
-- start can have none.
def attributedAtom (structs : Bool) : Rule Expression := do
  let ((attributes, e), source) ← verbatim do
    let attributes ← outerAttributesCode self
    let e ← trailers self (← atom self structs)
    pure (attributes, e)
  if e.form == .verbatim then pure ⟨Code.ofTokens source, .verbatim⟩
  else if e.form == .range && !attributes.isEmpty then failure
  else pure { e with code := attributes ++ e.code }

def unary (structs : Bool) : Rule Expression := do
  let opensUnary ← lookAhead do
    let _ ← outerAttributes self
    sees (.any [.punct "&", .punct "*", .punct "!", .punct "-"])
  if !opensUnary then return ← attributedAtom self structs
  let attributes ← outerAttributesCode self
  let operator ←
    if ← sees (.punct "&") then
      let reference ← punct "&"
      let raw := Ahead.both (.keyword "raw") (.second (.anyOf ["mut", "const"]))
      let qualifier ←
        if ← sees raw then cat [anyIdentCode, anyIdentCode] else maybeKeyword "mut"
      pure (reference ++ qualifier)
    else if ← sees (.punct "*") then punct "*"
    else if ← sees (.punct "!") then punct "!"
    else punct "-"
  return plain (attributes ++ operator ++ (← self (.unary structs)).code)

-- An expression that may be a statement of its own: one that is like a block ends there, unless a
-- point or a question mark goes on with it. What is kept as it stands loses its attributes here.
def statementExpression : Rule Expression := do
  let attributes ← outerAttributesCode self
  let start ← blockExpression self (self (.unary true))
  let attributed (e : Expression) :=
    if e.form == .verbatim then e else { e with code := attributes ++ e.code }
  if start.form != .block then
    operators self true .jump (attributed start)
  else if ← sees (.any [.only "." [".."], .punct "?"]) then
    operators self true .jump (attributed (← trailers self start))
  else pure (attributed start)

end Accessors.Grammar
