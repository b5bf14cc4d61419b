import Accessors.Code.Basic

namespace Accessors

abbrev Rule := StateT (List Token) Option

abbrev Ahead := List Token → Bool

namespace Ahead

def done : Ahead :=
  List.isEmpty

def keyword (k : String) : Ahead
  | .ident i :: _ => i.text == k
  | _ => false

def anyOf (ks : List String) : Ahead
  | .ident i :: _ => ks.contains i.text
  | _ => false

def anyIdent : Ahead
  | .ident _ :: _ => true
  | _ => false

-- The words that cannot be names, unless they are raw.
def reserved : List String :=
  ["_", "abstract", "as", "async", "await", "become", "box", "break", "const", "continue", "crate",
    "do", "dyn", "else", "enum", "extern", "false", "final", "fn", "for", "if", "impl", "in", "let",
    "loop", "macro", "match", "mod", "move", "mut", "override", "priv", "pub", "ref", "return",
    "Self", "self", "static", "struct", "super", "trait", "true", "try", "type", "typeof", "unsafe",
    "unsized", "use", "virtual", "where", "while", "yield"]

def ident : Ahead
  | .ident i :: _ => !reserved.contains i.text
  | _ => false

def punctChars : List Char → Ahead
  | [], _ => true
  | c :: cs, .punct c' spacing _ :: rest =>
    c == c' && (cs.isEmpty || spacing == .joint) && punctChars cs rest
  | _ :: _, _ => false

def punct (s : String) : Ahead :=
  punctChars s.toList

def lifetime : Ahead
  | .punct '\'' .joint _ :: .ident _ :: _ => true
  | _ => false

def group (d : Delimiter) : Ahead
  | .group d' _ _ _ :: _ => d == d'
  | _ => false

def anyGroup : Ahead
  | .group _ _ _ _ :: _ => true
  | _ => false

def isNumber (text : String) : Bool :=
  text.toList.head?.any Char.isDigit

-- A literal, where a minus sign belongs to the number behind it.
def literal : Ahead
  | .literal _ _ :: _ => true
  | .ident i :: _ => i.text == "true" || i.text == "false"
  | .punct '-' _ _ :: .literal text _ :: _ => isNumber text
  | _ => false

def stringLiteral : Ahead
  | .literal text _ :: _ => text.toList.head?.any fun c => c == '"' || c == 'r'
  | _ => false

-- The tokens behind the first one, where a lifetime counts as one.
def skip : List Token → List Token
  | .punct '\'' .joint _ :: .ident _ :: rest => rest
  | _ :: rest => rest
  | [] => []

def second (p : Ahead) : Ahead :=
  fun ts => p (skip ts)

def third (p : Ahead) : Ahead :=
  second (second p)

def not (p : Ahead) : Ahead :=
  fun ts => !p ts

def both (p q : Ahead) : Ahead :=
  fun ts => p ts && q ts

def any (ps : List Ahead) : Ahead :=
  fun ts => ps.any (· ts)

-- One operator, but not another one that begins with it.
def only (s : String) (longer : List String) : Ahead :=
  both (punct s) (not (any (longer.map punct)))

end Ahead

namespace Rule

def sees (p : Ahead) : Rule Bool :=
  return p (← get)

def next : Rule Token := do
  match ← get with
  | t :: rest => set rest; pure t
  | [] => failure

def verbatim {α : Type} (p : Rule α) : Rule (α × List Token) := do
  let before ← get
  let a ← p
  let after ← get
  pure (a, before.take (before.length - after.length))

def asWritten {α : Type} (p : Rule α) : Rule Code := do
  let (_, ts) ← verbatim p
  pure (Code.ofTokens ts)

def lookAhead {α : Type} (p : Rule α) : Rule α := do
  let start ← get
  let a ← p
  set start
  pure a

def accepts {α : Type} (p : Rule α) : Rule Bool :=
  return (p.run (← get)).isSome

def cat (ps : List (Rule Code)) : Rule Code :=
  ps.foldr (fun p q => return (← p) ++ (← q)) (pure [])

def maybe (p : Ahead) (q : Rule Code) : Rule Code := do
  if ← sees p then q else pure []

def ident : Rule Ident := do
  match ← get with
  | .ident i :: rest =>
    if Ahead.reserved.contains i.text then failure
    set rest
    pure i
  | _ => failure

def anyIdent : Rule Ident := do
  match ← next with
  | .ident i => pure i
  | _ => failure

def identCode : Rule Code :=
  return [.token (.ident (← ident))]

def anyIdentCode : Rule Code :=
  return [.token (.ident (← anyIdent))]

def keyword (k : String) : Rule Code := do
  if ← sees (.keyword k) then anyIdentCode else failure

def maybeKeyword (k : String) : Rule Code :=
  maybe (.keyword k) anyIdentCode

-- Operators are written with fixed spacing, whatever the source has.
def punctChars : List Char → Rule Code
  | [] => pure []
  | c :: cs => do
    match ← next with
    | .punct _ _ span =>
      let spacing := if cs.isEmpty then .alone else .joint
      return .token (.punct c spacing span) :: (← punctChars cs)
    | _ => failure

def punct (s : String) : Rule Code := do
  if ← sees (.punct s) then punctChars s.toList else failure

def maybePunct (s : String) : Rule Code :=
  maybe (.punct s) (punct s)

def lifetime : Rule Code := do
  if ← sees .lifetime then return [.token (← next), .token (← next)] else failure

-- A minus sign in front of a number is a token of its own.
def literal : Rule Code := do
  if !(← sees .literal) then failure
  match ← next with
  | .punct c _ span => return [.token (.punct c .alone span), .token (← next)]
  | t => return [.token t]

def stringLiteral : Rule Code := do
  if ← sees .stringLiteral then return [.token (← next)] else failure

def anyGroup : Rule Code := do
  if ← sees .anyGroup then return [.token (← next)] else failure

-- Runs a rule on the content of a group, of which nothing may be left over.
def inGroup {α : Type} (d : Delimiter) (p : Rule α) : Rule (α × Span × Span) := do
  match ← next with
  | .group d' opened closed body =>
    if d = d' then
      match p.run body with
      | some (a, []) => pure (a, opened, closed)
      | _ => failure
    else failure
  | _ => failure

def inside {α : Type} (d : Delimiter) (p : Rule α) : Rule α :=
  return (← inGroup d p).1

def enclosed (d : Delimiter) (p : Rule Code) : Rule Code := do
  let (code, opened, closed) ← inGroup d p
  pure [.group d opened closed code]

-- Repeats a rule as long as there is more. Every round has to read something.
def many {α : Type} (more : Ahead) (p : Rule α) : Rule (List α) := do
  rounds (← get).length
where
  rounds : Nat → Rule (List α)
    | 0 => do
      if ← sees more then failure
      pure []
    | n + 1 => do
      if ← sees more then return (← p) :: (← rounds n) else pure []

def manyCode (more : Ahead) (p : Rule Code) : Rule Code :=
  return (← many more p).flatten

-- Things with a separator between them, up to where the list stops. If the list is `closed`, only
-- the separator or the stop may follow a thing. Otherwise the list ends where no separator is.
def listed {α : Type} (closed : Bool) (stop : Ahead) (separator : String) (p : Rule α) :
    Rule (Listed α) := do
  rounds (← get).length
where
  rounds : Nat → Rule (Listed α)
    | 0 => do
      if ← sees stop then pure ⟨[], false⟩ else failure
    | n + 1 => do
      if ← sees stop then pure ⟨[], false⟩
      else
        let a ← p
        if ← sees (if closed then stop else .not (.punct separator)) then pure ⟨[a], false⟩
        else
          let _ ← punct separator
          let rest ← rounds n
          pure ⟨a :: rest.items, rest.trailing || rest.items.isEmpty⟩

def listedCode (closed : Bool) (stop : Ahead) (separator : String) (p : Rule Code) : Rule Code :=
  return (← listed closed stop separator p).code separator id

def commaList (p : Rule Code) : Rule Code :=
  listedCode true .done "," p

end Rule

end Accessors
