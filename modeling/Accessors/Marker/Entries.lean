import Accessors.Grammar.Rule
import Accessors.Marker.Fault
import Accessors.Token.Printer

namespace Accessors.Entries

def fault {α : Type} (cause : Misreading) (span : Span) : Except Fault α :=
  .error ⟨cause, span⟩

-- A fault at the next token, or at the end of the list if nothing is left of it.
def faultAt {α : Type} (scope : Span) (ts : List Token) (cause : Bool → Misreading) :
    Except Fault α :=
  match ts with
  | [] => fault (cause true) scope
  | t :: _ => fault (cause false) t.head

-- A single punctuation character, which may be the first one of a longer operator.
def readPunct (scope : Span) (char : Char) (ts : List Token) : Except Fault (List Token) :=
  match ts with
  | .punct c spacing span :: rest =>
    if c = char then .ok rest
    else faultAt scope (.punct c spacing span :: rest) fun _ => .missingPunct char
  | ts => faultAt scope ts fun _ => .missingPunct char

def readSegments (scope : Span) : List Token → Except Fault (List Ident × List Token)
  | .punct ':' .joint _ :: .punct ':' _ _ :: .ident i :: rest => do
    let (more, rest) ← readSegments scope rest
    pure (i :: more, rest)
  | .punct ':' .joint _ :: .punct ':' _ _ :: rest => faultAt scope rest .missingSegment
  | ts => pure ([], ts)

-- The path of an entry. Reserved words may stand in it.
def readPath (scope : Span) (ts : List Token) : Except Fault (Path × List Token) :=
  let isGlobal := Ahead.punct "::" ts
  match if isGlobal then ts.drop 2 else ts with
  | .ident i :: rest => do
    let (more, rest) ← readSegments scope rest
    pure (⟨isGlobal, i :: more⟩, rest)
  | [] => fault .missingEntry scope
  | t :: rest => fault (if Ahead.literal (t :: rest) then .literalEntry else .strayEntry) t.head

abbrev Visitor (σ : Type) := Path → List Token → σ → Except Fault (σ × List Token)

-- Goes through the entries. A fault ends the list, but what was gathered before it is kept.
def visit {σ : Type} (scope : Span) (visitor : Visitor σ) :
    Nat → List Token → σ → σ × Option Fault
  | 0, _, s => (s, none)
  | n + 1, ts, s =>
    match readPath scope ts with
    | .error f => (s, some f)
    | .ok (path, ts) =>
      match visitor path ts s with
      | .error f => (s, some f)
      | .ok (s, []) => (s, none)
      | .ok (s, t :: rest) =>
        match readPunct scope ',' (t :: rest) with
        | .error f => (s, some f)
        | .ok [] => (s, none)
        | .ok ts => visit scope visitor n ts s

def visitSome {σ : Type} (scope : Span) (visitor : Visitor σ) (ts : List Token) (s : σ) :
    σ × Option Fault :=
  visit scope visitor (ts.length + 1) ts s

def visitAny {σ : Type} (scope : Span) (visitor : Visitor σ) (ts : List Token) (s : σ) :
    σ × Option Fault :=
  if ts.isEmpty then (s, none) else visitSome scope visitor ts s

def result {σ : Type} (r : σ × Option Fault) : Except Fault σ :=
  match r with
  | (s, none) => .ok s
  | (_, some f) => .error f

def visitArguments {σ : Type} (a : Attribute) (visitor : Span → Visitor σ) (s : σ) :
    σ × Option Fault :=
  match a.arguments with
  | .absent => (s, some ⟨.noArguments (renderTokens a.path.tokens), a.path.span⟩)
  | .value equals _ => (s, some ⟨.valueForArguments (renderTokens a.path.tokens), equals⟩)
  | .list _ _ closed body => visitAny closed (visitor closed) body s

def readString (scope : Span) (ts : List Token) : Except Fault (String × List Token) :=
  match ts with
  | .literal text _ :: rest =>
    match Text.unquote? text with
    | some value => .ok (value, rest)
    | none => faultAt scope ts .missingString
  | _ => faultAt scope ts .missingString

def readName (scope : Span) (ts : List Token) : Except Fault (Ident × List Token) :=
  match ts with
  | .ident i :: rest =>
    if Ahead.reserved.contains i.text then fault (.reservedName i.text) i.span else .ok (i, rest)
  | _ => faultAt scope ts .missingName

end Accessors.Entries
