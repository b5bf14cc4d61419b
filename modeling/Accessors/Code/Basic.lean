import Accessors.Token.Build

namespace Accessors

-- A path of plain names, such as the one that an attribute begins with. It is global if it begins
-- with `::`.
structure Path where
  «global» : Bool
  segments : List Ident

namespace Path

def tokens (p : Path) : List Token :=
  (if p.global then Token.operator "::" else []) ++
    separate (Token.operator "::") (p.segments.map fun i => [.ident i])

def name? (p : Path) : Option Ident :=
  match p.global, p.segments with
  | false, [i] => some i
  | _, _ => none

-- From the first segment to the last one. A leading `::` does not count.
def span (p : Path) : Span :=
  match p.segments with
  | [] => .unlocated
  | i :: rest => i.span.upTo ((rest.getLast?.getD i).span)

end Path

mutual

inductive Arguments where
  | absent
  | list (delimiter : Delimiter) (opened closed : Span) (body : List Token)
  | value (equals : Span) (value : List Piece)

-- An attribute is inner if it is about what encloses it. Then a `!` stands behind its hash.
structure Attribute where
  inner : Bool
  hash : Span
  opened : Span
  closed : Span
  path : Path
  arguments : Arguments

-- The parts of a piece of code are not always written in the order in which they are met.
inductive Piece where
  | token (token : Token)
  | group (delimiter : Delimiter) (opened closed : Span) (body : List Piece)
  | attr (a : Attribute)
  -- Things with commas between them, and which of them are lifetimes. Those are written first.
  | lifetimesFirst (items : List (Bool × List Piece)) (trailing : Bool)
  -- The clause is written last, but it is met first.
  | constrained (subject clause : List Piece)
  -- The inner attributes are written in front of the body, but they are met before the head.
  | headed (head : List Piece) (opened closed : Span) (inner body : List Piece)
  | declaration (attributes : List Attribute) (head : List Token) (name : Ident) (body : List Piece)

end

abbrev Code := List Piece

-- Things in a row, each but the last with a separator behind it. The last one may have one too.
structure Listed (α : Type) where
  items : List α
  trailing : Bool

namespace Listed

def marked {α : Type} (l : Listed α) : List (α × Bool) :=
  match l.items.reverse with
  | [] => []
  | last :: rest => (rest.map fun a => (a, true)).reverse ++ [(last, l.trailing)]

-- The things that are lifetimes are written before the others, whatever order they were given in.
def writeLifetimesFirst (l : Listed (Bool × List Token)) : List Token :=
  let comma := Token.operator ","
  let write (ms : List ((Bool × List Token) × Bool)) :=
    ms.flatMap fun ((_, ts), more) => ts ++ if more then comma else []
  let (lifetimes, others) := l.marked.partition fun ((isLifetime, _), _) => isLifetime
  let missing := !others.isEmpty && (lifetimes.getLast?.any fun (_, more) => !more)
  write lifetimes ++ (if missing then comma else []) ++ write others

end Listed

mutual

def Piece.tokens : Piece → List Token
  | .token t => [t]
  | .group d o c body => [.group d o c (Code.tokens body)]
  | .attr a => a.tokens
  | .lifetimesFirst items trailing => Listed.writeLifetimesFirst ⟨Code.tokensOf items, trailing⟩
  | .constrained subject clause => Code.tokens subject ++ Code.tokens clause
  | .headed head o c inner body =>
    Code.tokens head ++ [.group .brace o c (Code.tokens inner ++ Code.tokens body)]
  | .declaration attributes head name body =>
    Attribute.tokensOf attributes ++ head ++ [.ident name] ++ Code.tokens body

def Code.tokens : Code → List Token
  | [] => []
  | p :: rest => p.tokens ++ Code.tokens rest

def Code.tokensOf : List (Bool × Code) → List (Bool × List Token)
  | [] => []
  | (isLifetime, c) :: rest => (isLifetime, Code.tokens c) :: Code.tokensOf rest

def Attribute.tokens : Attribute → List Token
  | ⟨inner, hash, opened, closed, path, arguments⟩ =>
    [.punct '#' .alone hash] ++ (if inner then Token.operator "!" else []) ++
      [.group .bracket opened closed (path.tokens ++ arguments.tokens)]

def Attribute.tokensOf : List Attribute → List Token
  | [] => []
  | a :: rest => a.tokens ++ Attribute.tokensOf rest

def Arguments.tokens : Arguments → List Token
  | .absent => []
  | .list d o c body => [.group d o c body]
  | .value equals value => .punct '=' .alone equals :: Code.tokens value

end

theorem Attribute.tokens_eq (a : Attribute) :
    a.tokens = [.punct '#' .alone a.hash] ++ (if a.inner then Token.operator "!" else []) ++
      [.group .bracket a.opened a.closed (a.path.tokens ++ a.arguments.tokens)] := by
  cases a
  rfl

def Attribute.span (a : Attribute) : Span :=
  a.hash.upTo a.closed

-- Code that holds no declaration, or that is not looked into.
def Code.ofTokens (ts : List Token) : Code :=
  ts.map .token

theorem Code.tokens_append (c d : Code) :
    Code.tokens (c ++ d) = Code.tokens c ++ Code.tokens d := by
  induction c with
  | nil => rfl
  | cons p c ih => simp [Code.tokens, ih]

theorem Code.tokens_ofTokens (ts : List Token) : Code.tokens (Code.ofTokens ts) = ts := by
  induction ts with
  | nil => rfl
  | cons t ts ih => simp_all [Code.ofTokens, Code.tokens, Piece.tokens]

theorem Code.tokensOf_eq_map (items : List (Bool × Code)) :
    Code.tokensOf items = items.map fun (isLifetime, c) => (isLifetime, Code.tokens c) := by
  induction items with
  | nil => rfl
  | cons x items ih => simp [Code.tokensOf, ih]

def Attribute.code (as : List Attribute) : Code :=
  as.map .attr

theorem Attribute.tokens_code (as : List Attribute) :
    Code.tokens (Attribute.code as) = as.flatMap Attribute.tokens := by
  induction as with
  | nil => rfl
  | cons a as ih => simp_all [Attribute.code, Code.tokens, Piece.tokens]

namespace Listed

def code {α : Type} (separator : String) (f : α → Code) (l : Listed α) : Code :=
  l.marked.flatMap fun (a, more) =>
    f a ++ if more then Code.ofTokens (Token.operator separator) else []

def codeLifetimesFirst (l : Listed (Bool × Code)) : Code :=
  [.lifetimesFirst l.items l.trailing]

end Listed

end Accessors
