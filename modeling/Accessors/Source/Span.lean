namespace Accessors

-- A place in a source text: lines count from one, columns count characters from zero.
structure Position where
  line : Nat
  column : Nat
deriving DecidableEq

namespace Position

def first : Position where
  line := 1
  column := 0

def step (p : Position) (c : Char) : Position :=
  if c = '\n' then { line := p.line + 1, column := 0 } else { p with column := p.column + 1 }

def advance (p : Position) (cs : List Char) : Position :=
  cs.foldl step p

end Position

-- The text from `start` up to, but not including, `stop`.
structure Span where
  start : Position
  stop : Position
deriving DecidableEq

namespace Span

def unlocated : Span where
  start := .first
  stop := .first

def upTo (s t : Span) : Span where
  start := s.start
  stop := t.stop

end Span

end Accessors
