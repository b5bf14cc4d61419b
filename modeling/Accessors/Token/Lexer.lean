import Accessors.Token.Basic
import Accessors.Token.Literal

namespace Accessors

open Text

structure Cursor where
  position : Position
  rest : List Char

namespace Cursor

def ofSource (source : String) : Cursor where
  position := .first
  rest := source.toList

def before (c : Cursor) (rest : List Char) : List Char :=
  c.rest.take (c.rest.length - rest.length)

def moveTo (c : Cursor) (rest : List Char) : Cursor where
  position := c.position.advance (c.before rest)
  rest := rest

def spanTo (c d : Cursor) : Span where
  start := c.position
  stop := d.position

end Cursor

-- What a source is made of before its delimiters are matched. A documentation comment stands for
-- several tokens.
inductive Lexeme
  | opening (delimiter : Delimiter) (span : Span)
  | closing (delimiter : Delimiter) (span : Span)
  | leaf (tokens : List Token)

namespace Lexer

-- Blanks, and the two marks that set the direction of a text.
def isSpace (c : Char) : Bool :=
  isBlank c || c == '\u200e' || c == '\u200f'

def opens (opening : String) (cs : List Char) : Bool :=
  opening.toList.isPrefixOf cs

-- What is behind a block comment, whose opening mark is already read. Such comments nest.
def blockEnd (depth : Nat) : Scan
  | '/' :: '*' :: rest => blockEnd (depth + 1) rest
  | '*' :: '/' :: rest =>
    match depth with
    | 0 => some rest
    | depth + 1 => blockEnd depth rest
  | _ :: rest => blockEnd depth rest
  | [] => none

def lineEnd : List Char → List Char × List Char
  | [] => ([], [])
  | '\n' :: rest => ([], '\n' :: rest)
  | '\r' :: '\n' :: rest => ([], '\n' :: rest)
  | c :: rest => ((c :: (lineEnd rest).1), (lineEnd rest).2)

theorem blockEnd_length {depth : Nat} {cs rest : List Char} (h : blockEnd depth cs = some rest) :
    rest.length < cs.length := by
  fun_induction blockEnd depth cs <;> grind

theorem lineEnd_length (cs : List Char) : (lineEnd cs).2.length ≤ cs.length := by
  fun_induction lineEnd cs <;> grind

-- Comments that document nothing: `///` and `/**` do, but one more character undoes it.
def isPlainLine (cs : List Char) : Bool :=
  opens "//" cs && (!opens "///" cs || opens "////" cs) && !opens "//!" cs

def isPlainBlock (cs : List Char) : Bool :=
  opens "/*" cs && (!opens "/**" cs || opens "/***" cs || opens "/**/" cs) && !opens "/*!" cs

-- A comment without an end is left in place, where no lexeme begins with it.
def skipSpace (cs : List Char) : List Char :=
  if isPlainLine cs then
    have := lineEnd_length (cs.drop 2)
    if _h : 2 ≤ cs.length then skipSpace (lineEnd (cs.drop 2)).2 else cs
  else if isPlainBlock cs then
    match h : blockEnd 0 (cs.drop 2) with
    | some rest =>
      have := blockEnd_length h
      skipSpace rest
    | none => cs
  else
    match cs with
    | c :: rest => if isSpace c then skipSpace rest else c :: rest
    | [] => []
termination_by cs.length
decreasing_by
  all_goals
    simp_all only [List.length_drop, List.length_cons]
    omega

theorem skipSpace_length (cs : List Char) : (skipSpace cs).length ≤ cs.length := by
  fun_induction skipSpace cs <;> grind [lineEnd_length, blockEnd_length]

def documentation? (cs : List Char) : Option (List Char × Bool × List Char) :=
  if opens "//!" cs then some (line true)
  else if opens "///" cs && !opens "////" cs then some (line false)
  else if opens "/*!" cs then block true
  else if opens "/**" cs && !opens "/***" cs then block false
  else none
where
  line (inner : Bool) : List Char × Bool × List Char :=
    let (text, rest) := lineEnd (cs.drop 3)
    (text, inner, rest)
  block (inner : Bool) : Option (List Char × Bool × List Char) := do
    let rest ← blockEnd 0 (cs.drop 2)
    let text := (cs.drop 3).take (cs.length - rest.length - 5)
    pure (text, inner, rest)

def hasBareReturn : List Char → Bool
  | '\r' :: '\n' :: rest => hasBareReturn rest
  | '\r' :: _ => true
  | _ :: rest => hasBareReturn rest
  | [] => false

-- The attribute that a documentation comment stands for. All of it is where the comment is.
def documentationTokens (text : List Char) (inner : Bool) (span : Span) : List Token :=
  let first : Span := ⟨span.start, { span.start with column := span.start.column + 1 }⟩
  let last : Span := ⟨{ span.stop with column := span.stop.column - 1 }, span.stop⟩
  [.punct '#' .alone span] ++ (if inner then [.punct '!' .alone span] else []) ++
    [.group .bracket first last
      [.ident ⟨"doc", false, span⟩, .punct '=' .alone span,
        .literal (quote (String.ofList text)) span]]

def documentation (c : Cursor) : Option (Lexeme × List Char) := do
  let (text, inner, rest) ← documentation? c.rest
  if hasBareReturn text then none
  else pure (.leaf (documentationTokens text inner (c.spanTo (c.moveTo rest))), rest)

-- The punctuation character that a text opens with. The mark of a comment is none.
def punctuation? (cs : List Char) : Option (Char × List Char) :=
  match cs with
  | c :: rest =>
    if opens "//" cs || opens "/*" cs then none
    else if c ∈ "~!@#$%^&*-=+|;:,<.>/?'".toList then some (c, rest)
    else none
  | [] => none

def rawMark (cs : List Char) : Bool :=
  opens "r#" cs

-- The name of an identifier, and what follows. Path keywords cannot be raw.
def identifier? (cs : List Char) : Option (String × Bool × List Char) := do
  let body := if rawMark cs then cs.drop 2 else cs
  let rest ← Scan.identifier body
  let name := String.ofList (body.take (body.length - rest.length))
  if rawMark cs && ["_", "super", "self", "Self", "crate"].contains name then none
  else pure (name, rawMark cs, rest)

-- Where a quoted literal seems to begin, there is no identifier.
def opensQuoted (cs : List Char) : Bool :=
  ["r\"", "r#\"", "r##", "b\"", "b\'", "br\"", "br#", "c\"", "cr\"", "cr#"].any (opens · cs)

-- The apostrophe of a lifetime is always joint with its name.
def punctuation (c : Cursor) : Option (Token × List Char) := do
  let (char, rest) ← punctuation? c.rest
  let span := c.spanTo (c.moveTo rest)
  if char = '\'' then
    let (_, raw, behind) ← identifier? rest
    if opens "'" behind || (opens "#" behind && !raw) then none
    else pure (.punct char .joint span, rest)
  else if (punctuation? rest).isSome then pure (.punct char .joint span, rest)
  else pure (.punct char .alone span, rest)

def identifier (c : Cursor) : Option (Token × List Char) :=
  if opensQuoted c.rest then none
  else do
    let (name, raw, rest) ← identifier? c.rest
    pure (.ident ⟨name, raw, c.spanTo (c.moveTo rest)⟩, rest)

def literal (c : Cursor) : Option (Token × List Char) := do
  let rest ← Scan.literal c.rest
  pure (.literal (String.ofList (c.before rest)) (c.spanTo (c.moveTo rest)), rest)

-- What stands for source text that could not be read counts as a literal.
def placeholder : String := "(/*ERROR*/)"

def unread (c : Cursor) : Option (Token × List Char) :=
  let rest := c.rest.drop placeholder.length
  if opens placeholder c.rest then
    some (.literal placeholder (c.spanTo (c.moveTo rest)), rest)
  else none

def bracket (c : Cursor) : Option (Lexeme × List Char) :=
  match c.rest with
  | char :: rest =>
    let span := c.spanTo (c.moveTo rest)
    match Delimiter.ofOpening? char, Delimiter.ofClosing? char with
    | some d, _ => if opens placeholder c.rest then none else some (.opening d span, rest)
    | none, some d => some (.closing d span, rest)
    | none, none => none
  | [] => none

def leaf (c : Cursor) : Option (Lexeme × List Char) := do
  let (token, rest) ← literal c <|> punctuation c <|> identifier c <|> unread c
  pure (.leaf [token], rest)

def lexemes (c : Cursor) : Option (List Lexeme) :=
  let start := c.moveTo (skipSpace c.rest)
  if start.rest.isEmpty then some []
  else
    match documentation start <|> bracket start <|> leaf start with
    | some (lexeme, rest) =>
      if rest.length < start.rest.length then
        (lexeme :: ·) <$> lexemes (start.moveTo rest)
      else none
    | none => none
termination_by c.rest.length
decreasing_by
  have := skipSpace_length c.rest
  simp_all only [Cursor.moveTo, start]
  omega

-- A group whose closing delimiter is still to come, and the tokens before it in reverse.
structure Frame where
  delimiter : Delimiter
  opened : Span
  before : List Token

def nest (frames : List Frame) (read : List Token) : List Lexeme → Option (List Token)
  | [] => if frames.isEmpty then some read.reverse else none
  | .leaf tokens :: rest => nest frames (tokens.reverse ++ read) rest
  | .opening d span :: rest => nest (⟨d, span, read⟩ :: frames) [] rest
  | .closing d span :: rest =>
    match frames with
    | frame :: frames =>
      if frame.delimiter = d then
        nest frames (.group d frame.opened span read.reverse :: frame.before) rest
      else none
    | [] => none

end Lexer

-- The tokens of a source text, unless it holds something that is no token. A byte order mark may
-- stand in front.
def tokenize? (source : String) : Option (List Token) :=
  let start := Cursor.ofSource source
  let start := if start.rest.head? = some '\ufeff' then start.moveTo (start.rest.drop 1) else start
  (Lexer.lexemes start).bind (Lexer.nest [] [])

end Accessors
