import Accessors.Source.Span

namespace Accessors

inductive Spacing
  | alone
  | joint
deriving DecidableEq

inductive Delimiter
  | paren
  | bracket
  | brace
deriving DecidableEq

namespace Delimiter

def opening : Delimiter → Char
  | paren => '('
  | bracket => '['
  | brace => '\x7b'

def closing : Delimiter → Char
  | paren => ')'
  | bracket => ']'
  | brace => '\x7d'

def ofOpening? (c : Char) : Option Delimiter :=
  [paren, bracket, brace].find? (·.opening == c)

def ofClosing? (c : Char) : Option Delimiter :=
  [paren, bracket, brace].find? (·.closing == c)

end Delimiter

-- An identifier is raw if it is written with the mark `r#`, which is no part of its name.
structure Ident where
  name : String
  raw : Bool
  span : Span
deriving DecidableEq

namespace Ident

def text (i : Ident) : String :=
  if i.raw then "r#" ++ i.name else i.name

end Ident

inductive Token where
  | ident (ident : Ident)
  | punct (char : Char) (spacing : Spacing) (span : Span)
  | literal (text : String) (span : Span)
  | group (delimiter : Delimiter) (opened closed : Span) (body : List Token)

namespace Token

def span : Token → Span
  | ident i => i.span
  | punct _ _ s => s
  | literal _ s => s
  | group _ o c _ => o.upTo c

-- Where the token begins. Of a group, this is the opening delimiter.
def head : Token → Span
  | group _ o _ _ => o
  | t => t.span

end Token

end Accessors
