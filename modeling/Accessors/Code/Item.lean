import Accessors.Code.Declaration

namespace Accessors

structure ModuleHead where
  attributes : List Attribute
  inner : List Attribute
  qualifiers : List Token
  name : Ident

def ModuleHead.code (h : ModuleHead) : Code :=
  Attribute.code h.attributes ++ Code.ofTokens (h.qualifiers ++ [.word "mod", .ident h.name])

-- An item of a module. Of the items that are neither declarations nor modules, some are looked
-- into, and the others are kept verbatim.
inductive Item where
  | declaration (declaration : Declaration)
  | inline (head : ModuleHead) (items : List Item)
  | outOfLine (head : ModuleHead)
  | code (code : Code)
  | verbatim (tokens : List Token)

mutual

def Item.pieces : Item → Code
  | .declaration d => [d.piece]
  | .inline h items =>
    h.code ++
      [.group .brace .unlocated .unlocated (Attribute.code h.inner ++ Item.piecesOf items)]
  | .outOfLine h => h.code ++ Code.ofTokens (Token.operator ";")
  | .code c => c
  | .verbatim ts => Code.ofTokens ts

def Item.piecesOf : List Item → Code
  | [] => []
  | i :: rest => i.pieces ++ Item.piecesOf rest

end

structure Module where
  head : ModuleHead
  items : Option (List Item)

namespace Module

def item (m : Module) : Item :=
  match m.items with
  | some items => .inline m.head items
  | none => .outOfLine m.head

def tokens (m : Module) : List Token :=
  m.item.pieces.tokens

end Module

end Accessors
