import Accessors.Code.Generics

namespace Accessors

structure Field where
  attributes : List Attribute
  visibility : List Token
  type : Code

def Field.head (f : Field) : Code :=
  Attribute.code f.attributes ++ Code.ofTokens f.visibility

inductive Fields
  | named (fields : Listed (Ident × Field))
  | tuple (fields : Listed Field)
  | unit

inductive Kind
  | struct
  | enum
  | union
deriving DecidableEq

def Kind.text : Kind → String
  | struct => "struct"
  | enum => "enum"
  | union => "union"

-- The fields of a union are there, but only those of a struct can be accessed.
inductive Shape
  | struct (fields : Fields)
  | enum (variants : Code)
  | union (fields : Listed (Ident × Field))

def Shape.kind : Shape → Kind
  | struct _ => .struct
  | enum _ => .enum
  | union _ => .union

structure Declaration where
  attributes : List Attribute
  visibility : List Token
  name : Ident
  generics : Generics
  clause : Code
  shape : Shape

namespace Fields

def bracedNamed (fields : Listed (Ident × Field)) : Piece :=
  .group .brace .unlocated .unlocated <| fields.code "," fun (name, f) =>
    f.head ++ Code.ofTokens (.ident name :: Token.operator ":") ++ f.type

def parenthesised (fields : Listed Field) : Piece :=
  .group .paren .unlocated .unlocated <| fields.code "," fun f => f.head ++ f.type

end Fields

namespace Declaration

def kind (d : Declaration) : Kind :=
  d.shape.kind

def head (d : Declaration) : List Token :=
  d.visibility ++ [.word d.kind.text]

-- What follows the name. The where clause comes before named fields, but behind tuple fields.
def body (d : Declaration) : Code :=
  d.generics.code ++
    match d.shape with
    | .struct (.named fields) => d.clause ++ [Fields.bracedNamed fields]
    | .struct (.tuple fields) =>
      .constrained [Fields.parenthesised fields] d.clause :: Code.ofTokens (Token.operator ";")
    | .struct .unit => d.clause ++ Code.ofTokens (Token.operator ";")
    | .enum variants => d.clause ++ [.group .brace .unlocated .unlocated variants]
    | .union fields => d.clause ++ [Fields.bracedNamed fields]

def piece (d : Declaration) : Piece :=
  .declaration d.attributes d.head d.name d.body

end Declaration

end Accessors
