import Accessors.Code.Item

namespace Accessors

inductive Access
  | named (name : Ident)
  | indexed (index : UInt32)

def Access.token : Access → Token
  | named name => .ident name
  | indexed index => .number index.toNat

-- A field of a struct. Its name is without the raw mark, or it is its position in decimal.
structure Member where
  position : Nat
  name : String
  access : Access
  type : List Token

def Fields.members : Fields → List Member
  | named fields => fields.items.zipIdx.map fun ((name, field), position) =>
      ⟨position, name.name, .named name, field.type.tokens⟩
  | tuple fields => fields.items.zipIdx.map fun (field, position) =>
      ⟨position, toString position, .indexed (UInt32.ofNat position), field.type.tokens⟩
  | unit => []

def Declaration.members? (d : Declaration) : Option (List Member) :=
  match d.shape with
  | .struct fields => some fields.members
  | _ => none

-- A declaration together with the names of the modules around it, outermost first.
structure Candidate where
  modules : List String
  declaration : Declaration

end Accessors
