import Accessors.Code.Basic

namespace Accessors

-- A generic parameter. A bound is kept with its colon and a default with its equals sign, and
-- either of them is empty if there is none.
structure Parameter where
  lifetime : Bool
  attributes : List Attribute
  introducer : List Token
  name : List Token
  bound : Code
  default : Code

namespace Parameter

def introduced (p : Parameter) : Code :=
  Attribute.code p.attributes ++ Code.ofTokens (p.introducer ++ p.name) ++ p.bound

def code (p : Parameter) : Code :=
  p.introduced ++ p.default

def argument (p : Parameter) : Code :=
  Code.ofTokens p.name

end Parameter

-- The parameters of a declaration. A list without parameters is as good as none.
abbrev Generics := Listed Parameter

namespace Generics

def none : Generics where
  items := []
  trailing := false

def isEmpty (g : Generics) : Bool :=
  g.items.isEmpty

def write (f : Parameter → Code) (g : Generics) : Code :=
  if g.isEmpty then []
  else
    let parameters : Listed (Bool × Code) := ⟨g.items.map fun p => (p.lifetime, f p), g.trailing⟩
    Code.ofTokens (Token.operator "<") ++ parameters.codeLifetimesFirst ++
      Code.ofTokens (Token.operator ">")

def code (g : Generics) : Code :=
  g.write Parameter.code

-- The list behind `impl`, which has no defaults.
def introduced (g : Generics) : List Token :=
  (g.write Parameter.introduced).tokens

def arguments (g : Generics) : List Token :=
  (g.write Parameter.argument).tokens

end Generics

end Accessors
