import Accessors.Candidate
import Accessors.Token.Printer

namespace Accessors

-- Either the one type that all fields have, or any type at all. In the second case, some types have
-- to be sized, and they must not borrow.
inductive Value
  | common (type : List Token)
  | erased (bounded : List (List Token))

namespace Value

def sameType (s t : List Token) : Bool :=
  renderTokens s == renderTokens t

def distinct : List (List Token) → List (List Token)
  | [] => []
  | t :: rest => t :: (distinct rest).filter fun s => !sameType s t

def of (members : List Member) (generics : Generics) : Value :=
  match members with
  | [] => erased []
  | m :: rest =>
    if rest.all fun n => sameType n.type m.type then common m.type
    else erased (if generics.isEmpty then [] else distinct (members.map (·.type)))

-- `dyn ::core::any::Any`
def anyType : List Token :=
  [.word "dyn"] ++ Token.operator "::" ++ [.word "core"] ++ Token.operator "::" ++ [.word "any"] ++
    Token.operator "::" ++ [.word "Any"]

def type : Value → List Token
  | common type => type
  | erased _ => anyType

def reference (v : Value) (access : Access) : List Token :=
  let field := Token.operator "&" ++ [.word "self"] ++ Token.operator "." ++ [access.token]
  match v with
  | common _ => field
  | erased _ => field ++ [.word "as"] ++ Token.operator "&" ++ anyType

-- `T: ::core::marker::Sized + 'static`
def bound (type : List Token) : List Token :=
  type ++ Token.operator ":" ++ Token.operator "::" ++ [.word "core"] ++ Token.operator "::" ++
    [.word "marker"] ++ Token.operator "::" ++ [.word "Sized"] ++ Token.operator "+" ++
    Token.lifetime "static"

def clause : Value → List Token
  | common _ => []
  | erased [] => []
  | erased (t :: rest) =>
    .word "where" :: separate (Token.operator ",") ((t :: rest).map bound)

end Value

end Accessors
