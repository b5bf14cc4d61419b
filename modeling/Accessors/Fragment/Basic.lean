import Accessors.Fragment.Method

namespace Accessors

structure Fragment where
  modules : List String
  name : String
  tokens : List Token

namespace Fragment

-- The file that holds a fragment. Modules without a name do not count.
def fileNameOf (modules : List String) (name : String) : String :=
  String.join ((modules.filter (· != "")).map (· ++ "/")) ++ name ++ "_memberaccess.rs"

def fileName (f : Fragment) : String :=
  fileNameOf f.modules f.name

def text (f : Fragment) : String :=
  renderTokens f.tokens

end Fragment

namespace Declaration

-- `#[allow(dead_code)] impl<…> Name<…> where …`
def implHead (d : Declaration) : List Token :=
  Token.operator "#" ++
    [.enclosed .bracket [.word "allow", .enclosed .paren [.word "dead_code"]], .word "impl"] ++
    d.generics.introduced ++ [.ident d.name] ++ d.generics.arguments ++ d.clause.tokens

def implTokens (d : Declaration) (members : List Member) (s : Capabilities) : List Token :=
  let value := Value.of members d.generics
  d.implHead ++
    [.enclosed .brace
      (s.toList.flatMap fun c => (Method.of d.name.name members c).tokens value)]

end Declaration

def Candidate.fragment? (c : Candidate) (members : List Member) (s : Capabilities) :
    Option Fragment :=
  if s.isEmpty then none
  else some ⟨c.modules, c.declaration.name.name, c.declaration.implTokens members s⟩

end Accessors
