import Accessors.Capability
import Accessors.Fragment.Value

namespace Accessors

-- What an accessor does: it looks for the first arm with the given index or name, or it lists names
-- and fields. Where no arm fits, it panics and names the declaration.
inductive Method
  | byIndex (owner : String) (arms : List (Nat × Access))
  | byName (owner : String) (arms : List (String × Access))
  | enumerate (count : Nat) (pairs : List (String × Access))

namespace Method

def of (owner : String) (members : List Member) : Capability → Method
  | .byIndex => byIndex owner (members.map fun m => (m.position, m.access))
  | .byName => byName owner (members.map fun m => (m.name, m.access))
  | .enumerate => enumerate members.length (members.map fun m => (m.name, m.access))

def documentation : Method → List String
  | byIndex _ _ =>
    [" Member at `index`, counting fields in declaration order.", "", " # Panics", "",
      " Panics when `index` is not a declared field position."]
  | byName _ _ =>
    [" Member whose declared name is exactly `name`.", "", " # Panics", "",
      " Panics when no field is declared under `name`."]
  | enumerate _ _ =>
    [" Every `(name, value)` pair in declaration order. Each call starts a new pass."]

def documentationTokens (line : String) : List Token :=
  Token.operator "#" ++
    [.enclosed .bracket
      ([.word "doc"] ++ Token.operator "=" ++ [.literal ("r\"" ++ line ++ "\"") .unlocated])]

def globalPath (names : List String) : List Token :=
  names.flatMap fun name => Token.operator "::" ++ [.word name]

-- `get(&self, key: type) -> &value`
def lookupHead (name key : String) (keyType : List Token) (v : Value) : List Token :=
  [.word "pub", .word "fn", .word name,
    .enclosed .paren (Token.operator "&" ++ [.word "self"] ++ Token.operator "," ++ [.word key] ++
      Token.operator ":" ++ keyType)] ++
    Token.operator "->" ++ Token.operator "&" ++ v.type ++ v.clause

-- `pattern => result,`
def arm (pattern : Token) (result : List Token) : List Token :=
  [pattern] ++ Token.operator "=>" ++ result ++ Token.operator ","

def unreachable (message key : String) : List Token :=
  globalPath ["core", "unreachable"] ++ Token.operator "!" ++
    [.enclosed .paren ([.string message] ++ Token.operator "," ++ [.word key])]

def lookupBody (key message : String) (arms : List (Token × Access)) (v : Value) : List Token :=
  [.word "match", .word key,
    .enclosed .brace ((arms.flatMap fun (pattern, access) => arm pattern (v.reference access)) ++
      arm (.word "_") (unreachable message key))]

-- `(&'static str, &value)`
def pairType (v : Value) : Token :=
  .enclosed .paren (Token.operator "&" ++ Token.lifetime "static" ++ [.word "str"] ++
    Token.operator "," ++ Token.operator "&" ++ v.type)

def enumerateHead (v : Value) : List Token :=
  [.word "pub", .word "fn", .word "enumerate_members",
    .enclosed .paren (Token.operator "&" ++ [.word "self"])] ++
    Token.operator "->" ++ [.word "impl"] ++ globalPath ["core", "iter", "Iterator"] ++
    Token.operator "<" ++ [.word "Item"] ++ Token.operator "=" ++ [pairType v] ++
    Token.operator ">" ++ Token.operator "+" ++ Token.lifetime "_" ++ v.clause

-- `("name", &self.field)`
def pair (name : String) (access : Access) (v : Value) : Token :=
  .enclosed .paren ([.string name] ++ Token.operator "," ++ v.reference access)

def enumerateBody (count : Nat) (pairs : List (String × Access)) (v : Value) : List Token :=
  [.word "let", .word "members"] ++ Token.operator ":" ++
    [.enclosed .bracket ([pairType v] ++ Token.operator ";" ++ [.number count])] ++
    Token.operator "=" ++
    [.enclosed .bracket
      (separate (Token.operator ",") (pairs.map fun (name, access) => [pair name access v]))] ++
    Token.operator ";" ++
    globalPath ["core", "iter", "IntoIterator", "into_iter"] ++
    [.enclosed .paren [.word "members"]]

def outOfRange (owner : String) : String :=
  "member index \x7b\x7d is out of range for `" ++ owner ++ "`"

def notNamed (owner : String) : String :=
  "no member named \x7b:?\x7d in `" ++ owner ++ "`"

def head (m : Method) (v : Value) : List Token :=
  m.documentation.flatMap documentationTokens ++
    match m with
    | byIndex _ _ => lookupHead "get_member" "index" [.word "usize"] v
    | byName _ _ => lookupHead "get_member_by_name" "name" (Token.operator "&" ++ [.word "str"]) v
    | enumerate _ _ => enumerateHead v

def body (m : Method) (v : Value) : List Token :=
  match m with
  | byIndex owner arms =>
    lookupBody "index" (outOfRange owner) (arms.map fun (i, a) => (.number i, a)) v
  | byName owner arms =>
    lookupBody "name" (notNamed owner) (arms.map fun (n, a) => (.string n, a)) v
  | enumerate count pairs => enumerateBody count pairs v

def tokens (m : Method) (v : Value) : List Token :=
  m.head v ++ [.enclosed .brace (m.body v)]

end Method

end Accessors
