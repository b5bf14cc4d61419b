namespace Accessors

abbrev Location := String

namespace Location

def isRelative (l : Location) : Bool :=
  !l.startsWith "/"

def join (l m : Location) : Location :=
  if !isRelative m then m
  else if l.isEmpty || l.endsWith "/" then l ++ m
  else l ++ "/" ++ m

-- The names in a location. Neither an empty one nor a single point leads anywhere.
def names (l : Location) : List String :=
  ((l.toList.splitOn '/').map String.ofList).filter fun n => n != "" && n != "."

def trimReversed : List Char → List Char
  | ['/'] => ['/']
  | '/' :: rest => trimReversed rest
  | '.' :: '/' :: rest => trimReversed ('/' :: rest)
  | cs => cs

-- What is left of a location without its last name. An empty location and the root have no parent.
def parent? (l : Location) : Option Location :=
  match trimReversed l.toList.reverse with
  | [] => none
  | ['/'] => none
  | cs => some (String.ofList (trimReversed (cs.dropWhile (· != '/'))).reverse)

end Location

end Accessors
