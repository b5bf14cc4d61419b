import Accessors.Disk.Location

namespace Accessors

inductive Entry
  | directory
  | file (text : String)
deriving DecidableEq

inductive DiskProblem
  | missing
  | occupied
  | notDirectory
  | isDirectory
  | nameTooLong
  | nulInName
deriving DecidableEq

def DiskProblem.message : DiskProblem → String
  | missing => "No such file or directory (os error 2)"
  | occupied => "File exists (os error 17)"
  | notDirectory => "Not a directory (os error 20)"
  | isDirectory => "Is a directory (os error 21)"
  | nameTooLong => "File name too long (os error 36)"
  | nulInName => "file name contained an unexpected NUL byte"

-- The entries below a root directory that is always there. An entry is found under the names that
-- lead to it.
structure Disk where
  entries : List (List String × Entry)

namespace Disk

def blank : Disk where
  entries := []

def get? (d : Disk) (names : List String) : Option Entry :=
  if names.isEmpty then some .directory else d.entries.lookup names

def put (d : Disk) (names : List String) (e : Entry) : Disk where
  entries := (names, e) :: d.entries.filter (·.1 != names)

def isDirectory (d : Disk) (names : List String) : Bool :=
  d.get? names == some .directory

-- The longest name and the longest location, in bytes.
def maxName : Nat := 255
def maxLocation : Nat := 4095

-- Follows names from a directory to another one. Two points lead back, at the root to the root.
def follow (d : Disk) (start : List String) : List String → Except DiskProblem (List String)
  | [] => .ok start
  | name :: rest =>
    if name = ".." then d.follow start.dropLast rest
    else if maxName < name.utf8ByteSize then .error .nameTooLong
    else
      match d.get? (start ++ [name]) with
      | some .directory => d.follow (start ++ [name]) rest
      | some (.file _) => .error .notDirectory
      | none => .error .missing

-- The directory that the last name of a location is in, and that name. There is no such name if
-- the location ends in points, or if it is the root.
def locate (d : Disk) (l : Location) : Except DiskProblem (List String × Option String) := do
  if l.toList.contains '\x00' then .error .nulInName
  else if l.isEmpty then .error .missing
  else if maxLocation < l.utf8ByteSize then .error .nameTooLong
  else
    let dotted := l.endsWith "/." || l == "." || l.names.getLast? == some ".."
    if dotted || l.names.isEmpty then
      return (← d.follow [] l.names, none)
    else
      let directory ← d.follow [] l.names.dropLast
      let name := l.names.getLast?.getD ""
      if maxName < name.utf8ByteSize then .error .nameTooLong else return (directory, some name)

def leadsToDirectory (d : Disk) (l : Location) : Bool :=
  match d.locate l with
  | .ok (_, none) => true
  | .ok (directory, some name) => d.isDirectory (directory ++ [name])
  | .error _ => false

def makeDirectory (d : Disk) (l : Location) : Except DiskProblem Disk := do
  match ← d.locate l with
  | (_, none) => .error .occupied
  | (directory, some name) =>
    match d.get? (directory ++ [name]) with
    | some _ => .error .occupied
    | none => .ok (d.put (directory ++ [name]) .directory)

def ensureDirectory (d : Disk) (l : Location) : Disk × Option DiskProblem :=
  match d.makeDirectory l with
  | .ok d => (d, none)
  | .error problem => (d, if d.leadsToDirectory l then none else some problem)

-- Creates a directory and those above it, as far as they are missing. What was created before a
-- problem stays.
def makeDirectories (d : Disk) (l : Location) : Disk × Option DiskProblem :=
  climb l.length l
where
  climb : Nat → Location → Disk × Option DiskProblem
    | 0, _ => (d, none)
    | n + 1, l =>
      if l.isEmpty then (d, none)
      else
        match d.makeDirectory l with
        | .ok d => (d, none)
        | .error .missing =>
          match l.parent? with
          | none => (d, some .missing)
          | some parent =>
            match climb n parent with
            | (d, some problem) => (d, some problem)
            | (d, none) => d.ensureDirectory l
        | .error problem => (d, if d.leadsToDirectory l then none else some problem)

def write (d : Disk) (l : Location) (text : String) : Except DiskProblem Disk := do
  match ← d.locate l with
  | (_, none) => .error .isDirectory
  | (directory, some name) =>
    match d.get? (directory ++ [name]) with
    | some .directory => .error .isDirectory
    | _ =>
      if l.endsWith "/" then .error .isDirectory
      else .ok (d.put (directory ++ [name]) (.file text))

end Disk

end Accessors
