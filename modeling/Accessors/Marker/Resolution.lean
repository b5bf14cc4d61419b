import Accessors.Marker.Entries

namespace Accessors

-- The library's own name. It qualifies markers, and it is the marker that lists others.
def libraryName : String := "member_access"

def deriveName : String := "MemberAccess"

namespace Registry

def capabilityOf (r : Registry) (p : Path) : Option Capability :=
  match p.segments with
  | [name] => if p.global then none else r.lookup name.text
  | [library, name] =>
    if library.text = libraryName then Capability.ofMarker? name.text else none
  | _ => none

def isListMarker (p : Path) : Bool :=
  p.name?.any (·.text == libraryName)

def isMarker (r : Registry) (a : Attribute) : Bool :=
  isListMarker a.path || (r.capabilityOf a.path).isSome

-- An entry of a list of markers is a bare name, with nothing behind it.
def visitMarker (r : Registry) (_scope : Span) : Entries.Visitor Capabilities := fun p ts s =>
  match p.name?.bind fun name => r.lookup name.text with
  | some c => .ok (s.insert c, ts)
  | none => Entries.fault .unknownMarker p.span

def resolve (r : Registry) (a : Attribute) : Except Fault Capabilities :=
  if isListMarker a.path then
    Entries.result (Entries.visitArguments a r.visitMarker .empty)
  else
    match r.capabilityOf a.path with
    | some c => .ok (Capabilities.empty.insert c)
    | none => .ok .empty

def classify (r : Registry) : List Attribute → Except Fault Capabilities
  | [] => .ok .empty
  | a :: rest => do
    let s ← r.resolve a
    let t ← r.classify rest
    pure (s.union t)

def strip (r : Registry) (as : List Attribute) : List Attribute :=
  as.filter fun a => !r.isMarker a

end Registry

-- Whether one of the attributes derives the accessors, as far as it can be read.
def derivesAccessors (as : List Attribute) : Bool :=
  as.any fun a =>
    a.path.name?.any (·.text == "derive") &&
      (Entries.visitArguments a (fun _ p ts found =>
        .ok (found || p.segments.getLast?.any (·.text == deriveName), ts)) false).1

end Accessors
