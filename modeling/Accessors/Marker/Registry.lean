import Accessors.Capability
import Accessors.Code.Basic

namespace Accessors

inductive AliasProblem
  | unknownCapability (target : Ident)
  | conflictingAlias (name : Ident) (first second : Capability)

namespace AliasProblem

def span : AliasProblem → Span
  | unknownCapability target => target.span
  | conflictingAlias name _ _ => name.span

def message : AliasProblem → String
  | unknownCapability target =>
    s!"`{target.text}` is not a member access capability; " ++
      "expected one of `by_index`, `by_name`, `enumerate`"
  | conflictingAlias name first second =>
    s!"marker alias `{name.text}` is bound to both `{first.marker}` and `{second.marker}`"

end AliasProblem

-- The names that stand for capabilities. If one name has several bindings, the first one counts.
structure Registry where
  bindings : List (String × Capability)

structure Alias where
  name : Ident
  target : Ident

namespace Registry

def canonical : Registry where
  bindings := Capability.all.map fun c => (c.marker, c)

def lookup (r : Registry) (name : String) : Option Capability :=
  r.bindings.lookup name

def bind (r : Registry) (name : String) (c : Capability) : Registry where
  bindings := r.bindings ++ [(name, c)]

-- Makes a name stand for the capability whose own name is the target. A name keeps the capability
-- that it once has.
def addAlias (r : Registry) (name target : Ident) : Except AliasProblem Registry :=
  match Capability.ofMarker? target.text with
  | none => .error (.unknownCapability target)
  | some c =>
    match r.lookup name.text with
    | none => .ok (r.bind name.text c)
    | some existing =>
      if existing = c then .ok r else .error (.conflictingAlias name existing c)

def register (a : Alias) : StateM Registry (Except AliasProblem Unit) := do
  match Capability.ofMarker? a.target.text with
  | none => return .error (.unknownCapability a.target)
  | some c =>
    match (← get).lookup a.name.text with
    | none =>
      modify (·.bind a.name.text c)
      return .ok ()
    | some existing =>
      return if existing = c then .ok () else .error (.conflictingAlias a.name existing c)

-- Adds aliases one after another, whatever becomes of each of them.
def session (as : List Alias) : StateM Registry (List (Except AliasProblem Unit)) :=
  as.mapM register

end Registry

end Accessors
