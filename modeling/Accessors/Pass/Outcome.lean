import Accessors.Fragment.Basic
import Accessors.Marker.Resolution
import Accessors.Problem

namespace Accessors

inductive Outcome
  | unmarked
  | generated (capabilities : Capabilities) (fragment : Fragment)
  | failed (problem : Problem)

namespace Outcome

def fragment? : Outcome → Option Fragment
  | generated _ fragment => some fragment
  | _ => none

def problem? : Outcome → Option Problem
  | failed problem => some problem
  | _ => none

def generatedLine? : Outcome → Option String
  | generated s fragment =>
    some <| ", ".intercalate (s.toList.map Capability.marker) ++
      s!" accessors generated for {fragment.name} ({fragment.fileName})"
  | _ => none

def batchLine? (c : Candidate) : Outcome → Option String
  | failed problem => some s!"skipping {c.declaration.name.text}: {problem.message}"
  | o => o.generatedLine?

end Outcome

namespace Registry

def process (r : Registry) (c : Candidate) : Outcome :=
  match r.classify c.declaration.attributes with
  | .error fault => .failed (.misread fault)
  | .ok s =>
    if s.isEmpty then .unmarked
    else
      match c.declaration.members? with
      | none => .failed (.unsupportedShape c.declaration.name c.declaration.kind)
      | some members =>
        match c.fragment? members s with
        | none => .unmarked
        | some fragment => .generated s fragment

-- Each candidate is on its own: a problem with one of them does not keep others from being
-- generated.
def fragments (r : Registry) (cs : List Candidate) : List Fragment :=
  cs.filterMap fun c => (r.process c).fragment?

def problems (r : Registry) (cs : List Candidate) : List Problem :=
  cs.filterMap fun c => (r.process c).problem?

def lines (r : Registry) (cs : List Candidate) : List String :=
  cs.filterMap fun c => (r.process c).batchLine? c

end Registry

end Accessors
