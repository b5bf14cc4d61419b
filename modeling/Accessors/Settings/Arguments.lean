import Accessors.Marker.Entries
import Accessors.Settings.Basic

namespace Accessors

-- The settings and the registry of one pass.
structure Setup where
  settings : Settings
  registry : Registry

namespace Setup

def visitBinding (scope : Span) : Entries.Visitor Registry := fun p ts r =>
  match p.name? with
  | none => Entries.fault .compoundAlias p.span
  | some name => do
    let ts ← Entries.readPunct scope '=' ts
    let (target, ts) ← Entries.readName scope ts
    match r.addAlias name target with
    | .ok r => pure (r, ts)
    | .error problem => Entries.fault (.badAlias problem) problem.span

def visitArgument (scope : Span) : Entries.Visitor Setup := fun p ts s =>
  match p.name?.map (·.text) with
  | some "dump" => do
    let ts ← Entries.readPunct scope '=' ts
    let (directory, ts) ← Entries.readString scope ts
    pure ({ s with settings := { s.settings with dumpDirectory := some directory } }, ts)
  | some "verbose" => .ok ({ s with settings := { s.settings with verbose := true } }, ts)
  | some "markers" =>
    match ts with
    | .group .paren _ closed body :: rest => do
      let registry ← Entries.result (Entries.visitSome closed (visitBinding closed) body s.registry)
      pure ({ s with registry }, rest)
    | ts => Entries.faultAt scope ts .missingParentheses
  | _ => Entries.fault .unsupportedArgument p.span

-- What the arguments make of some settings. Aliases are added to the canonical names.
def ofArguments (base : Settings) (ts : List Token) : Except Fault Setup :=
  Entries.result (Entries.visitAny .unlocated (visitArgument .unlocated) ts ⟨base, .canonical⟩)

end Setup

end Accessors
