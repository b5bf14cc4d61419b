import Accessors.Code.Declaration
import Accessors.Disk.Basic
import Accessors.Marker.Fault

namespace Accessors

inductive Problem
  | badAlias (problem : AliasProblem)
  | notInline (module : Ident)
  | unsupportedShape (name : Ident) (kind : Kind)
  | outOfReach (name : Ident) (marker : Span)
  | unwritten (location : Location) (problem : DiskProblem)
  | misread (fault : Fault)

namespace Problem

def span : Problem → Span
  | badAlias problem => problem.span
  | notInline module => module.span
  | unsupportedShape name _ => name.span
  | outOfReach _ marker => marker
  | unwritten _ _ => .unlocated
  | misread fault => fault.span

def message : Problem → String
  | badAlias problem => problem.message
  | notInline _ => "`generate` must be applied to an inline module with a body"
  | unsupportedShape name kind =>
    s!"member access markers on `{name.text}` require a struct, found {kind.text}"
  | outOfReach name _ =>
    s!"member access markers on `{name.name}` are out of reach; only declarations directly " ++
      "inside the module tree are scanned, not ones inside function bodies or other items"
  | unwritten location problem =>
    s!"failed to write generated fragment to {location}: {problem.message}"
  | misread fault => fault.cause.message

-- `::core::compile_error! { "message" }`, all of it at one place.
def compileError (span : Span) (message : String) : List Token :=
  let colons : List Token := [.punct ':' .joint span, .punct ':' .alone span]
  let word (name : String) : List Token := [.ident ⟨name, false, span⟩]
  colons ++ word "core" ++ colons ++ word "compile_error" ++
    [.punct '!' .alone span, .group .brace span span [.literal (Text.quote message) span]]

def diagnostic (p : Problem) : List Token :=
  compileError p.span p.message

end Problem

end Accessors
