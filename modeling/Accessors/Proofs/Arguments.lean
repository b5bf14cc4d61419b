import Accessors.Proofs.Entries
import Accessors.Settings.Arguments

namespace Accessors

namespace Alias

-- `name = target`
inductive Written (a : Alias) : List Token → Prop
  | intro (spacing : Spacing) (equals : Span) :
    Written a [.ident a.name, .punct '=' spacing equals, .ident a.target]

-- A reserved word is no target, not even an unknown one.
def enter (r : Registry) (a : Alias) : Except Fault Registry :=
  if Ahead.reserved.contains a.target.text then
    Entries.fault (.reservedName a.target.text) a.target.span
  else
    match r.addAlias a.name a.target with
    | .ok s => .ok s
    | .error problem => Entries.fault (.badAlias problem) problem.span

theorem follows_visitBinding (scope : Span) :
    Entries.Follows scope (Setup.visitBinding scope) Alias.Written enter := by
  rintro a _ rest r ⟨spacing, equals⟩ _
  refine ⟨⟨false, [a.name]⟩, .punct '=' spacing equals :: .ident a.target :: rest, rfl, ?_⟩
  have hn : Path.name? ⟨false, [a.name]⟩ = some a.name := rfl
  simp only [Setup.visitBinding, hn, Entries.readPunct_punct, Entries.readName_ident, enter, bind,
    Except.bind]
  cases Ahead.reserved.contains a.target.text
  case true => rfl
  case false =>
    simp only [Bool.false_eq_true, if_false]
    cases r.addAlias a.name a.target <;> rfl

end Alias

inductive Argument
  | dump (directory : String)
  | verbose
  | markers (aliases : List Alias)

namespace Argument

-- There is no list of aliases without an alias.
inductive Written : Argument → List Token → Prop
  | dump (i : Ident) (spacing : Spacing) (equals : Span) (text directory : String) (literal : Span)
    (hi : i.text = "dump") (h : Text.unquote? text = some directory) :
    Written (.dump directory) [.ident i, .punct '=' spacing equals, .literal text literal]
  | verbose (i : Ident) (hi : i.text = "verbose") : Written .verbose [.ident i]
  | markers (i : Ident) (opened closed : Span) (aliases : List Alias) (body : List Token)
    (hi : i.text = "markers") (h : Entries.Written Alias.Written aliases body) :
    Written (.markers aliases) [.ident i, .group .paren opened closed body]

def aliases : Argument → List Alias
  | markers as => as
  | _ => []

def enter (s : Setup) : Argument → Except Fault Setup
  | dump directory => .ok { s with settings.dumpDirectory := some directory }
  | verbose => .ok { s with settings.verbose := true }
  | markers as => do
    let registry ← as.foldlM Alias.enter s.registry
    pure { s with registry }

theorem follows_visitArgument (scope : Span) :
    Entries.Follows scope (Setup.visitArgument scope) Written enter := by
  rintro x _ rest s h hr
  cases h
  case dump i spacing equals text directory literal hi ht =>
    refine ⟨⟨false, [i]⟩, .punct '=' spacing equals :: .literal text literal :: rest, rfl, ?_⟩
    have hn : (Path.name? ⟨false, [i]⟩).map (·.text) = some "dump" := congrArg some hi
    simp only [Setup.visitArgument, hn, Entries.readPunct_punct, bind, Except.bind,
      Entries.readString_literal scope literal rest ht]
    rfl
  case verbose i hi =>
    refine ⟨⟨false, [i]⟩, rest, Entries.readPath_name hr, ?_⟩
    have hn : (Path.name? ⟨false, [i]⟩).map (·.text) = some "verbose" := congrArg some hi
    simp only [Setup.visitArgument, hn]
    rfl
  case markers i opened closed as body hi hb =>
    refine ⟨⟨false, [i]⟩, .group .paren opened closed body :: rest, rfl, ?_⟩
    have hn : (Path.name? ⟨false, [i]⟩).map (·.text) = some "markers" := congrArg some hi
    have hv := Entries.result_visitSome (Alias.follows_visitBinding closed) hb s.registry
    simp only [Setup.visitArgument, hn, hv, enter]
    cases as.foldlM Alias.enter s.registry <;> rfl

end Argument

namespace Setup

inductive Written : List Argument → List Token → Prop
  | none : Written [] []
  | some (xs : List Argument) (ts : List Token) (h : Entries.Written Argument.Written xs ts) :
    Written xs ts

theorem ofArguments_of_written {xs : List Argument} {ts : List Token} (h : Written xs ts)
    (base : Settings) : ofArguments base ts = xs.foldlM Argument.enter ⟨base, .canonical⟩ := by
  cases h
  case none => rfl
  case some h => exact Entries.result_visitAny (Argument.follows_visitArgument .unlocated) h _

end Setup

end Accessors
