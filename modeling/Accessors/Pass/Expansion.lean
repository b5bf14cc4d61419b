import Accessors.Pass.Dump
import Accessors.Pass.Outcome
import Accessors.Pass.Scan
import Accessors.Pass.Weave
import Accessors.Settings.Arguments

namespace Accessors

def Settings.log (s : Settings) (lines : List String) : List String :=
  if s.verbose then lines.map ("[member-access] " ++ ·) else []

structure Derivation where
  result : Except Problem (List Token)
  log : List String

def Declaration.derive (s : Settings) (d : Declaration) : Derivation :=
  let outcome := Registry.canonical.process ⟨[], d⟩
  match outcome with
  | .failed problem => ⟨.error problem, []⟩
  | .generated _ fragment => ⟨.ok fragment.tokens, s.log outcome.generatedLine?.toList⟩
  | .unmarked => ⟨.ok [], s.log [s!"no accessors requested for {d.name.text}"]⟩

-- What the batch pass makes of a module: what stands in its place, the problems that are told there
-- in their order, what is on disk afterwards, and what is logged.
structure Expansion where
  output : List Token
  problems : List Problem
  disk : Disk
  log : List String

namespace Module

def abort (m : Module) (problem : Problem) (disk : Disk) (log : List String) : Expansion :=
  ⟨problem.diagnostic ++ m.tokens, [problem], disk, log⟩

def expand (base : Settings) (manifestDirectory : Option Location) (disk : Disk)
    (arguments : List Token) (m : Module) : Expansion :=
  match Setup.ofArguments base arguments with
  | .error fault => m.abort (.misread fault) disk []
  | .ok ⟨settings, registry⟩ =>
    if m.items.isNone then m.abort (.notInline m.head.name) disk []
    else
      let candidates := m.candidates
      let scanned :=
        s!"scanning module {m.head.name.text}: {candidates.length} candidate declaration(s)"
      let fragments := registry.fragments candidates
      let dump := Dump.run (settings.dumpTarget manifestDirectory) disk fragments
      let log := settings.log (scanned :: registry.lines candidates ++ dump.lines)
      match dump.problem with
      | some problem => m.abort problem dump.disk log
      | none =>
        let (woven, unreached) := registry.weave fragments m
        let problems := registry.problems candidates ++ unreached
        ⟨woven.tokens ++ problems.flatMap Problem.diagnostic, problems, dump.disk, log⟩

end Module

end Accessors
