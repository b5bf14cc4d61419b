import Accessors.Pass.Expansion

namespace Accessors

-- How far a pass has come: the disk as it is by now, and what has been logged.
structure Progress where
  disk : Disk
  log : List String

def Progress.tell (p : Progress) (lines : List String) : Progress :=
  { p with log := p.log ++ lines }

def Progress.store (p : Progress) (disk : Disk) : Progress :=
  { p with disk }

def Settings.trace (s : Settings) (line : String) : StateM Progress Unit :=
  if s.verbose then modify (·.tell ["[member-access] " ++ line]) else pure ()

namespace Setup

def process (s : Setup) (c : Candidate) : StateM Progress Outcome := do
  let outcome := s.registry.process c
  outcome.generatedLine?.forM s.settings.trace
  return outcome

def attempt (s : Setup) (c : Candidate) : StateM Progress Outcome := do
  let outcome ← s.process c
  outcome.problem?.forM fun problem =>
    s.settings.trace s!"skipping {c.declaration.name.text}: {problem.message}"
  return outcome

def run (s : Setup) (cs : List Candidate) : StateM Progress (List Fragment × List Problem) := do
  let outcomes ← cs.mapM s.attempt
  return (outcomes.filterMap Outcome.fragment?, outcomes.filterMap Outcome.problem?)

def write (s : Setup) (manifestDirectory : Option Location) (f : Fragment) :
    ExceptT Problem (StateM Progress) Unit := do
  match s.settings.dumpTarget manifestDirectory f.fileName with
  | none => return
  | some l =>
    let (disk, problem) := Dump.place (← get).disk l f.text
    modify (·.store disk)
    match problem with
    | some problem => throw problem
    | none => s.settings.trace s!"wrote {l}"

def dump (s : Setup) (manifestDirectory : Option Location) (fs : List Fragment) :
    ExceptT Problem (StateM Progress) Unit :=
  fs.forM (s.write manifestDirectory)

end Setup

def Module.generate (base : Settings) (manifestDirectory : Option Location)
    (arguments : List Token) (m : Module) : StateM Progress (List Token × List Problem) := do
  let abort (problem : Problem) := (problem.diagnostic ++ m.tokens, [problem])
  match Setup.ofArguments base arguments with
  | .error fault => return abort (.misread fault)
  | .ok s =>
    if m.items.isNone then return abort (.notInline m.head.name)
    let candidates := m.scan
    s.settings.trace
      s!"scanning module {m.head.name.text}: {candidates.length} candidate declaration(s)"
    let (fragments, problems) ← s.run candidates
    match ← (s.dump manifestDirectory fragments).run with
    | .error problem => return abort problem
    | .ok () =>
      let (woven, unreached) := s.registry.weave fragments m
      let problems := problems ++ unreached
      return (woven.tokens ++ problems.flatMap Problem.diagnostic, problems)

end Accessors
