import Accessors.Fragment.Basic
import Accessors.Problem
import Accessors.Settings.Basic

namespace Accessors

-- What is left of a dump: the disk, the places that were written to in their order, and what put an
-- end to it.
structure Dump where
  disk : Disk
  written : List Location
  problem : Option Problem

namespace Dump

def place (d : Disk) (l : Location) (text : String) : Disk × Option Problem :=
  let (d, failure) :=
    match l.parent? with
    | none => (d, none)
    | some parent =>
      let (d, failure) := d.makeDirectories parent
      (d, failure.map (.unwritten parent))
  match failure with
  | some problem => (d, some problem)
  | none =>
    match d.write l text with
    | .ok d => (d, none)
    | .error failure => (d, some (.unwritten l failure))

-- Writes each fragment to its place, up to the first problem. One without a place is left out.
def run (target : String → Option Location) (d : Disk) : List Fragment → Dump
  | [] => ⟨d, [], none⟩
  | f :: rest =>
    match target f.fileName with
    | none => run target d rest
    | some l =>
      match place d l f.text with
      | (d, some problem) => ⟨d, [], some problem⟩
      | (d, none) =>
        let dump := run target d rest
        { dump with written := l :: dump.written }

def lines (dump : Dump) : List String :=
  dump.written.map fun l => s!"wrote {l}"

section Cons

variable {target : String → Option Location} {d e : Disk} {f : Fragment} {l : Location}

theorem run_cons_of_nowhere (h : target f.fileName = none) (fs : List Fragment) :
    run target d (f :: fs) = run target d fs := by
  rw [run, h]

theorem run_cons_of_problem {problem : Problem} (h : target f.fileName = some l)
    (hp : place d l f.text = (e, some problem)) (fs : List Fragment) :
    run target d (f :: fs) = ⟨e, [], some problem⟩ := by
  simp only [run, h, hp]

theorem run_cons_of_written (h : target f.fileName = some l)
    (hp : place d l f.text = (e, none)) (fs : List Fragment) :
    run target d (f :: fs) =
      ⟨(run target e fs).disk, l :: (run target e fs).written, (run target e fs).problem⟩ := by
  simp only [run, h, hp]

end Cons

end Dump

end Accessors
