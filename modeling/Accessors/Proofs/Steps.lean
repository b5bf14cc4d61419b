import Accessors.Pass.Progress
import Accessors.Proofs.Candidates

namespace Accessors

open List

namespace Progress

variable {α β : Type}

theorem tell_nil (p : Progress) : p.tell [] = p := by
  rw [tell, append_nil]

theorem disk_tell (p : Progress) (ls : List String) : (p.tell ls).disk = p.disk :=
  rfl

theorem tell_tell (p : Progress) (ls ms : List String) :
    (p.tell ls).tell ms = p.tell (ls ++ ms) := by
  rw [tell, tell, tell, append_assoc]

theorem run_bind {x : StateM Progress α} {f : α → StateM Progress β} {p q : Progress} {a : α}
    (h : x.run p = (a, q)) : (x >>= f).run p = (f a).run q := by
  rw [StateT.run_bind, h]
  rfl

variable {x : ExceptT Problem (StateM Progress) α} {f : α → ExceptT Problem (StateM Progress) β}
variable {p q : Progress}

theorem run_bind_ok {a : α} (h : x.run.run p = (.ok a, q)) :
    (x >>= f).run.run p = (f a).run.run q := by
  rw [ExceptT.run_bind, run_bind h]

theorem run_bind_error {problem : Problem} (h : x.run.run p = (.error problem, q)) :
    (x >>= f).run.run p = (.error problem, q) := by
  rw [ExceptT.run_bind, run_bind h]
  rfl

theorem run_liftM {y : StateM Progress α} {a : α} (h : y.run p = (a, q)) :
    (liftM y : ExceptT Problem (StateM Progress) α).run.run p = (.ok a, q) :=
  congrArg (fun r : α × Progress => ((.ok r.1 : Except Problem α), r.2)) h

end Progress

namespace Settings

variable (s : Settings) (p : Progress)

theorem log_nil : s.log [] = [] := by
  rw [log]
  cases s.verbose <;> rfl

theorem log_append (ls ms : List String) : s.log (ls ++ ms) = s.log ls ++ s.log ms := by
  rw [log, log, log]
  cases s.verbose
  case false => rfl
  case true => exact map_append

theorem log_cons (l : String) (ls : List String) : s.log (l :: ls) = s.log [l] ++ s.log ls :=
  s.log_append [l] ls

theorem run_trace (line : String) : (s.trace line).run p = ((), p.tell (s.log [line])) := by
  rw [trace, log]
  cases s.verbose
  case false => exact congrArg (Prod.mk ()) p.tell_nil.symm
  case true => rfl

theorem run_forM_trace {α : Type} (x : Option α) (line : α → String) :
    (x.forM fun a => s.trace (line a)).run p = ((), p.tell (s.log (x.map line).toList)) := by
  cases x
  case none =>
    rw [Option.map_none, Option.toList_none, log_nil, p.tell_nil]
    rfl
  case some a => exact s.run_trace p (line a)

end Settings

theorem Registry.lines_cons (r : Registry) (c : Candidate) (cs : List Candidate) :
    r.lines (c :: cs) = ((r.process c).batchLine? c).toList ++ r.lines cs := by
  rw [lines, lines, filterMap_cons]
  cases (r.process c).batchLine? c <;> rfl

namespace Dump

variable (s : Settings) (p : Progress)

def ending (dump : Dump) : Except Problem Unit × Progress :=
  (match dump.problem with | some problem => .error problem | none => .ok (),
    (p.store dump.disk).tell (s.log dump.lines))

theorem ending_nil (d : Disk) (problem : Option Problem) : ending s p ⟨d, [], problem⟩ =
    (match problem with | some problem => .error problem | none => .ok (), p.store d) := by
  rw [ending, lines, map_nil, s.log_nil, Progress.tell_nil]

theorem ending_cons (d e : Disk) (l : Location) (ls : List Location) (problem : Option Problem) :
    ending s p ⟨e, l :: ls, problem⟩ =
      ending s ((p.store d).tell (s.log [s!"wrote {l}"])) ⟨e, ls, problem⟩ := by
  rw [ending, lines, map_cons, s.log_cons, ← Progress.tell_tell]
  rfl

end Dump

namespace Setup

variable (s : Setup) (p : Progress)

theorem run_process (c : Candidate) : (s.process c).run p =
    (s.registry.process c,
      p.tell (s.settings.log (s.registry.process c).generatedLine?.toList)) := by
  have h := s.settings.run_forM_trace p (s.registry.process c).generatedLine? fun line => line
  rw [Option.map_id'] at h
  rw [process, Progress.run_bind h]
  rfl

theorem run_attempt (c : Candidate) : (s.attempt c).run p =
    (s.registry.process c,
      p.tell (s.settings.log ((s.registry.process c).batchLine? c).toList)) := by
  rw [attempt, Progress.run_bind (s.run_process p c),
    Progress.run_bind (s.settings.run_forM_trace _ _ _), p.tell_tell, ← Settings.log_append]
  cases s.registry.process c <;> rfl

theorem run_mapM_attempt (cs : List Candidate) : (cs.mapM s.attempt).run p =
    (cs.map s.registry.process, p.tell (s.settings.log (s.registry.lines cs))) := by
  induction cs generalizing p
  case nil =>
    rw [mapM_nil, Registry.lines, filterMap_nil, Settings.log_nil, p.tell_nil]
    rfl
  case cons c cs ih =>
    rw [mapM_cons, Progress.run_bind (s.run_attempt p c), Progress.run_bind (ih _), p.tell_tell,
      ← Settings.log_append, ← Registry.lines_cons]
    rfl

theorem run_run (cs : List Candidate) : (s.run cs).run p =
    ((s.registry.fragments cs, s.registry.problems cs),
      p.tell (s.settings.log (s.registry.lines cs))) := by
  rw [run, Progress.run_bind (s.run_mapM_attempt p cs), filterMap_map, filterMap_map]
  rfl

variable {manifestDirectory : Option Location} {f : Fragment} {l : Location} {d : Disk}

theorem run_write_of_nowhere (h : s.settings.dumpTarget manifestDirectory f.fileName = none) :
    (s.write manifestDirectory f).run.run p = (.ok (), p) := by
  rw [write, h]
  rfl

theorem run_write (h : s.settings.dumpTarget manifestDirectory f.fileName = some l) :
    (s.write manifestDirectory f).run.run p =
      match Dump.place p.disk l f.text with
      | (d, some problem) => (.error problem, p.store d)
      | (d, none) => (.ok (), (p.store d).tell (s.settings.log [s!"wrote {l}"])) := by
  have hg : (get : ExceptT Problem (StateM Progress) Progress).run.run p = (.ok p, p) := rfl
  have hm (d : Disk) : (modify (·.store d) : ExceptT Problem (StateM Progress) Unit).run.run p =
      (.ok (), p.store d) := rfl
  rw [write, h, Progress.run_bind_ok hg, Progress.run_bind_ok (hm _)]
  cases hp : Dump.place p.disk l f.text with | mk d problem =>
  cases problem
  case some => rfl
  case none => exact Progress.run_liftM (s.settings.run_trace (p.store d) _)

variable (manifestDirectory)

theorem run_dump (fs : List Fragment) : (s.dump manifestDirectory fs).run.run p =
    Dump.ending s.settings p (Dump.run (s.settings.dumpTarget manifestDirectory) p.disk fs) := by
  induction fs generalizing p
  case nil => exact (Dump.ending_nil s.settings p p.disk none).symm
  case cons f fs ih =>
    rw [dump, List.forM_eq_forM, forM_cons]
    cases h : s.settings.dumpTarget manifestDirectory f.fileName
    case none =>
      rw [Progress.run_bind_ok (s.run_write_of_nowhere p h), Dump.run_cons_of_nowhere h]
      exact ih p
    case some l =>
      have hw := s.run_write p h
      cases hp : Dump.place p.disk l f.text with | mk d problem =>
      rw [hp] at hw
      cases problem
      case some =>
        rw [Progress.run_bind_error hw, Dump.run_cons_of_problem h hp, Dump.ending_nil]
      case none =>
        rw [Progress.run_bind_ok hw, Dump.run_cons_of_written h hp, Dump.ending_cons _ p d]
        exact ih _

end Setup

def Expansion.after (e : Expansion) (log : List String) :
    (List Token × List Problem) × Progress :=
  ((e.output, e.problems), ⟨e.disk, log ++ e.log⟩)

namespace Module

variable (base : Settings) (manifestDirectory : Option Location) (arguments : List Token)
variable (m : Module) (p : Progress)

theorem run_generate : (m.generate base manifestDirectory arguments).run p =
    (m.expand base manifestDirectory p.disk arguments).after p.log := by
  rw [generate, expand]
  cases Setup.ofArguments base arguments
  case error fault => exact congrArg (Prod.mk _) p.tell_nil.symm
  case ok s =>
    obtain ⟨settings, registry⟩ := s
    cases m.items.isNone
    case true => exact congrArg (Prod.mk _) p.tell_nil.symm
    case false =>
      simp only [m.scan_eq_candidates, Bool.false_eq_true, if_false]
      rw [Progress.run_bind (settings.run_trace p _),
        Progress.run_bind (Setup.run_run ⟨settings, registry⟩ _ _), Progress.tell_tell,
        ← settings.log_append, Progress.run_bind (Setup.run_dump ⟨settings, registry⟩ _ _ _)]
      simp only [Progress.disk_tell, singleton_append, settings.log_append]
      cases (Dump.run (settings.dumpTarget manifestDirectory) p.disk
        (registry.fragments m.candidates)).problem
      all_goals exact congrArg (fun log => (_, Progress.mk _ log)) (append_assoc p.log _ _)

end Module

end Accessors
