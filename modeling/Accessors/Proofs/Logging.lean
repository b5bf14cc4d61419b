import Mathlib.Data.List.Forall2
import Accessors.Proofs.Footprint
import Accessors.Proofs.Markers
import Accessors.Proofs.Steps

namespace Accessors

open List

def Settings.loud (s : Settings) : Settings :=
  { s with verbose := true }

namespace Setup

def loud (s : Setup) : Setup :=
  { s with settings := s.settings.loud }

theorem commutes_visitArgument (scope : Span) : Entries.Commutes (visitArgument scope) loud := by
  intro path ts s
  rw [visitArgument.eq_def, visitArgument.eq_def]
  split
  case h_1 =>
    cases Entries.readPunct scope '=' ts
    case error => rfl
    case ok ts =>
      change (Entries.readString scope ts >>= _) = Except.map _ (Entries.readString scope ts >>= _)
      cases Entries.readString scope ts <;> rfl
  case h_2 => rfl
  case h_3 =>
    split
    case h_1 opened closed body rest =>
      rw [show s.loud.registry = s.registry from rfl]
      cases Entries.result (Entries.visitSome closed (visitBinding closed) body s.registry) <;> rfl
    case h_2 => cases ts <;> rfl
  case h_4 => rfl

theorem ofArguments_loud (base : Settings) (ts : List Token) :
    ofArguments base.loud ts = (ofArguments base ts).map loud :=
  (commutes_visitArgument _).visitAny ts ⟨base, .canonical⟩

end Setup

inductive Registry.Tells (r : Registry) (c : Candidate) : List String → Prop
  | generated (s : Capabilities) (f : Fragment) (h : r.process c = .generated s f) :
    Tells r c [", ".intercalate (s.toList.map Capability.marker) ++
      s!" accessors generated for {f.name} ({f.fileName})"]
  | skipped (problem : Problem) (h : r.process c = .failed problem) :
    Tells r c [s!"skipping {c.declaration.name.text}: {problem.message}"]
  | unmarked (h : r.process c = .unmarked) : Tells r c []

theorem Registry.tells (r : Registry) (c : Candidate) :
    r.Tells c ((r.process c).batchLine? c).toList := by
  cases h : r.process c
  case unmarked => exact .unmarked h
  case generated s f => exact .generated s f h
  case failed problem => exact .skipped problem h

theorem Registry.exists_tells (r : Registry) (cs : List Candidate) :
    ∃ told, Forall₂ r.Tells cs told ∧ r.lines cs = told.flatten := by
  induction cs
  case nil => exact ⟨[], .nil, rfl⟩
  case cons c cs ih =>
    obtain ⟨told, h, hl⟩ := ih
    exact ⟨_, .cons (r.tells c) h, by rw [r.lines_cons, hl, flatten_cons]⟩

namespace Dump

-- Fragments are written one after another, each to its place. One without a place is left out.
inductive Writes (target : String → Option Location) :
    Disk → List Fragment → List Location → Disk → Prop
  | nil (d : Disk) : Writes target d [] [] d
  | nowhere {d e : Disk} {f : Fragment} {fs : List Fragment} {ls : List Location}
    (h : target f.fileName = none) (hs : Writes target d fs ls e) : Writes target d (f :: fs) ls e
  | placed {d mid e : Disk} {f : Fragment} {fs : List Fragment} {l : Location}
    {ls : List Location} (h : target f.fileName = some l)
    (hp : place d l f.text = (mid, none)) (hs : Writes target mid fs ls e) :
    Writes target d (f :: fs) (l :: ls) e

inductive Ends (target : String → Option Location) (d : Disk) : List Fragment → Dump → Prop
  | written {e : Disk} {fs : List Fragment} {ls : List Location}
    (h : Writes target d fs ls e) : Ends target d fs ⟨e, ls, none⟩
  | stopped {mid e : Disk} {front : List Fragment} {f : Fragment} (back : List Fragment)
    {l : Location} {ls : List Location} {problem : Problem}
    (h : Writes target d front ls mid) (hl : target f.fileName = some l)
    (hp : place mid l f.text = (e, some problem)) :
    Ends target d (front ++ f :: back) ⟨e, ls, some problem⟩

variable {target : String → Option Location} {d mid : Disk} {f : Fragment} {l : Location}
variable {fs : List Fragment} {dump : Dump}

theorem Ends.nowhere (h : target f.fileName = none) (hd : Ends target d fs dump) :
    Ends target d (f :: fs) dump := by
  cases hd
  case written hw => exact .written (.nowhere h hw)
  case stopped back _ _ _ hw hl hq => exact .stopped back (.nowhere h hw) hl hq

theorem Ends.placed (h : target f.fileName = some l) (hp : place d l f.text = (mid, none))
    (hd : Ends target mid fs dump) :
    Ends target d (f :: fs) ⟨dump.disk, l :: dump.written, dump.problem⟩ := by
  cases hd
  case written hw => exact .written (.placed h hp hw)
  case stopped back _ _ _ hw hl hq => exact .stopped back (.placed h hp hw) hl hq

theorem ends_run (target : String → Option Location) (d : Disk) (fs : List Fragment) :
    Ends target d fs (run target d fs) := by
  induction fs generalizing d
  case nil => exact .written (.nil d)
  case cons f fs ih =>
    cases h : target f.fileName
    case none =>
      rw [run_cons_of_nowhere h]
      exact .nowhere h (ih d)
    case some l =>
      cases hp : place d l f.text with | mk mid problem =>
      cases problem
      case some =>
        rw [run_cons_of_problem h hp]
        exact .stopped fs (.nil d) h hp
      case none =>
        rw [run_cons_of_written h hp]
        exact .placed h hp (ih mid)

end Dump

namespace Module

variable (base : Settings) (manifestDirectory : Option Location) (arguments : List Token)
variable (m : Module) (disk : Disk)

theorem expand_loud (disk : Disk) :
    let e := m.expand base manifestDirectory disk arguments
    let loud := m.expand base.loud manifestDirectory disk arguments
    loud.output = e.output ∧ loud.problems = e.problems ∧ loud.disk = e.disk := by
  simp only [expand, Setup.ofArguments_loud]
  cases Setup.ofArguments base arguments
  case error => exact ⟨rfl, rfl, rfl⟩
  case ok s =>
    obtain ⟨settings, registry⟩ := s
    have ht : settings.loud.dumpTarget manifestDirectory = settings.dumpTarget manifestDirectory :=
      rfl
    simp only [Except.map, Setup.loud, ht]
    cases m.items.isNone
    case true => exact ⟨rfl, rfl, rfl⟩
    case false =>
      simp only [Bool.false_eq_true, if_false]
      cases (Dump.run (settings.dumpTarget manifestDirectory) disk
        (registry.fragments m.candidates)).problem <;> exact ⟨rfl, rfl, rfl⟩

variable {base arguments m}

theorem expand_of_scanned {s : Setup} (h : Setup.ofArguments base arguments = .ok s)
    (hb : m.items.isSome) :
    let dump := Dump.run (s.settings.dumpTarget manifestDirectory) disk
      (s.registry.fragments m.candidates)
    let e := m.expand base manifestDirectory disk arguments
    e.disk = dump.disk ∧
    e.log = s.settings.log
      (s!"scanning module {m.head.name.text}: {m.candidates.length} candidate declaration(s)" ::
        s.registry.lines m.candidates ++ dump.lines) ∧
    ∀ problem, dump.problem = some problem → e.problems = [problem] := by
  have hn : m.items.isNone = false := by simpa using hb
  simp only [expand, h, hn, Bool.false_eq_true, if_false]
  cases (Dump.run (s.settings.dumpTarget manifestDirectory) disk
    (s.registry.fragments m.candidates)).problem
  all_goals
    refine ⟨rfl, rfl, ?_⟩
    rintro _ ⟨⟩
  case some => rfl

theorem log_expand_eq_nil
    (h : ∀ s, Setup.ofArguments base arguments = .ok s → s.settings.verbose → m.items = none) :
    (m.expand base manifestDirectory disk arguments).log = [] := by
  cases ha : Setup.ofArguments base arguments
  case error => simp only [expand, ha, abort]
  case ok s =>
    cases hb : m.items
    case none => simp only [expand, ha, hb, abort, Option.isNone_none, if_true]
    case some =>
      have hs : m.items.isSome := by simp [hb]
      obtain ⟨_, hl, _⟩ := expand_of_scanned manifestDirectory disk ha hs
      rw [hl, Settings.log, if_neg]
      intro hv
      have hn := h s ha hv
      rw [hb] at hn
      contradiction

variable (base arguments m)

-- A verbose pass puts out what a silent one does, and leaves the same files. Nothing is logged by a
-- pass that is silent or that does not get as far as to scan its module. Any other pass logs that
-- it scans the module, then what becomes of each candidate in their order, and then each file that
-- is written, up to the problem that ends the dump.
theorem logging_only_observes :
    let pass (s : Settings) := (m.generate s manifestDirectory arguments).run ⟨disk, []⟩
    let loud := pass { base with verbose := true }
    let silent := pass { base with verbose := false }
    (loud.1 = silent.1 ∧ loud.2.disk = silent.2.disk) ∧
    ((∀ s, Setup.ofArguments base arguments = .ok s → s.settings.verbose → m.items = none) →
      (pass base).2.log = []) ∧
    ∀ s, Setup.ofArguments base arguments = .ok s → s.settings.verbose → m.items.isSome →
      ∃ told dump, Forall₂ s.registry.Tells m.scan told ∧
        Dump.Ends (s.settings.dumpTarget manifestDirectory) disk (s.registry.fragments m.scan)
          dump ∧
        (pass base).2 = ⟨dump.disk, List.map ("[member-access] " ++ ·)
          (s!"scanning module {m.head.name.text}: {m.scan.length} candidate declaration(s)" ::
            told.flatten ++ dump.written.map fun l => s!"wrote {l}")⟩ ∧
        ∀ problem, dump.problem = some problem → (pass base).1.2 = [problem] := by
  simp only [run_generate, Expansion.after, nil_append]
  refine ⟨?same, log_expand_eq_nil manifestDirectory disk, fun s hs hv hb => ?exact⟩
  case same =>
    have ⟨ho, hp, hd⟩ := expand_loud { base with verbose := false } manifestDirectory arguments m
      disk
    exact ⟨congrArg₂ Prod.mk ho hp, hd⟩
  case exact =>
    have ⟨hd, hl, hp⟩ := expand_of_scanned manifestDirectory disk hs hb
    obtain ⟨told, ht, hlines⟩ := s.registry.exists_tells m.candidates
    rw [m.scan_eq_candidates]
    refine ⟨told, _, ht, Dump.ends_run _ disk _, ?_, hp⟩
    rw [hd, hl, hlines, Settings.log, if_pos hv]
    rfl

end Module

-- `mod shop { #[by_index] struct Item; #[by_index] enum Kind {} #[doc] struct Note;
-- #[by_index] struct Order; #[by_index] struct Price; }`
def shopModule : Module where
  head := ⟨[], [], [], plainIdent "shop"⟩
  items := some <| [
    ("by_index", "Item", .struct .unit), ("by_index", "Kind", .enum []),
    ("doc", "Note", .struct .unit), ("by_index", "Order", .struct .unit),
    ("by_index", "Price", .struct .unit)].map fun (marker, name, shape) =>
      .declaration ⟨[plainMarker marker], [], plainIdent name, .none, [], shape⟩

-- The file of the second fragment cannot be written.
theorem shop_pass_logged :
    let base : Settings := ⟨false, some "out"⟩
    let setup : Setup := ⟨⟨true, some "out"⟩, .canonical⟩
    let pass := (shopModule.generate base none [.word "verbose"]).run ⟨Dump.crowdedDisk, []⟩
    Setup.ofArguments base [.word "verbose"] = .ok setup ∧ shopModule.items.isSome ∧
    pass.2.log = [
      "[member-access] scanning module shop: 5 candidate declaration(s)",
      "[member-access] by_index accessors generated for Item (shop/Item_memberaccess.rs)",
      "[member-access] skipping Kind: member access markers on `Kind` require a struct, found enum",
      "[member-access] by_index accessors generated for Order (shop/Order_memberaccess.rs)",
      "[member-access] by_index accessors generated for Price (shop/Price_memberaccess.rs)",
      "[member-access] wrote out/shop/Item_memberaccess.rs"] ∧
    ∃ told dump, Forall₂ setup.registry.Tells shopModule.scan told ∧
      Dump.Ends (setup.settings.dumpTarget none) Dump.crowdedDisk
        (setup.registry.fragments shopModule.scan) dump ∧ pass.2.disk = dump.disk := by
  intro base setup pass
  have hs : Setup.ofArguments base [.word "verbose"] = .ok setup := rfl
  have ⟨_, _, h⟩ := shopModule.logging_only_observes base none [.word "verbose"] Dump.crowdedDisk
  obtain ⟨told, dump, ht, he, hp, _⟩ := h setup hs rfl rfl
  exact ⟨hs, rfl, by decide +kernel, told, dump, ht, he, congrArg Progress.disk hp⟩

end Accessors
