import Accessors.Pass.Dump
import Accessors.Proofs.Directories

namespace Accessors

open List Location

namespace Disk

variable {d e : Disk} {l : Location} {ns : List String} {text : String}

def place? (d : Disk) (l : Location) : Option (List String) :=
  match d.locate l with
  | .ok (place, some n) => some (place ++ [n])
  | _ => none

def read? (d : Disk) (l : Location) : Option String :=
  match (d.place? l).bind d.get? with
  | some (.file text) => some text
  | _ => none

theorem place?_eq_some_iff : d.place? l = some ns ↔
    ∃ place n, d.Locates l (place, some n) ∧ ns = place ++ [n] := by
  simp only [← locate_eq_ok_iff, place?]
  split
  case h_1 place n h =>
    constructor
    · intro hn
      exact ⟨place, n, h, (Option.some.inj hn).symm⟩
    · rintro ⟨_, _, hl, rfl⟩
      cases h.symm.trans hl
      rfl
  case h_2 h =>
    refine iff_of_false nofun ?_
    rintro ⟨place, n, hl, _⟩
    exact h place n hl

theorem place?_of_keeps (hk : d.Keeps e) (h : d.place? l = some ns) : e.place? l = some ns := by
  rw [place?_eq_some_iff] at h ⊢
  obtain ⟨place, n, hl, hn⟩ := h
  exact ⟨place, n, hl.of_keeps hk, hn⟩

theorem read?_eq_some_iff : d.read? l = some text ↔
    ∃ ns, d.place? l = some ns ∧ d.get? ns = some (.file text) := by
  rw [read?]
  cases hp : d.place? l
  case none => simp
  case some ns =>
    cases hg : d.get? ns
    case none => simp [hg]
    case some x => cases x <;> simp [hg]

def Above (d : Disk) (ns : List String) (l : Location) : Prop :=
  ∃ front back, l.names = front ++ back ∧ back ≠ [] ∧ d.follow [] front = .ok ns

theorem Above.of_keeps (hk : d.Keeps e) (h : d.Above ns l) : e.Above ns l := by
  obtain ⟨front, back, hl, hb, h⟩ := h
  exact ⟨front, back, hl, hb, follow_of_keeps hk h⟩

theorem follow_plain {start place : List String} (hp : ∀ n ∈ ns, IsPlain n)
    (h : d.follow start ns = .ok place) : place = start ++ ns := by
  induction ns generalizing start
  case nil =>
    cases h
    exact (append_nil _).symm
  case cons n ns ih =>
    have ⟨hn, hp⟩ := forall_mem_cons.mp hp
    rcases follow_cons_iff.mp h with ⟨hb, _⟩ | ⟨_, _, _, h⟩
    case inl => exact absurd hb hn.ne_back
    case inr => rw [ih hp h, append_assoc, singleton_append]

end Disk

namespace Fragment

def IsPlain (f : Fragment) : Prop :=
  (∀ n ∈ f.modules, Location.IsPlain n) ∧ Location.IsPlain f.name

variable {f g : Fragment} {base : Location}

theorem names_target (hf : f.IsPlain) :
    (base.join f.fileName).names = base.names ++ f.modules ++ [ownName f.name] := by
  rw [fileName, names_join base (isRelative_fileNameOf hf.1 hf.2), names_fileNameOf hf.1 hf.2,
    append_assoc]

theorem of_place?_target {d : Disk} {ns : List String} (hf : f.IsPlain)
    (h : d.place? (base.join f.fileName) = some ns) :
    ∃ start, d.follow [] base.names = .ok start ∧ ns = start ++ f.modules ++ [ownName f.name] := by
  obtain ⟨place, n, hl, rfl⟩ := Disk.place?_eq_some_iff.mp h
  obtain _ | ⟨_, _, hn, _, hp⟩ := hl
  obtain ⟨rfl, rfl⟩ := append_singleton_inj.mp ((names_target hf).symm.trans hn)
  obtain ⟨start, hs, hp⟩ := Disk.follow_append_iff.mp hp
  exact ⟨start, hs, by rw [Disk.follow_plain hf.1 hp]⟩

theorem fileName_of_place? {d : Disk} {ns : List String} (hf : f.IsPlain) (hg : g.IsPlain)
    (h : d.place? (base.join f.fileName) = some ns)
    (h' : d.place? (base.join g.fileName) = some ns) : f.fileName = g.fileName := by
  obtain ⟨start, hs, rfl⟩ := of_place?_target hf h
  obtain ⟨_, hs', hn⟩ := of_place?_target hg h'
  obtain rfl := Except.ok.inj (hs.symm.trans hs')
  simp only [append_assoc, append_cancel_left_eq, append_singleton_inj] at hn
  rw [fileName, fileName, hn.1, ownName_injective hn.2]

end Fragment

namespace Dump

-- What becomes of a file that is to be written: it is, or its directory cannot be made, or it
-- cannot be written there.
inductive Places (d : Disk) (l : Location) (text : String) : Disk → Option Problem → Prop
  | written {p : Location} {e : Disk} (hp : parent? l = some p)
    (hm : (d.makeDirectories p).2 = none)
    (hw : (d.makeDirectories p).1.write l text = .ok e) : Places d l text e none
  | unmade {p : Location} {failure : DiskProblem} (hp : parent? l = some p)
    (hm : (d.makeDirectories p).2 = some failure) :
    Places d l text (d.makeDirectories p).1 (some (.unwritten p failure))
  | unwritten {p : Location} {failure : DiskProblem} (hp : parent? l = some p)
    (hm : (d.makeDirectories p).2 = none)
    (hw : (d.makeDirectories p).1.write l text = .error failure) :
    Places d l text (d.makeDirectories p).1 (some (.unwritten l failure))

theorem places (d : Disk) {l : Location} (text : String) (h : l.names ≠ []) :
    Places d l text (place d l text).1 (place d l text).2 := by
  obtain ⟨p, hp⟩ := exists_parent? h
  cases hm : (d.makeDirectories p).2
  case some failure =>
    have he : place d l text = ((d.makeDirectories p).1, some (.unwritten p failure)) := by
      simp [place, hp, hm]
    rw [he]
    exact .unmade hp hm
  case none =>
    cases hw : (d.makeDirectories p).1.write l text
    case error failure =>
      have he : place d l text = ((d.makeDirectories p).1, some (.unwritten l failure)) := by
        simp [place, hp, hm, hw]
      rw [he]
      exact .unwritten hp hm hw
    case ok e =>
      have he : place d l text = (e, none) := by simp [place, hp, hm, hw]
      rw [he]
      exact .written hp hm hw

variable (target : String → Option Location)

theorem run_of_target_none (h : ∀ name, target name = none) (d : Disk) (fs : List Fragment) :
    run target d fs = ⟨d, [], none⟩ := by
  induction fs
  case nil => rfl
  case cons f fs ih => rw [run_cons_of_nowhere (h _), ih]

theorem run_append (d : Disk) (fs gs : List Fragment) : run target d (fs ++ gs) =
    match (run target d fs).problem with
    | some _ => run target d fs
    | none =>
      let dump := run target (run target d fs).disk gs
      { dump with written := (run target d fs).written ++ dump.written } := by
  induction fs generalizing d
  case nil => rfl
  case cons f fs ih =>
    rw [cons_append]
    cases h : target f.fileName
    case none =>
      rw [run_cons_of_nowhere h, run_cons_of_nowhere h]
      exact ih d
    case some l =>
      cases hp : place d l f.text with | mk e problem =>
      cases problem
      case some => rw [run_cons_of_problem h hp, run_cons_of_problem h hp]
      case none =>
        rw [run_cons_of_written h hp, run_cons_of_written h hp, ih]
        cases hr : (run target e fs).problem
        case some => exact congrArg (Dump.mk _ _) hr
        case none => rfl

theorem run_single (d : Disk) {f : Fragment} {l : Location} (h : target f.fileName = some l) :
    (run target d [f]).disk = (place d l f.text).1 ∧
      (run target d [f]).problem = (place d l f.text).2 := by
  cases hp : place d l f.text with | mk e problem =>
  cases problem
  case some =>
    rw [run_cons_of_problem h hp]
    exact ⟨rfl, rfl⟩
  case none =>
    rw [run_cons_of_written h hp]
    exact ⟨rfl, rfl⟩

end Dump

end Accessors
