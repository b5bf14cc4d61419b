import Mathlib.Data.List.Induction
import Accessors.Proofs.Dumps

namespace Accessors

open List Location

namespace Fragment

variable {f g : Fragment}

theorem eq_of_fileName (hf : f.IsPlain) (hg : g.IsPlain) (h : f.fileName = g.fileName) :
    (f.modules, f.name) = (g.modules, g.name) := by
  have h := congrArg Location.names h
  rw [fileName, fileName, names_fileNameOf hf.1 hf.2, names_fileNameOf hg.1 hg.2,
    append_singleton_inj] at h
  rw [h.1, ownName_injective h.2]

end Fragment

def Settings.dumpBase? (s : Settings) (manifest : Option Location) : Option Location :=
  s.dumpDirectory.map fun directory =>
    if directory.isRelative then (manifest.map (·.join directory)).getD directory else directory

theorem Settings.dumpTarget_of_base {s : Settings} {manifest : Option Location} {base : Location}
    (h : s.dumpBase? manifest = some base) (fileName : String) :
    s.dumpTarget manifest fileName = some (base.join fileName) := by
  obtain ⟨directory, hd, rfl⟩ := Option.map_eq_some_iff.mp h
  rw [dumpTarget, hd]
  rfl

namespace Dump

variable {base p : Location} {d e e' : Disk} {written tried fs : List Fragment} {f : Fragment}

-- The second disk is the first one after some fragments were written below a directory, and after
-- the way was made to some fragments. A file has the text of the last fragment that goes there.
structure Leaves (base : Location) (written tried : List Fragment) (d e : Disk) : Prop where
  texts (front : List Fragment) (f : Fragment) (back : List Fragment)
    (h : written = front ++ f :: back) (hl : ∀ g ∈ back, g.fileName ≠ f.fileName) :
    e.read? (base.join f.fileName) = some f.text
  directories (ns : List String) (h : e.get? ns = some .directory) :
    d.get? ns = some .directory ∨ ∃ f ∈ tried, e.Above ns (base.join f.fileName)
  files (ns : List String) (h : ∀ f ∈ written, e.place? (base.join f.fileName) ≠ some ns)
    (text : String) : e.get? ns = some (.file text) ↔ d.get? ns = some (.file text)
  kept : d.Keeps e

namespace Leaves

theorem refl (base : Location) (d : Disk) : Leaves base [] [] d d where
  texts _ _ _ h _ := by simp at h
  directories _ h := .inl h
  files _ _ _ := .rfl
  kept _ h := h

theorem grow (h : Leaves base written tried d e) (hf : f.IsPlain)
    (hp : parent? (base.join f.fileName) = some p) (hg : Disk.Grows p e e') :
    Leaves base written (tried ++ [f]) d e' := by
  constructor
  case texts =>
    intro front g back hw hl
    obtain ⟨ns, hn, ht⟩ := Disk.read?_eq_some_iff.mp (h.texts front g back hw hl)
    exact Disk.read?_eq_some_iff.mpr ⟨ns, Disk.place?_of_keeps hg.keeps hn, hg.kept _ _ ht⟩
  case directories =>
    intro ns hn
    rcases hg.made ns _ hn with hn | ⟨-, front, ⟨back, hb⟩, hn⟩
    case inl =>
      refine (h.directories ns hn).imp_right ?_
      rintro ⟨g, hm, ha⟩
      exact ⟨g, mem_append_left _ hm, ha.of_keeps hg.keeps⟩
    case inr =>
      refine .inr ⟨f, by simp, front, back ++ [Fragment.ownName f.name], ?_, by simp, hn⟩
      rw [← append_assoc, hb, names_parent? hp, Fragment.names_target hf, dropLast_concat]
  case files =>
    intro ns hn text
    rw [← h.files ns fun g hm hg' => hn g hm (Disk.place?_of_keeps hg.keeps hg')]
    constructor
    case mp =>
      intro ht
      rcases hg.made ns _ ht with ht | ⟨hx, _⟩
      case inl => exact ht
      case inr => contradiction
    case mpr => exact hg.kept ns _
  case kept => exact fun ns hn => hg.keeps ns (h.kept ns hn)

theorem write (h : Leaves base written tried d e) (hw : ∀ g ∈ written, g.IsPlain) (hf : f.IsPlain)
    (he : e.write (base.join f.fileName) f.text = .ok e') :
    Leaves base (written ++ [f]) tried d e' := by
  obtain ⟨place, n, hl, hd, rfl⟩ := Disk.of_write he
  have hk : e.Keeps (e.put (place ++ [n]) (.file f.text)) :=
    Disk.keeps_put (by simp) _ fun h => absurd h hd
  have hput := e.get?_put (concat_ne_nil n place) (.file f.text)
  have hpf : Disk.place? (e.put (place ++ [n]) (.file f.text)) (base.join f.fileName) =
      some (place ++ [n]) :=
    Disk.place?_eq_some_iff.mpr ⟨place, n, hl.of_keeps hk, rfl⟩
  generalize e.put (place ++ [n]) (.file f.text) = e' at hk hput hpf ⊢
  constructor
  case texts =>
    intro front g back hs hb
    rcases eq_nil_or_concat back with rfl | ⟨back, g', rfl⟩
    case inl =>
      obtain ⟨rfl, rfl⟩ := append_singleton_inj.mp hs
      exact Disk.read?_eq_some_iff.mpr ⟨_, hpf, by rw [hput, if_pos rfl]⟩
    case inr =>
      rw [concat_eq_append, ← cons_append, ← append_assoc] at hs
      obtain ⟨rfl, rfl⟩ := append_singleton_inj.mp hs
      rw [concat_eq_append] at hb
      have hb := forall_mem_append.mp hb
      obtain ⟨ns, hn, ht⟩ := Disk.read?_eq_some_iff.mp (h.texts front g back rfl hb.1)
      have hn := Disk.place?_of_keeps hk hn
      refine Disk.read?_eq_some_iff.mpr ⟨ns, hn, ?_⟩
      -- The last fragment goes elsewhere, since its file has another name.
      rw [hput, if_neg, ht]
      rintro rfl
      exact hb.2 f (by simp) (Fragment.fileName_of_place? hf (hw g (by simp)) hpf hn)
  case directories =>
    intro ns hn
    rw [hput] at hn
    split at hn
    case isTrue => simp at hn
    case isFalse =>
      refine (h.directories ns hn).imp_right ?_
      rintro ⟨g, hm, ha⟩
      exact ⟨g, hm, ha.of_keeps hk⟩
  case files =>
    intro ns hn text
    have hn := forall_mem_append.mp hn
    rw [hput, if_neg, h.files ns fun g hm hg => hn.1 g hm (Disk.place?_of_keeps hk hg)]
    rintro rfl
    exact hn.2 f (by simp) hpf
  case kept => exact fun ns hn => hk ns (h.kept ns hn)

theorem read? (h : Leaves base fs tried d e) (hf : ∀ f ∈ fs, f.IsPlain)
    (hn : (fs.map fun f => (f.modules, f.name)).Nodup) {f : Fragment} (hm : f ∈ fs) :
    e.read? (base.join f.fileName) = some f.text := by
  obtain ⟨front, back, rfl⟩ := append_of_mem hm
  refine h.texts front f back rfl fun g hg he => ?_
  rw [map_append, map_cons, nodup_append] at hn
  have hg' : g ∈ front ++ f :: back := by simp [hg]
  have he := Fragment.eq_of_fileName (hf g hg') (hf f hm) he
  exact (nodup_cons.mp hn.2.1).1 (mem_map.mpr ⟨g, hg, he⟩)

end Leaves

theorem Places.leaves_of_written (h : Leaves base written tried d e)
    (hw : ∀ g ∈ written, g.IsPlain) (hf : f.IsPlain)
    (hp : Places e (base.join f.fileName) f.text e' none) :
    Leaves base (written ++ [f]) (tried ++ [f]) d e' := by
  obtain ⟨hp, -, he⟩ := hp
  exact (h.grow hf hp (e.grows_makeDirectories _)).write hw hf he

theorem Places.leaves_of_problem (h : Leaves base written tried d e) (hf : f.IsPlain)
    {problem : Problem} (hp : Places e (base.join f.fileName) f.text e' (some problem)) :
    Leaves base written (tried ++ [f]) d e' := by
  rcases hp with _ | ⟨hp, -⟩ | ⟨hp, -, -⟩ <;> exact h.grow hf hp (e.grows_makeDirectories _)

section Rounds

variable {target : String → Option Location} (ht : ∀ name, target name = some (base.join name))

include ht

theorem places_run (hf : f.IsPlain) (h : (run target d fs).problem = none) :
    Places (run target d fs).disk (base.join f.fileName) f.text
      (run target d (fs ++ [f])).disk (run target d (fs ++ [f])).problem := by
  have ⟨he, hp⟩ := run_single target (run target d fs).disk (ht f.fileName)
  simp only [run_append, h, he, hp]
  exact places _ f.text (by simp [Fragment.names_target hf])

theorem leaves_run (hf : ∀ f ∈ fs, f.IsPlain) (h : (run target d fs).problem = none) :
    Leaves base fs fs d (run target d fs).disk := by
  induction fs using List.reverseRecOn
  case nil => exact .refl base d
  case append_singleton fs f ih =>
    have ⟨hfs, hf⟩ := forall_mem_append.mp hf
    cases hr : (run target d fs).problem
    case some => simp [run_append, hr] at h
    case none =>
      have hf := hf f (by simp)
      have hs := places_run ht hf hr
      rw [h] at hs
      exact hs.leaves_of_written (ih hfs hr) hfs hf

theorem exists_of_run_problem (hf : ∀ f ∈ fs, f.IsPlain) {problem : Problem}
    (h : (run target d fs).problem = some problem) : ∃ front f back, fs = front ++ f :: back ∧
      (run target d front).problem = none ∧ run target d fs = run target d (front ++ [f]) ∧
      Places (run target d front).disk (base.join f.fileName) f.text (run target d fs).disk
        (some problem) := by
  induction fs using List.reverseRecOn
  case nil => contradiction
  case append_singleton fs f ih =>
    have ⟨hfs, hf⟩ := forall_mem_append.mp hf
    cases hr : (run target d fs).problem
    case some =>
      have he : run target d (fs ++ [f]) = run target d fs := by rw [run_append, hr]
      obtain ⟨front, g, back, rfl, hg⟩ := ih hfs (he ▸ h)
      exact ⟨front, g, back ++ [f], by simp, he ▸ hg⟩
    case none =>
      have hs := places_run ht (hf f (by simp)) hr
      rw [h] at hs
      exact ⟨fs, f, [], rfl, hr, rfl, hs⟩

end Rounds

-- Without a directory nothing is done. With one, a dump either writes all fragments, or it writes
-- those in front of one that it is stopped by: the directory of this one cannot be made, or its
-- file cannot be written.
theorem run_leaves_exactly (s : Settings) (manifest : Option Location) (d : Disk)
    (fs : List Fragment) (hf : ∀ f ∈ fs, f.IsPlain) :
    let target := s.dumpTarget manifest
    let dump := run target d fs
    (s.dumpDirectory = none → dump = ⟨d, [], none⟩) ∧
    ∀ base, s.dumpBase? manifest = some base →
      (dump.problem = none → Leaves base fs fs d dump.disk ∧
        ((fs.map fun f => (f.modules, f.name)).Nodup →
          ∀ f ∈ fs, dump.disk.read? (base.join f.fileName) = some f.text)) ∧
      ∀ problem, dump.problem = some problem → ∃ front f back, fs = front ++ f :: back ∧
        Leaves base front (front ++ [f]) d dump.disk ∧
        dump = run target d (front ++ [f]) ∧ (run target d front).problem = none ∧
        Places (run target d front).disk (base.join f.fileName) f.text dump.disk
          (some problem) := by
  intro target dump
  constructor
  case left =>
    intro hs
    exact run_of_target_none target (fun name => by simp [target, Settings.dumpTarget, hs]) d fs
  case right =>
    intro base hb
    have ht : ∀ name, target name = some (base.join name) := Settings.dumpTarget_of_base hb
    constructor
    case left =>
      intro hp
      have hl := leaves_run ht hf hp
      exact ⟨hl, fun hn f hm => hl.read? hf hn hm⟩
    case right =>
      intro problem hp
      obtain ⟨front, f, back, rfl, hr, hc, hs⟩ := exists_of_run_problem ht hf hp
      have ⟨hf, hf'⟩ := forall_mem_append.mp hf
      have hl := hs.leaves_of_problem (leaves_run ht hf hr) (hf' f (.head _))
      exact ⟨front, f, back, rfl, hl, hc, hr, hs⟩

-- The second of three fragments finds a directory where its file should be.
def crowdedDisk : Disk :=
  [["out"], ["out", "shop"], ["out", "shop", "Order_memberaccess.rs"]].foldl
    (fun d names => d.put names .directory) .blank

def crowdingFragments : List Fragment :=
  ["Item", "Order", "Price"].map fun name => ⟨["shop"], name, [.word name]⟩

theorem crowded_dump_leaves :
    let dump := run (Settings.dumpTarget ⟨false, some "out"⟩ none) crowdedDisk crowdingFragments
    (∀ f ∈ crowdingFragments, f.IsPlain) ∧ dump.problem.isSome ∧ ∃ front f back,
      crowdingFragments = front ++ f :: back ∧
        Leaves "out" front (front ++ [f]) crowdedDisk dump.disk := by
  intro dump
  have hf : ∀ f ∈ crowdingFragments, f.IsPlain := by
    simp only [crowdingFragments, map_cons, map_nil, forall_mem_cons, Fragment.IsPlain]
    decide
  have hp : dump.problem.isSome := by decide +kernel
  obtain ⟨problem, he⟩ := Option.isSome_iff_exists.mp hp
  have ⟨front, f, back, hs, hl, _⟩ :=
    ((run_leaves_exactly ⟨false, some "out"⟩ none crowdedDisk crowdingFragments hf).2 "out"
      (by decide +kernel)).2 problem he
  exact ⟨hf, hp, front, f, back, hs, hl⟩

end Dump

end Accessors
