import Accessors.Proofs.Footprint

namespace Accessors

open List

namespace Location

def parts (l : Location) : List String :=
  (l.toList.splitOn '/').map String.ofList

def asFront (l : Location) : Location :=
  if l.isEmpty || l.endsWith "/" then l else l ++ "/"

variable {l m : Location} {ns : List String}

theorem join_eq (l : Location) (h : isRelative m = true) : l.join m = l.asFront ++ m := by
  rw [join, h, asFront]
  cases l.isEmpty || l.endsWith "/" <;> simp

theorem parts_intercalate (hs : ∀ n ∈ ns, '/' ∉ n.toList) (hn : ns ≠ []) :
    parts ("/".intercalate ns) = ns := by
  have hs : ∀ cs ∈ ns.map String.toList, '/' ∉ cs := by simpa using hs
  have hl : ("/".intercalate ns).toList = ['/'].intercalate (ns.map String.toList) :=
    String.toList_intercalate
  rw [parts, hl, splitOn_intercalate '/' hs (by simpa using hn)]
  simp [Function.comp_def]

theorem IsPlain.ne_points {n : String} (h : IsPlain n) : n ≠ "" ∧ n ≠ "." ∧ n ≠ ".." := by
  refine ⟨h.1, ?_, h.ne_back⟩
  rintro rfl
  exact absurd h (by decide)

-- What is seen from a directory through some names is written behind it, and there are no other
-- names on the way. On a disk, it is at these names below the place of the directory.
structure Continues (base : Location) (ns : List String) (l : Location) : Prop where
  text : l = base.asFront ++ "/".intercalate ns
  names : l.names = base.names ++ ns
  place (d : Disk) (place : List String) (h : d.place? l = some place) :
    ∃ start, d.follow [] base.names = .ok start ∧ place = start ++ ns

end Location

open Location

namespace Fragment

variable {modules others : List String} {name other : String}

theorem fileNameOf_eq (modules : List String) (name : String) : fileNameOf modules name =
    "/".intercalate (modules.filter (· != "") ++ [ownName name]) := by
  induction modules
  case nil => simp [fileNameOf_nil]
  case cons n modules ih =>
    by_cases hn : n = ""
    case pos => simpa [hn, fileNameOf] using ih
    case neg => simp [fileNameOf_cons hn, ih, hn, String.intercalate_cons_of_ne_nil]

theorem parts_fileNameOf (hs : ∀ n ∈ name :: modules, '/' ∉ n.toList) :
    parts (fileNameOf modules name) = modules.filter (· != "") ++ [ownName name] := by
  have ⟨hn, hm⟩ := forall_mem_cons.mp hs
  rw [fileNameOf_eq]
  apply parts_intercalate
  case hs =>
    intro n h
    cases mem_append.mp h
    case inl h => exact hm n (mem_filter.mp h).left
    case inr h => exact mem_singleton.mp h ▸ not_slash_mem_ownName hn
  case hn => simp

theorem fileNameOf_eq_iff (hs : ∀ n ∈ name :: modules, '/' ∉ n.toList)
    (ho : ∀ n ∈ other :: others, '/' ∉ n.toList) :
    fileNameOf modules name = fileNameOf others other ↔
      modules.filter (· != "") = others.filter (· != "") ∧ name = other := by
  constructor
  case mp =>
    intro h
    have h := congrArg parts h
    rw [parts_fileNameOf hs, parts_fileNameOf ho, append_singleton_inj] at h
    exact ⟨h.left, ownName_injective h.right⟩
  case mpr =>
    rintro ⟨hm, rfl⟩
    rw [fileNameOf_eq, fileNameOf_eq, hm]

theorem filter_eq_self_of_plain (hm : ∀ n ∈ modules, Location.IsPlain n) :
    modules.filter (· != "") = modules := by
  rw [filter_eq_self]
  intro n hn
  simpa using (hm n hn).1

-- A part that is followed by the suffix of the file is too long to be a point or two.
theorem ownName_ne (name : String) :
    ownName name ≠ "" ∧ ownName name ≠ "." ∧ ownName name ≠ ".." := by
  have hl : 16 ≤ (ownName name).toList.length := by
    rw [toList_ownName, length_append]
    exact Nat.le_add_left 16 _
  refine ⟨?_, ?_, ?_⟩
  all_goals
    intro h
    exact absurd (h ▸ hl) (by decide)

theorem continues_join (base : Location) {f : Fragment} (hf : f.IsPlain) :
    base.Continues (f.modules ++ [ownName f.name]) (base.join f.fileName) where
  text := by
    rw [fileName, join_eq base (isRelative_fileNameOf hf.1 hf.2), fileNameOf_eq,
      filter_eq_self_of_plain hf.1]
  names := by rw [names_target hf, append_assoc]
  place d ns h := by
    obtain ⟨start, hs, hn⟩ := of_place?_target hf h
    exact ⟨start, hs, by rw [hn, append_assoc]⟩

-- Names without slashes can be told from the file, except that modules without a name leave nothing
-- in it. If each name is the name of a place, the file is below the directory of the dump, whatever
-- that is.
theorem files_apart_and_inside :
    (∀ modules others name other,
      (∀ n ∈ name :: modules, '/' ∉ n.toList) → (∀ n ∈ other :: others, '/' ∉ n.toList) →
        (fileNameOf modules name = fileNameOf others other ↔
          modules.filter (· != "") = others.filter (· != "") ∧ name = other)) ∧
    ∀ modules name, (∀ n ∈ name :: modules, Location.IsPlain n) →
      isRelative (fileNameOf modules name) = true ∧
      parts (fileNameOf modules name) = modules ++ [ownName name] ∧
      (∀ n ∈ parts (fileNameOf modules name), n ≠ "" ∧ n ≠ "." ∧ n ≠ "..") ∧
      ∀ (s : Settings) manifest base, s.dumpBase? manifest = some base →
        ∃ target, s.dumpTarget manifest (fileNameOf modules name) = some target ∧
          base.Continues (modules ++ [ownName name]) target := by
  refine ⟨fun _ _ _ _ => fileNameOf_eq_iff, fun modules name hp => ?_⟩
  have ⟨hn, hm⟩ := forall_mem_cons.mp hp
  have hs : parts (fileNameOf modules name) = modules ++ [ownName name] := by
    rw [parts_fileNameOf fun n h => (hp n h).2.1, filter_eq_self_of_plain hm]
  refine ⟨isRelative_fileNameOf hm hn, hs, fun n h => ?_, fun s manifest base hb => ?_⟩
  · rw [hs] at h
    cases mem_append.mp h
    case inl h => exact Location.IsPlain.ne_points (hm n h)
    case inr h => exact mem_singleton.mp h ▸ ownName_ne name
  · exact ⟨_, Settings.dumpTarget_of_base hb _,
      continues_join base (f := ⟨modules, name, []⟩) ⟨hm, hn⟩⟩

theorem square_file_inside :
    fileNameOf ["", "shapes", "", "flat"] "Square" = fileNameOf ["shapes", "flat"] "Square" ∧
    ∃ target, Settings.dumpTarget ⟨false, some "out"⟩ (some "/work")
        (fileNameOf ["shapes", "flat"] "Square") = some target ∧
      Continues "/work/out" ["shapes", "flat", "Square_memberaccess.rs"] target := by
  obtain ⟨ha, hi⟩ := files_apart_and_inside
  have ⟨_, _, _, ht⟩ := hi ["shapes", "flat"] "Square" (by decide)
  exact ⟨(ha _ _ _ _ (by decide) (by decide)).mpr (by decide), ht _ _ _ (by decide +kernel)⟩

end Fragment

end Accessors
