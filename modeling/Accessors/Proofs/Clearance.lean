import Accessors.Pass.Scan
import Accessors.Proofs.Creation
import Accessors.Proofs.Footprint
import Accessors.Proofs.Outcomes

namespace Accessors

open List Location

namespace Disk

variable {d e : Disk} {start place ns : List String} {x : Entry}

def Vacant (d : Disk) (start : List String) : Prop :=
  ∀ ns, ns ≠ [] → d.get? (start ++ ns) = none

-- Below some directory the names of directories are plain, and only they are.
def Clear (d : Disk) (start : List String) : Prop :=
  ∀ ns, ns ≠ [] → ∀ x, d.get? (start ++ ns) = some x → (x = .directory ↔ ∀ n ∈ ns, IsPlain n)

theorem Vacant.clear (h : d.Vacant start) : d.Clear start := by
  intro ns hn x hx
  rw [h ns hn] at hx
  contradiction

theorem Vacant.of_opens (h : d.Vacant place) (ho : Opens d start ns e place) (hb : ".." ∉ ns) :
    e.Vacant place := by
  intro more hm
  have ⟨_, hg⟩ := ho.get?_of_notPrefix hb
  rw [hg, h more hm]
  intro hp
  have hl := hp.length_le
  have hm := length_pos_iff.mpr hm
  rw [length_append] at hl
  omega

namespace Clear

theorem put (h : d.Clear start) (hn : ns ≠ []) (hx : x = .directory ↔ ∀ n ∈ ns, IsPlain n) :
    (d.put (start ++ ns) x).Clear start := by
  intro other ho y hy
  rw [get?_put d (by simp [hn])] at hy
  split at hy
  case isTrue he =>
    obtain rfl := append_cancel_left he
    obtain rfl := Option.some.inj hy
    exact hx
  case isFalse => exact h other ho y hy

theorem exists_opens (h : d.Clear start) {done : List String} (hd : ∀ n ∈ done, IsPlain n)
    (hp : ∀ n ∈ ns, IsPlain n) (hs : ∀ n ∈ ns, n.utf8ByteSize ≤ maxName) :
    ∃ e, Opens d (start ++ done) ns e (start ++ done ++ ns) ∧ e.Clear start := by
  induction ns generalizing d done
  case nil => exact ⟨d, by rw [append_nil]; exact .nil, h⟩
  case cons n ns ih =>
    have ⟨hpn, hp⟩ := forall_mem_cons.mp hp
    have ⟨hsn, hs⟩ := forall_mem_cons.mp hs
    have hd : ∀ m ∈ done ++ [n], IsPlain m := by
      simpa [or_imp, forall_and] using And.intro hd hpn
    have hne : done ++ [n] ≠ [] := by simp
    have ha : start ++ done ++ [n] = start ++ (done ++ [n]) := append_assoc ..
    have hl : start ++ done ++ n :: ns = start ++ (done ++ [n]) ++ ns := by simp
    rw [hl]
    cases hg : d.get? (start ++ (done ++ [n]))
    case none =>
      obtain ⟨e, ho, he⟩ := ih (h.put hne (iff_of_true rfl hd)) hd hp hs
      exact ⟨e, .made hpn.ne_back hsn (ha ▸ hg) (ha ▸ ho), he⟩
    case some x =>
      obtain rfl := (h _ hne x hg).mpr hd
      obtain ⟨e, ho, he⟩ := ih h hd hp hs
      exact ⟨e, .there hpn.ne_back hsn (ha ▸ hg) (ha ▸ ho), he⟩

end Clear

end Disk

namespace Fragment

variable {base : Location} {f g : Fragment}

theorem not_isPlain_ownName (name : String) : ¬Location.IsPlain (ownName name) := by
  intro h
  refine h.2.2 ?_
  rw [toList_ownName, mem_append]
  exact .inr (by decide)

theorem target_not_prefix (hf : f.IsPlain) (hg : g.IsPlain) :
    ¬(base.join f.fileName).names <+: (base.join g.fileName).names.dropLast := by
  rw [names_target hf, names_target hg, dropLast_concat, append_assoc, prefix_append_right_inj]
  intro h
  exact not_isPlain_ownName f.name (hg.1 _ (h.subset (by simp)))

theorem sizes_target (hf : f.IsPlain) (hl : Disk.Fits (base.join f.fileName)) :
    (∀ n ∈ f.modules, n.utf8ByteSize ≤ Disk.maxName) ∧
      (ownName f.name).utf8ByteSize ≤ Disk.maxName := by
  have hs := hl.names
  rw [names_target hf] at hs
  exact ⟨fun n hn => hs n (by simp [hn]), hs _ mem_concat_self⟩

theorem target_endsWith (base : Location) (f : Fragment) {m : Location} (hm : 0 < m.toList.length)
    (hs : ¬['s'] <:+ m.toList) : (base.join f.fileName).endsWith m = false := by
  rw [← Bool.not_eq_true, endsWith_iff]
  intro h
  have ht := (fileNameOf_suffix f.modules f.name).trans (join_suffix base f.fileName)
  exact hs (suffix_of_suffix_length_le ht h hm)

theorem target_isDotted (hf : f.IsPlain) : Disk.isDotted (base.join f.fileName) = false := by
  have he := target_endsWith base f (m := "/.") (by decide) (by decide)
  have hn : base.join f.fileName ≠ "." := by
    intro h
    have he := target_endsWith base f (m := ".") (by decide) (by decide)
    rw [h] at he
    exact absurd he (by decide +kernel)
  have ho : ownName f.name ≠ ".." := by
    intro h
    have hm : 'm' ∈ (ownName f.name).toList := by
      rw [toList_ownName, mem_append]
      exact .inr (by decide)
    rw [h] at hm
    exact absurd hm (by decide)
  simp [Disk.isDotted, he, hn, names_target hf, ho]

end Fragment

namespace Dump

variable {base : Location} {start : List String} {d : Disk} {f : Fragment} {fs : List Fragment}

def Ready (base : Location) (start : List String) (d : Disk) : Prop :=
  ∃ e, Disk.Opens d [] base.names e start ∧ e.Clear start

theorem exists_way (h : Ready base start d) (hf : f.IsPlain)
    (hl : Disk.Fits (base.join f.fileName)) : ∃ p e, parent? (base.join f.fileName) = some p ∧
      d.makeDirectories p = (e, none) ∧ e.Clear start ∧ e.follow [] base.names = .ok start ∧
      e.follow [] (base.names ++ f.modules) = .ok (start ++ f.modules) := by
  obtain ⟨mid, ho, hc⟩ := h
  have hn : (base.join f.fileName).names = base.names ++ f.modules ++ [Fragment.ownName f.name] :=
    Fragment.names_target hf
  obtain ⟨p, hp⟩ := exists_parent? (l := base.join f.fileName) (by simp [hn])
  have hpn : p.names = base.names ++ f.modules := by
    rw [names_parent? hp, hn, dropLast_concat]
  obtain ⟨e, hm, he⟩ := hc.exists_opens (forall_mem_nil _) hf.1 (Fragment.sizes_target hf hl).1
  rw [append_nil] at hm
  have ha := ho.append hm
  have hd : d.makeDirectories p = (e, none) :=
    Disk.makeDirectories_of_opens (hl.of_parent? hp) (endsWith_parent? hp) (hpn ▸ ha)
  exact ⟨p, e, hp, hd, he, Disk.follow_of_keeps hm.keeps ho.follow, ha.follow⟩

theorem write_of_way (hf : f.IsPlain) (hl : Disk.Fits (base.join f.fileName)) (hc : d.Clear start)
    (hb : d.follow [] base.names = .ok start)
    (hw : d.follow [] (base.names ++ f.modules) = .ok (start ++ f.modules)) :
    ∃ e, d.write (base.join f.fileName) f.text = .ok e ∧ Ready base start e := by
  have hn : (base.join f.fileName).names = base.names ++ f.modules ++ [Fragment.ownName f.name] :=
    Fragment.names_target hf
  have he : base.join f.fileName ≠ "" := by
    intro h
    rw [h] at hn
    simp [show Location.names "" = [] by decide] at hn
  have ht := Disk.Locates.entry (hl.refusal? he) (Fragment.target_isDotted hf) hn
    (Fragment.sizes_target hf hl).2 hw
  have hg : d.get? (start ++ f.modules ++ [Fragment.ownName f.name]) ≠ some .directory := by
    intro h
    rw [append_assoc] at h
    exact Fragment.not_isPlain_ownName f.name ((hc _ (by simp) _ h).mp rfl _ mem_concat_self)
  have hx : Entry.file f.text = .directory ↔
      ∀ n ∈ f.modules ++ [Fragment.ownName f.name], Location.IsPlain n :=
    iff_of_false nofun fun h => Fragment.not_isPlain_ownName f.name (h _ mem_concat_self)
  have hk := Disk.keeps_put (concat_ne_nil _ _) (.file f.text) fun h => absurd h hg
  refine ⟨_, Disk.write_of_locates f.text ht hg (Fragment.target_endsWith base f (by decide)
    (by decide)), _, .of_follow (Disk.follow_of_keeps hk hb), ?_⟩
  rw [append_assoc]
  exact hc.put (by simp) hx

theorem place_of_ready (h : Ready base start d) (hf : f.IsPlain)
    (hl : Disk.Fits (base.join f.fileName)) :
    ∃ e, place d (base.join f.fileName) f.text = (e, none) ∧ Ready base start e := by
  obtain ⟨p, mid, hp, hd, hc, hb, hw⟩ := exists_way h hf hl
  obtain ⟨e, he, hr⟩ := write_of_way hf hl hc hb hw
  exact ⟨e, by simp only [place, hp, hd, he, Option.map_none], hr⟩

theorem run_of_ready {target : String → Option Location}
    (ht : ∀ name, target name = some (base.join name)) (h : Ready base start d)
    (hf : ∀ f ∈ fs, f.IsPlain) (hl : ∀ f ∈ fs, Disk.Fits (base.join f.fileName)) :
    (run target d fs).problem = none ∧ Ready base start (run target d fs).disk := by
  induction fs generalizing d
  case nil => exact ⟨rfl, h⟩
  case cons f fs ih =>
    have ⟨hf, hfs⟩ := forall_mem_cons.mp hf
    have ⟨hl, hls⟩ := forall_mem_cons.mp hl
    obtain ⟨e, hp, he⟩ := place_of_ready h hf hl
    simp only [run, ht, hp]
    exact ih he hfs hls

end Dump

mutual

-- The names that lead to declarations are plain, as those of identifiers are.
def Item.Named : Item → Prop
  | .declaration d => IsPlain d.name.name
  | .inline head items => IsPlain head.name.name ∧ Item.AllNamed items
  | .outOfLine _ => True
  | .code _ => True
  | .verbatim _ => True

def Item.AllNamed : List Item → Prop
  | [] => True
  | i :: rest => i.Named ∧ Item.AllNamed rest

end

mutual

theorem Item.Named.candidates {modules : List String} (hm : ∀ n ∈ modules, IsPlain n) :
    ∀ {i : Item}, i.Named → ∀ c ∈ i.candidates modules,
      (∀ n ∈ c.modules, IsPlain n) ∧ IsPlain c.declaration.name.name
  | .declaration d, hn, c, hc => by
    rw [Item.candidates] at hc
    split at hc
    case isTrue => contradiction
    case isFalse =>
      obtain rfl := mem_singleton.mp hc
      exact ⟨hm, hn⟩
  | .inline head items, hn, c, hc => by
    refine Item.AllNamed.candidatesOf ?_ hn.2 c hc
    simpa [or_imp, forall_and] using And.intro hm hn.1
  | .outOfLine _, _, _, hc => absurd hc not_mem_nil
  | .code _, _, _, hc => absurd hc not_mem_nil
  | .verbatim _, _, _, hc => absurd hc not_mem_nil

theorem Item.AllNamed.candidatesOf {modules : List String} (hm : ∀ n ∈ modules, IsPlain n) :
    ∀ {is : List Item}, Item.AllNamed is → ∀ c ∈ Item.candidatesOf modules is,
      (∀ n ∈ c.modules, IsPlain n) ∧ IsPlain c.declaration.name.name
  | [], _, _, hc => absurd hc not_mem_nil
  | _ :: _, hn, c, hc => by
    rcases mem_append.mp hc with hc | hc
    case inl => exact Item.Named.candidates hm hn.1 c hc
    case inr => exact Item.AllNamed.candidatesOf hm hn.2 c hc

end

theorem Registry.plain_of_mem_fragments (r : Registry) {m : Module} (hm : m.item.Named)
    {f : Fragment} (hf : f ∈ r.fragments m.candidates) : f.IsPlain := by
  obtain ⟨c, hc, hf⟩ := mem_filterMap.mp hf
  have h := hm.candidates (forall_mem_nil _) c hc
  cases hp : r.process c
  case generated s g =>
    have ⟨_, _, _, _, hg⟩ := r.process_eq_generated hp
    simp only [hp, Outcome.fragment?, Option.some.injEq] at hf
    rw [← hf, hg]
    exact h
  all_goals simp [hp, Outcome.fragment?] at hf

-- With a directory that can be made, and below which there is nothing when it is made, no dump of
-- the fragments of a module fails, in whatever order they are written. If the location of the
-- directory does not lead back anywhere, it is enough that there is nothing before it is made.
theorem Registry.fragments_never_collide (r : Registry) {m : Module} (hm : m.item.Named)
    {s : Settings} {manifest : Option Location} {base : Location}
    (hb : s.dumpBase? manifest = some base) {d e : Disk} {start : List String}
    (hd : d.makeDirectories base = (e, none)) (hs : e.follow [] base.names = .ok start)
    (hv : e.Vacant start ∨ d.Vacant start ∧ ".." ∉ base.names) {fs : List Fragment}
    (hp : fs ~ r.fragments m.candidates) (hl : ∀ f ∈ fs, Disk.Fits (base.join f.fileName)) :
    (Dump.run (s.dumpTarget manifest) d fs).problem = none ∧
      ∀ f ∈ fs, ∀ g ∈ fs,
        ¬(base.join f.fileName).names <+: (base.join g.fileName).names.dropLast := by
  have hf : ∀ f ∈ fs, f.IsPlain := fun f h => r.plain_of_mem_fragments hm (hp.mem_iff.mp h)
  constructor
  case left =>
    obtain ⟨_, ho⟩ := Disk.opens_of_makeDirectories hd
    obtain rfl := Except.ok.inj (hs.symm.trans ho.follow)
    have hc : e.Clear start := by
      rcases hv with hv | ⟨hv, hn⟩
      case inl => exact hv.clear
      case inr => exact (hv.of_opens ho hn).clear
    exact (Dump.run_of_ready (Settings.dumpTarget_of_base hb) ⟨e, ho, hc⟩ hf hl).1
  case right => exact fun f h g h' => Fragment.target_not_prefix (hf f h) (hf g h')

-- `mod shapes { #[by_index] struct Point; mod draw { #[by_index] struct Pen; } }`
def markedStruct (name : String) : Item :=
  .declaration {
    attributes := [indexMarker]
    visibility := []
    name := ⟨name, false, .unlocated⟩
    generics := .none
    clause := []
    shape := .struct .unit }

def shapesModule : Module where
  head := ⟨[], [], [], ⟨"shapes", false, .unlocated⟩⟩
  items := some [
    markedStruct "Point",
    .inline ⟨[], [], [], ⟨"draw", false, .unlocated⟩⟩ [markedStruct "Pen"]]

theorem named_shapesModule : shapesModule.item.Named :=
  have plain : IsPlain "shapes" ∧ IsPlain "Point" ∧ IsPlain "draw" ∧ IsPlain "Pen" := by decide
  ⟨plain.1, plain.2.1, ⟨plain.2.2.1, plain.2.2.2, trivial⟩, trivial⟩

theorem get?_blank (ns : List String) (h : ns ≠ []) : Disk.blank.get? ns = none := by
  simp [Disk.get?, Disk.blank, h]

theorem shapes_never_collide :
    let fs := (Registry.canonical.fragments shapesModule.candidates).reverse
    fs.length = 2 ∧ (∀ f ∈ fs, Disk.Fits (join "out" f.fileName)) ∧
      (Dump.run (Settings.dumpTarget ⟨false, some "out"⟩ none) .blank fs).problem = none := by
  intro fs
  have hl : ∀ f ∈ fs, Disk.Fits (join "out" f.fileName) := by decide +kernel
  have hd : Disk.blank.makeDirectories "out" = ((Disk.blank.makeDirectories "out").1, none) :=
    Prod.ext rfl (by decide +kernel)
  have hb : Settings.dumpBase? ⟨false, some "out"⟩ none = some "out" := by decide +kernel
  have hs : (Disk.blank.makeDirectories "out").1.follow [] (Location.names "out") =
      .ok ["out"] := by decide +kernel
  have hv : Disk.blank.Vacant ["out"] ∧ ".." ∉ Location.names "out" :=
    ⟨fun ns hn => get?_blank _ (by simp), by decide +kernel⟩
  have h := Registry.canonical.fragments_never_collide named_shapesModule hb hd hs (.inr hv)
    (reverse_perm _) hl
  exact ⟨by decide +kernel, hl, h.1⟩

-- A location that leads through the place of a file and back again makes a directory there.
theorem backward_dump_collides :
    let base : Location := "x/shapes/Point_memberaccess.rs/../.."
    let fs := Registry.canonical.fragments shapesModule.candidates
    shapesModule.item.Named ∧ Settings.dumpBase? ⟨false, some base⟩ none = some base ∧
      (∀ ns, ns ≠ [] → Disk.blank.get? ns = none) ∧
      (Disk.blank.makeDirectories base).2 = none ∧
      (∀ f ∈ fs, Disk.Fits (base.join f.fileName)) ∧
      (Dump.run (Settings.dumpTarget ⟨false, some base⟩ none) .blank fs).problem.isSome := by
  intro base fs
  exact ⟨named_shapesModule, by decide +kernel, get?_blank, by decide +kernel, by decide +kernel,
    by decide +kernel⟩

end Accessors
