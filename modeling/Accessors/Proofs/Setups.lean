import Accessors.Proofs.Recognition
import Accessors.Proofs.Reordering

namespace Accessors

open List Registry

namespace Alias

variable {before as : List Alias} {a : Alias} {f : Fault} {r : Registry}

def Binds (as : List Alias) (name : String) (c : Capability) : Prop :=
  name = c.marker ∨ ∃ a ∈ as, a.name.text = name ∧ a.target.text = c.marker

structure Unambiguous (as : List Alias) : Prop where
  known (a : Alias) (h : a ∈ as) : ∃ c : Capability, a.target.text = c.marker
  single (name : String) (c d : Capability) (hc : Binds as name c) (hd : Binds as name d) : c = d

theorem lookup_canonical {name : String} {c : Capability} :
    canonical.lookup name = some c ↔ name = c.marker := by
  constructor
  case mp =>
    intro h
    obtain ⟨front, back, hb, _⟩ := List.lookup_eq_some_iff.mp h
    have hm : (name, c) ∈ canonical.bindings := by
      rw [hb]
      exact mem_append_right front mem_cons_self
    obtain ⟨_, _, h⟩ := mem_map.mp hm
    obtain ⟨rfl, rfl⟩ := Prod.mk.inj h
    rfl
  case mpr =>
    rintro rfl
    exact sound_canonical.canonical c

theorem lookup_after_canonical (h : canonical.Succeeds as) {name : String} {c : Capability} :
    (canonical.after as).lookup name = some c ↔ Binds as name c := by
  rw [lookup_after h, lookup_canonical, Binds]

theorem succeeds_iff_unambiguous : canonical.Succeeds as ↔ Unambiguous as := by
  constructor
  case mp =>
    intro h
    refine ⟨(succeeds_iff.mp h).known, fun name c d hc hd => ?_⟩
    rw [← lookup_after_canonical h] at hc hd
    exact Option.some.inj (hc.symm.trans hd)
  case mpr =>
    intro h
    have stands (a : Alias) (ha : a ∈ as) (c : Capability) (hc : Binds as a.name.text c) :
        a.target.text = c.marker := by
      obtain ⟨d, hd⟩ := h.known a ha
      rw [hd, h.single _ _ _ hc (.inr ⟨a, ha, rfl, hd⟩)]
    refine succeeds_iff.mpr ⟨h.known, fun a ha c hc => ?_, fun a ha b hb hn => ?_⟩
    · exact stands a ha c (.inl (lookup_canonical.mp hc))
    · obtain ⟨d, hd⟩ := h.known b hb
      rw [hd, stands a ha d (.inr ⟨b, hb, hn.symm, hd⟩)]

-- Why an alias is refused that comes behind others.
inductive Refused (before : List Alias) (a : Alias) : Fault → Prop
  | reserved (h : Ahead.reserved.contains a.target.text = true) :
    Refused before a ⟨.reservedName a.target.text, a.target.span⟩
  | unknown (hr : Ahead.reserved.contains a.target.text = false)
    (h : ∀ c : Capability, a.target.text ≠ c.marker) :
    Refused before a ⟨.badAlias (.unknownCapability a.target), a.target.span⟩
  | conflicting (c d : Capability) (target : a.target.text = c.marker)
    (bound : Binds before a.name.text d) (h : d ≠ c) :
    Refused before a ⟨.badAlias (.conflictingAlias a.name d c), a.name.span⟩

theorem enter_eq (h : Ahead.reserved.contains a.target.text = false) : enter r a =
    match (register a).run r with
    | (.ok (), s) => .ok s
    | (.error problem, _) => Entries.fault (.badAlias problem) problem.span := by
  rw [enter, h, run_register]
  cases r.addAlias a.name a.target <;> rfl

theorem enter_eq_error_iff (hr : ∀ name c, r.lookup name = some c ↔ Binds before name c) :
    enter r a = .error f ↔ Refused before a f := by
  constructor
  case mp =>
    cases hw : Ahead.reserved.contains a.target.text
    case true =>
      rw [enter, hw]
      rintro ⟨⟩
      exact .reserved hw
    case false =>
      rw [enter_eq hw]
      have h := r.registers a
      generalize (register a).run r = x at h
      obtain ⟨outcome, s⟩ := x
      have h : r.Registers a outcome s := h
      cases h
      case unknown hu =>
        rintro ⟨⟩
        exact .unknown hw hu
      case conflicting c d target bound hd =>
        rintro ⟨⟩
        exact .conflicting c d target ((hr _ _).mp bound) hd
      all_goals rintro ⟨⟩
  case mpr =>
    rintro (hw | ⟨hw, hu⟩ | ⟨c, d, target, bound, hd⟩)
    · rw [enter, hw]
      rfl
    · rw [enter_eq hw, run_of_registers (.unknown hu)]
      rfl
    · rw [enter_eq (target ▸ not_reserved_marker c),
        run_of_registers (.conflicting c d target ((hr _ _).mpr bound) hd)]
      rfl

theorem foldlM_enter_eq_error_iff : as.foldlM enter canonical = .error f ↔
    ∃ before a after, as = before ++ a :: after ∧ Unambiguous before ∧ Refused before a f := by
  rw [Entries.foldlM_eq_error_iff]
  constructor
  case mp =>
    rintro ⟨before, a, after, r, rfl, hb, ha⟩
    obtain ⟨hs, rfl⟩ := foldlM_enter_eq_ok_iff.mp hb
    refine ⟨before, a, after, rfl, succeeds_iff_unambiguous.mp hs, ?_⟩
    exact (enter_eq_error_iff fun _ _ => lookup_after_canonical hs).mp ha
  case mpr =>
    rintro ⟨before, a, after, rfl, hu, ha⟩
    have hs := succeeds_iff_unambiguous.mpr hu
    refine ⟨before, a, after, _, rfl, foldlM_enter_eq_ok_iff.mpr ⟨hs, rfl⟩, ?_⟩
    exact (enter_eq_error_iff fun _ _ => lookup_after_canonical hs).mpr ha

theorem takes_visitBinding (scope : Span) :
    Entries.Takes scope (Setup.visitBinding scope) Written := by
  intro ts path mid r s rest hp hv
  rw [Setup.visitBinding] at hv
  split at hv
  case h_1 => contradiction
  case h_2 name hn =>
    obtain ⟨us, he, hu⟩ := Entries.exists_of_bind_eq_ok hv
    obtain ⟨⟨target, us⟩, ht, ha⟩ := Entries.exists_of_bind_eq_ok hu
    obtain ⟨spacing, equals, rfl⟩ := Entries.eq_of_readPunct he
    obtain rfl := Entries.eq_of_readName ht
    cases hr : r.addAlias name target
    case error => simp [hr, Entries.fault] at ha
    case ok u =>
      simp only [hr] at ha
      cases ha
      exact ⟨⟨name, target⟩, _, Entries.eq_of_readPath hp hn, .intro spacing equals⟩

end Alias

namespace Argument

variable {xs : List Argument} {s t : Setup}

def directory? : Argument → Option String
  | dump directory => some directory
  | _ => none

def isVerbose : Argument → Bool
  | verbose => true
  | _ => false

-- What arguments make of some settings. Of the directories in them, the last one counts.
def settle (base : Settings) (xs : List Argument) : Settings where
  verbose := base.verbose || xs.any isVerbose
  dumpDirectory := (xs.filterMap directory?).getLast?.or base.dumpDirectory

theorem settings_foldlM_enter (h : xs.foldlM enter s = .ok t) :
    t.settings = settle s.settings xs := by
  induction xs generalizing s
  case nil =>
    cases h
    simp [settle]
  case cons x xs ih =>
    rw [foldlM_cons] at h
    obtain ⟨u, hu, h⟩ := Entries.exists_of_bind_eq_ok h
    rw [ih h]
    cases x
    case dump directory =>
      cases hu
      simp [settle, directory?, isVerbose, getLast?_cons]
    case verbose =>
      cases hu
      simp [settle, directory?, isVerbose]
    case markers as =>
      obtain ⟨r, _, hr⟩ := Entries.exists_of_bind_eq_ok hu
      cases hr
      simp [settle, directory?, isVerbose]

theorem takes_visitArgument (scope : Span) :
    Entries.Takes scope (Setup.visitArgument scope) Written := by
  intro ts path mid s t rest hp hv
  rw [Setup.visitArgument.eq_def] at hv
  have name {word : String} (h : path.name?.map (·.text) = some word) :
      ∃ i : Ident, i.text = word ∧ ts = .ident i :: mid := by
    obtain ⟨i, hi, hw⟩ := Option.map_eq_some_iff.mp h
    exact ⟨i, hw, Entries.eq_of_readPath hp hi⟩
  split at hv
  case h_1 hn =>
    obtain ⟨i, hi, rfl⟩ := name hn
    obtain ⟨us, he, hu⟩ := Entries.exists_of_bind_eq_ok hv
    obtain ⟨⟨directory, us⟩, hd, hs⟩ := Entries.exists_of_bind_eq_ok hu
    obtain ⟨spacing, equals, rfl⟩ := Entries.eq_of_readPunct he
    obtain ⟨text, span, rfl, ht⟩ := Entries.eq_of_readString hd
    cases hs
    exact ⟨.dump directory, _, rfl, .dump i spacing equals text directory span hi ht⟩
  case h_2 hn =>
    obtain ⟨i, hi, rfl⟩ := name hn
    cases hv
    exact ⟨.verbose, [.ident i], rfl, .verbose i hi⟩
  case h_3 hn =>
    obtain ⟨i, hi, rfl⟩ := name hn
    split at hv
    case h_1 opened closed body us =>
      obtain ⟨registry, hb, hs⟩ := Entries.exists_of_bind_eq_ok hv
      obtain ⟨as, hw⟩ := Entries.exists_written_of_visit (Alias.takes_visitBinding closed)
        (Nat.lt_succ_self _) hb
      cases hs
      exact ⟨.markers as, _, rfl, .markers i opened closed as body hi hw⟩
    case h_2 => exact absurd hv Entries.faultAt_ne_ok
  case h_4 => contradiction

theorem apart_written : Entries.Apart Written := by
  rintro x us h
  cases h <;> simp [Token.isComma]

end Argument

namespace Setup

variable {xs : List Argument} {ts : List Token} {s : Setup} {f : Fault}

theorem written_iff_writtenAny : Written xs ts ↔ Entries.WrittenAny Argument.Written xs ts := by
  constructor
  case mp =>
    rintro (_ | ⟨_, _, h⟩)
    · exact .inl ⟨rfl, rfl⟩
    · exact .inr h
  case mpr =>
    rintro (⟨rfl, rfl⟩ | h)
    · exact .none
    · exact .some xs ts h

theorem exists_written_of_ofArguments {base : Settings} (h : ofArguments base ts = .ok s) :
    ∃ xs, Written xs ts := by
  simp only [written_iff_writtenAny]
  exact Entries.exists_writtenAny_of_visitAny (Argument.takes_visitArgument _) h

theorem exists_written_iff :
    (∃ xs, Written xs ts) ↔ ∀ part ∈ commaSeparated ts, ∃ x, Argument.Written x part := by
  simp only [written_iff_writtenAny, Entries.exists_writtenAny_iff Argument.apart_written]

theorem ofArguments_eq_error_iff (h : Written xs ts) (base : Settings) :
    ofArguments base ts = .error f ↔ ∃ before a after,
      xs.flatMap Argument.aliases = before ++ a :: after ∧ Alias.Unambiguous before ∧
        Alias.Refused before a f := by
  rw [← Alias.foldlM_enter_eq_error_iff, ← registry_ofArguments h base]
  cases ofArguments base ts <;> simp [Except.map]

-- Arguments are read as what each of them is written for. It takes aliases without ambiguity, or else
-- the first alias that is refused is told of. The last directory counts, and one word is enough to
-- make the pass verbose. If there is anything else between two commas, there is a fault.
theorem arguments_mean_setup (base : Settings) (ts : List Token) :
    (∀ xs, Written xs ts →
      ((∃ s, ofArguments base ts = .ok s) ↔
        Alias.Unambiguous (xs.flatMap Argument.aliases)) ∧
      (∀ s, ofArguments base ts = .ok s →
        s.settings.verbose = (base.verbose || xs.any Argument.isVerbose) ∧
        s.settings.dumpDirectory =
          (xs.filterMap Argument.directory?).getLast?.or base.dumpDirectory ∧
        ∀ name c, s.registry.lookup name = some c ↔
          Alias.Binds (xs.flatMap Argument.aliases) name c) ∧
      ∀ f, ofArguments base ts = .error f ↔ ∃ before a after,
        xs.flatMap Argument.aliases = before ++ a :: after ∧ Alias.Unambiguous before ∧
          Alias.Refused before a f) ∧
    ((∃ xs, Written xs ts) ↔ ∀ part ∈ commaSeparated ts, ∃ x, Argument.Written x part) ∧
    ((∃ part ∈ commaSeparated ts, ∀ x, ¬Argument.Written x part) →
      ∃ f, ofArguments base ts = .error f) := by
  refine ⟨fun xs h => ⟨?_, fun s hs => ?_, fun f => ofArguments_eq_error_iff h base⟩,
    exists_written_iff, ?_⟩
  · rw [exists_ofArguments_iff h, Alias.succeeds_iff_unambiguous]
  · obtain ⟨hc, hr⟩ := ofArguments_eq_ok h hs
    rw [ofArguments_of_written h] at hs
    have ht := Argument.settings_foldlM_enter hs
    exact ⟨congrArg Settings.verbose ht, congrArg Settings.dumpDirectory ht,
      fun name c => hr ▸ Alias.lookup_after_canonical hc⟩
  · rintro ⟨part, hp, hn⟩
    cases hs : ofArguments base ts
    case error f => exact ⟨f, rfl⟩
    case ok s =>
      obtain ⟨x, hx⟩ := exists_written_iff.mp (exists_written_of_ofArguments hs) part hp
      exact absurd hx (hn x)

end Setup

def dumpTokens (directory : String) : List Token :=
  [.word "dump", .punct '=' .alone .unlocated, .string directory]

theorem written_dumpTokens (directory : String) :
    Argument.Written (.dump directory) (dumpTokens directory) :=
  .dump (plainIdent "dump") _ _ _ _ _ rfl (Text.unquote?_quote directory)

-- `dump = "one", markers(nth = by_index), verbose, dump = "two",`
def layeredArguments : List Token :=
  dumpTokens "one" ++ .punct ',' .alone .unlocated ::
    ([.word "markers", .enclosed .paren nthAlias.tokens] ++ .punct ',' .alone .unlocated ::
      ([.word "verbose"] ++ .punct ',' .alone .unlocated ::
        (dumpTokens "two" ++ [.punct ',' .alone .unlocated])))

theorem written_layeredArguments :
    Setup.Written [.dump "one", .markers [nthAlias], .verbose, .dump "two"] layeredArguments :=
  have hm : Argument.Written (.markers [nthAlias])
      [.word "markers", .enclosed .paren nthAlias.tokens] :=
    .markers (plainIdent "markers") _ _ _ _ rfl (.last _ _ nthAlias.written_tokens)
  .some _ _ (.more _ _ _ _ .alone .unlocated (written_dumpTokens "one")
    (.more _ _ _ _ .alone .unlocated hm
      (.more _ _ [_] _ .alone .unlocated (.verbose (plainIdent "verbose") rfl)
        (.closed _ _ .alone .unlocated (written_dumpTokens "two")))))

-- `markers(nth = by_index, nth = enumerate)`
def clashingArguments : List Token :=
  [.word "markers", .enclosed .paren (nthAlias.tokens ++ .punct ',' .alone .unlocated ::
    Alias.tokens ⟨nthAlias.name, eachAlias.target⟩)]

theorem written_clashingArguments :
    Setup.Written [.markers [nthAlias, ⟨nthAlias.name, eachAlias.target⟩]] clashingArguments :=
  .some _ _ (.last _ _ (.markers (plainIdent "markers") _ _ _ _ rfl
    (.more _ _ _ _ .alone .unlocated nthAlias.written_tokens (.last _ _ (Alias.written_tokens _)))))

-- `verbose = enumerate`
def overlongArguments : List Token :=
  [.word "verbose", .punct '=' .alone .unlocated, .word "enumerate"]

theorem layered_arguments_mean_setup :
    (∃ s, Setup.ofArguments ⟨false, some "zero"⟩ layeredArguments = .ok s ∧
      s.settings = ⟨true, some "two"⟩ ∧ s.registry.lookup "nth" = some .byIndex) ∧
    Setup.ofArguments ⟨false, none⟩ clashingArguments =
      .error ⟨.badAlias (.conflictingAlias nthAlias.name .byIndex .enumerate), .unlocated⟩ ∧
    ∃ f, Setup.ofArguments ⟨false, none⟩ overlongArguments = .error f := by
  have hn : Alias.Unambiguous [nthAlias] :=
    Alias.succeeds_iff_unambiguous.mp (forall_mem_singleton.mpr rfl)
  obtain ⟨hl, _, _⟩ := Setup.arguments_mean_setup ⟨false, some "zero"⟩ layeredArguments
  obtain ⟨hc, _, _⟩ := Setup.arguments_mean_setup ⟨false, none⟩ clashingArguments
  obtain ⟨_, _, ho⟩ := Setup.arguments_mean_setup ⟨false, none⟩ overlongArguments
  obtain ⟨hs, hv, _⟩ := hl _ written_layeredArguments
  obtain ⟨_, _, hf⟩ := hc _ written_clashingArguments
  obtain ⟨s, hs⟩ := hs.mpr hn
  obtain ⟨hb, hd, hr⟩ := hv s hs
  refine ⟨⟨s, hs, congrArg₂ Settings.mk hb hd, ?_⟩, ?_, ?_⟩
  · exact (hr "nth" .byIndex).mpr (.inr ⟨nthAlias, .head _, rfl, rfl⟩)
  · refine (hf _).mpr ⟨[nthAlias], _, [], rfl, hn, ?_⟩
    exact .conflicting .enumerate .byIndex rfl (.inr ⟨nthAlias, .head _, rfl, rfl⟩) (by decide)
  · exact ho ⟨overlongArguments, .head _, fun x h => by cases h⟩

end Accessors
