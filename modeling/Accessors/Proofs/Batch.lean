import Accessors.Pass.Expansion
import Accessors.Proofs.Quoting
import Accessors.Proofs.Scopes
import Accessors.Proofs.Sites

namespace Accessors

namespace Problem

-- The tokens are `::core::compile_error! { literal }`, all of them at the place of the problem, and
-- the literal stands for the message.
def Told (p : Problem) (ts : List Token) : Prop :=
  ∃ literal, Text.unquote? literal = some p.message ∧ ts =
    [.punct ':' .joint p.span, .punct ':' .alone p.span, .ident ⟨"core", false, p.span⟩,
      .punct ':' .joint p.span, .punct ':' .alone p.span, .ident ⟨"compile_error", false, p.span⟩,
      .punct '!' .alone p.span, .group .brace p.span p.span [.literal literal p.span]]

theorem told_diagnostic (p : Problem) : p.Told p.diagnostic :=
  ⟨_, Text.unquote?_quote p.message, rfl⟩

theorem forall₂_told (ps : List Problem) : List.Forall₂ Told ps (ps.map diagnostic) :=
  List.forall₂_map_right_iff.mpr (List.forall₂_same.mpr fun p _ => p.told_diagnostic)

end Problem

namespace Registry

variable (r : Registry)

theorem exists_scope_of_process {m : Module} {c : Candidate} {f : Fragment}
    (hc : c ∈ m.candidates) (hf : (r.process c).fragment? = some f) :
    ∃ s ∈ (r.weave (r.fragments m.candidates) m).1.scopes,
      s.modules = c.modules ∧ .verbatim f.tokens ∈ s.items := by
  have hm : f ∈ r.fragments m.candidates := List.mem_filterMap.mpr ⟨c, hc, hf⟩
  have ⟨s, hs, ho⟩ := List.mem_flatMap.mp <| (r.fragments_perm m).mem_iff.mp hm
  have hp : f.modules = s.modules := r.modules_eq_of_mem_ownFragments ho
  have hl : .verbatim f.tokens ∈ fragmentsIn (r.fragments m.candidates) s.modules :=
    List.mem_map.mpr ⟨f, by simpa [hp] using hm, rfl⟩
  refine ⟨r.wovenScope (r.fragments m.candidates) s, ?_, ?_, ?_⟩
  · rw [scopes_weave]
    exact List.mem_map_of_mem hs
  · rw [← r.modules_eq_of_process hf, hp, wovenScope]
  · exact List.mem_append_right _ hl

end Registry

namespace Module

variable (base : Settings) (manifestDirectory : Option Location) (disk : Disk)
variable (arguments : List Token) (m : Module)

def dump (setup : Setup) : Dump :=
  Dump.run (setup.settings.dumpTarget manifestDirectory) disk
    (setup.registry.fragments m.candidates)

inductive Stop : Problem → Prop
  | arguments (fault : Fault) (h : Setup.ofArguments base arguments = .error fault) :
    Stop (.misread fault)
  | body (setup : Setup) (h : Setup.ofArguments base arguments = .ok setup)
    (hb : m.items = none) : Stop (.notInline m.head.name)
  | dump (setup : Setup) (p : Problem) (h : Setup.ofArguments base arguments = .ok setup)
    (hb : m.items.isSome) (hd : (m.dump manifestDirectory disk setup).problem = some p) : Stop p

structure Stopped (e : Expansion) (p : Problem) : Prop where
  output : ∃ told, p.Told told ∧ e.output = told ++ m.tokens
  problems : e.problems = [p]

-- The output is the woven module and all problems: first those of the candidates in their order,
-- then those of the sites in theirs. No problem keeps the fragment of another candidate away.
structure Completed (r : Registry) (e : Expansion) : Prop where
  output : ∃ told, List.Forall₂ Problem.Told e.problems told ∧
    e.output = (r.weave (r.fragments m.candidates) m).1.tokens ++ told.flatten
  problems : e.problems = m.candidates.filterMap (fun c => (r.process c).problem?) ++
    (r.sites m).filterMap r.unreachedAt?
  landed (c : Candidate) (hc : c ∈ m.candidates) (f : Fragment)
    (hf : (r.process c).fragment? = some f) :
    ∃ s ∈ (r.weave (r.fragments m.candidates) m).1.scopes,
      s.modules = c.modules ∧ .verbatim f.tokens ∈ s.items

theorem expand_of_error {fault : Fault} (h : Setup.ofArguments base arguments = .error fault) :
    m.expand base manifestDirectory disk arguments = m.abort (.misread fault) disk [] := by
  simp [expand, h]

theorem expand_of_items_eq_none {setup : Setup}
    (h : Setup.ofArguments base arguments = .ok setup) (hb : m.items = none) :
    m.expand base manifestDirectory disk arguments = m.abort (.notInline m.head.name) disk [] := by
  simp [expand, h, hb]

variable {base manifestDirectory disk arguments m}

theorem expand_of_unwritten {setup : Setup} {p : Problem}
    (h : Setup.ofArguments base arguments = .ok setup) (hb : m.items.isSome)
    (hd : (m.dump manifestDirectory disk setup).problem = some p) :
    m.Stopped (m.expand base manifestDirectory disk arguments) p := by
  have hn : m.items.isNone = false := by simpa using hb
  rw [dump] at hd
  constructor
  case output => exact ⟨p.diagnostic, p.told_diagnostic, by simp [expand, h, hn, hd, abort]⟩
  case problems => simp [expand, h, hn, hd, abort]

theorem expand_of_written {setup : Setup}
    (h : Setup.ofArguments base arguments = .ok setup) (hb : m.items.isSome)
    (hd : (m.dump manifestDirectory disk setup).problem = none) :
    m.Completed setup.registry (m.expand base manifestDirectory disk arguments) := by
  have hn : m.items.isNone = false := by simpa using hb
  have hw := setup.registry.weave_problems (setup.registry.fragments m.candidates) m
  rw [dump] at hd
  constructor
  case output =>
    refine ⟨_, Problem.forall₂_told _, ?_⟩
    simp [expand, h, hn, hd, List.flatMap_def]
  case problems => simp [expand, h, hn, hd, Registry.problems, ← hw]
  case landed => exact fun c hc f hf => setup.registry.exists_scope_of_process hc hf

variable (base manifestDirectory disk arguments m)

end Module

end Accessors
