import Accessors.Proofs.Arguments
import Accessors.Proofs.Derivation
import Accessors.Proofs.Sessions

namespace Accessors

open List

namespace Registry

variable {r s : Registry} {a : Alias} {as bs : List Alias}

structure Alike (r s : Registry) : Prop where
  lookup (name : String) : r.lookup name = s.lookup name
  isMarker (a : Attribute) : r.isMarker a = s.isMarker a
  resolve (a : Attribute) : r.resolve a = s.resolve a
  classify (as : List Attribute) : r.classify as = s.classify as

theorem capabilityOf_congr (h : r.lookup = s.lookup) : r.capabilityOf = s.capabilityOf := by
  funext p
  rw [capabilityOf, capabilityOf, h]

theorem visitMarker_congr (h : r.lookup = s.lookup) : r.visitMarker = s.visitMarker := by
  funext scope p ts caps
  rw [visitMarker, visitMarker, h]

theorem resolve_congr (h : r.lookup = s.lookup) : r.resolve = s.resolve := by
  funext a
  rw [resolve, resolve, capabilityOf_congr h, visitMarker_congr h]

theorem alike_of_lookup (h : r.lookup = s.lookup) : r.Alike s where
  lookup := congrFun h
  isMarker a := by rw [isMarker, isMarker, capabilityOf_congr h]
  resolve := congrFun (resolve_congr h)
  classify as := by
    induction as
    case nil => rfl
    case cons a as ih => rw [classify, classify, resolve_congr h, ih]

def Succeeds (r : Registry) (as : List Alias) : Prop :=
  ∀ outcome ∈ r.outcomes as, outcome = .ok ()

structure Consistent (r : Registry) (as : List Alias) : Prop where
  known : ∀ a ∈ as, ∃ c : Capability, a.target.text = c.marker
  bound : ∀ a ∈ as, ∀ c, r.lookup a.name.text = some c → a.target.text = c.marker
  agree : ∀ a ∈ as, ∀ b ∈ as, a.name.text = b.name.text → a.target.text = b.target.text

theorem Consistent.perm (h : r.Consistent as) (hp : as ~ bs) : r.Consistent bs where
  known a ha := h.known a (hp.mem_iff.mpr ha)
  bound a ha := h.bound a (hp.mem_iff.mpr ha)
  agree a ha b hb := h.agree a (hp.mem_iff.mpr ha) b (hp.mem_iff.mpr hb)

theorem succeeds_cons : r.Succeeds (a :: as) ↔
    ((register a).run r).1 = .ok () ∧ ((register a).run r).2.Succeeds as := by
  rw [Succeeds, outcomes_cons, forall_mem_cons]
  rfl

theorem Consistent.cons (h : r.Registers a (.ok ()) s) (hs : s.Consistent as) :
    r.Consistent (a :: as) := by
  obtain ⟨c, hc, hd⟩ := h.ok_iff.mp rfl
  have ha (b : Alias) (hb : b ∈ as) (hn : a.name.text = b.name.text) :
      a.target.text = b.target.text :=
    hc.trans (hs.bound b hb c (h.lookup_eq_some_iff.mpr (.inr ⟨hn, hc⟩))).symm
  refine ⟨forall_mem_cons.mpr ⟨⟨c, hc⟩, hs.known⟩, forall_mem_cons.mpr ⟨?_, ?_⟩,
    forall_mem_cons.mpr ⟨forall_mem_cons.mpr ⟨fun _ => rfl, ha⟩, ?_⟩⟩
  · intro d hl
    rw [hd d hl, hc]
  · intro b hb d hl
    exact hs.bound b hb d (h.lookup_eq_some_iff.mpr (.inl hl))
  · intro b hb
    exact forall_mem_cons.mpr ⟨fun hn => (ha b hb hn.symm).symm, hs.agree b hb⟩

theorem Consistent.outcome_eq {outcome : Except AliasProblem Unit} (h : r.Registers a outcome s)
    (hc : r.Consistent (a :: as)) : outcome = .ok () := by
  obtain ⟨c, hk⟩ := hc.known a mem_cons_self
  refine h.ok_iff.mpr ⟨c, hk, fun d hl => ?_⟩
  exact Capability.marker_injective ((hc.bound a mem_cons_self d hl).symm.trans hk)

theorem Consistent.tail (h : r.Registers a (.ok ()) s) (hc : r.Consistent (a :: as)) :
    s.Consistent as where
  known b hb := hc.known b (mem_cons_of_mem a hb)
  bound b hb c hl := by
    rcases h.lookup_eq_some_iff.mp hl with hl | ⟨hn, ht⟩
    · exact hc.bound b (mem_cons_of_mem a hb) c hl
    · exact (hc.agree a mem_cons_self b (mem_cons_of_mem a hb) hn).symm.trans ht
  agree b hb d hd := hc.agree b (mem_cons_of_mem a hb) d (mem_cons_of_mem a hd)

theorem succeeds_iff : r.Succeeds as ↔ r.Consistent as := by
  induction as generalizing r
  case nil => exact iff_of_true (by rintro _ ⟨⟩) ⟨by rintro _ ⟨⟩, by rintro _ ⟨⟩, by rintro _ ⟨⟩⟩
  case cons a as ih =>
    rw [succeeds_cons, ih]
    have hr := r.registers a
    generalize (register a).run r = x at hr
    obtain ⟨outcome, s⟩ := x
    constructor
    case mp =>
      rintro ⟨rfl, hs⟩
      exact hs.cons hr
    case mpr =>
      intro hc
      obtain rfl := hc.outcome_eq hr
      exact ⟨rfl, hc.tail hr⟩

theorem lookup_after (h : r.Succeeds as) {name : String} {c : Capability} :
    (r.after as).lookup name = some c ↔
      r.lookup name = some c ∨ ∃ a ∈ as, a.name.text = name ∧ a.target.text = c.marker := by
  induction as generalizing r
  case nil => exact (or_iff_left (by rintro ⟨_, ⟨⟩, _⟩)).symm
  case cons a as ih =>
    obtain ⟨ha, hs⟩ := succeeds_cons.mp h
    have hr := r.registers a
    rw [ha] at hr
    rw [after_cons, ih hs, hr.lookup_eq_some_iff, or_assoc]
    simp only [mem_cons, or_and_right, exists_or, exists_eq_left]

theorem succeeds_perm (hp : as ~ bs) (h : r.Succeeds as) : r.Succeeds bs :=
  succeeds_iff.mpr ((succeeds_iff.mp h).perm hp)

theorem alike_after (hp : as ~ bs) (h : r.Succeeds as) : (r.after as).Alike (r.after bs) := by
  refine alike_of_lookup (funext fun name => Option.ext fun c => ?_)
  rw [lookup_after h, lookup_after (succeeds_perm hp h)]
  simp only [hp.mem_iff]

theorem succeeds_nil : r.Succeeds [] := by
  rintro _ ⟨⟩

end Registry

open Registry

namespace Alias

theorem not_reserved_marker (c : Capability) : Ahead.reserved.contains c.marker = false := by
  cases c <;> decide

-- No reserved word is the name of a capability, so that to refuse it as a target is no loss.
theorem enter_eq_ok_iff {r s : Registry} {a : Alias} :
    enter r a = .ok s ↔ (register a).run r = (.ok (), s) := by
  rw [enter]
  cases hr : Ahead.reserved.contains a.target.text
  case true =>
    refine iff_of_false (by rintro ⟨⟩) fun h => ?_
    have ho := r.registers a
    rw [h] at ho
    obtain ⟨c, hc, _⟩ := ho.ok_iff.mp rfl
    rw [hc, not_reserved_marker] at hr
    contradiction
  case false =>
    rw [if_neg Bool.false_ne_true, run_register]
    cases r.addAlias a.name a.target
    case error => exact iff_of_false (by rintro ⟨⟩) (by rintro ⟨⟩)
    case ok => exact ⟨by rintro ⟨⟩; rfl, by rintro ⟨⟩; rfl⟩

theorem foldlM_enter_eq_ok_iff {r s : Registry} {as : List Alias} :
    as.foldlM enter r = .ok s ↔ r.Succeeds as ∧ r.after as = s := by
  induction as generalizing r
  case nil =>
    rw [List.foldlM_nil, and_iff_right succeeds_nil]
    exact Except.ok.injEq r s ▸ Iff.rfl
  case cons a as ih =>
    rw [List.foldlM_cons, succeeds_cons, after_cons, and_assoc, ← ih]
    cases ha : enter r a
    case error =>
      refine iff_of_false (by rintro ⟨⟩) fun h => ?_
      have he := enter_eq_ok_iff.mpr (Prod.ext h.left rfl)
      rw [ha] at he
      contradiction
    case ok t =>
      rw [enter_eq_ok_iff.mp ha, and_iff_right rfl]
      rfl

end Alias

namespace Argument

theorem registry_enter (s : Setup) (x : Argument) :
    (enter s x).map (·.registry) = x.aliases.foldlM Alias.enter s.registry := by
  cases x
  case dump => rfl
  case verbose => rfl
  case markers as =>
    rw [enter, aliases]
    cases as.foldlM Alias.enter s.registry <;> rfl

theorem registry_foldlM_enter (s : Setup) (xs : List Argument) :
    (xs.foldlM enter s).map (·.registry) =
      (xs.flatMap aliases).foldlM Alias.enter s.registry := by
  induction xs generalizing s
  case nil => rfl
  case cons x xs ih =>
    rw [flatMap_cons, List.foldlM_append, ← registry_enter, List.foldlM_cons]
    cases enter s x
    case error => rfl
    case ok t => exact ih t

end Argument

namespace Setup

variable {xs : List Argument} {ts : List Token}

theorem registry_ofArguments (h : Written xs ts) (base : Settings) :
    (ofArguments base ts).map (·.registry) =
      (xs.flatMap Argument.aliases).foldlM Alias.enter .canonical := by
  rw [ofArguments_of_written h, Argument.registry_foldlM_enter]

theorem ofArguments_eq_ok (h : Written xs ts) {base : Settings} {s : Setup}
    (hs : ofArguments base ts = .ok s) :
    canonical.Succeeds (xs.flatMap Argument.aliases) ∧
      canonical.after (xs.flatMap Argument.aliases) = s.registry := by
  have hr := registry_ofArguments h base
  rw [hs] at hr
  exact Alias.foldlM_enter_eq_ok_iff.mp hr.symm

theorem exists_ofArguments_iff (h : Written xs ts) (base : Settings) :
    (∃ s, ofArguments base ts = .ok s) ↔
      canonical.Succeeds (xs.flatMap Argument.aliases) := by
  constructor
  case mp =>
    rintro ⟨s, hs⟩
    exact (ofArguments_eq_ok h hs).left
  case mpr =>
    intro hc
    have hr := registry_ofArguments h base
    rw [Alias.foldlM_enter_eq_ok_iff.mpr ⟨hc, rfl⟩] at hr
    cases hs : ofArguments base ts
    case error =>
      rw [hs] at hr
      contradiction
    case ok s => exact ⟨s, rfl⟩

end Setup

theorem Registry.order_of_aliases_irrelevant {as bs : List Alias} (h : as ~ bs) :
    (canonical.Succeeds as ↔ canonical.Succeeds bs) ∧
    (canonical.Succeeds as → (canonical.after as).Alike (canonical.after bs)) ∧
    ∀ (xs ys : List Argument) (ts us : List Token) (base other : Settings),
      Setup.Written xs ts → xs.flatMap Argument.aliases = as →
      Setup.Written ys us → ys.flatMap Argument.aliases = bs →
        ((∃ s, Setup.ofArguments base ts = .ok s) ↔ canonical.Succeeds as) ∧
        ((∃ s, Setup.ofArguments base ts = .ok s) ↔ ∃ t, Setup.ofArguments other us = .ok t) ∧
        ∀ s t, Setup.ofArguments base ts = .ok s → Setup.ofArguments other us = .ok t →
          s.registry.Alike t.registry := by
  have hs : canonical.Succeeds as ↔ canonical.Succeeds bs :=
    ⟨succeeds_perm h, succeeds_perm h.symm⟩
  refine ⟨hs, alike_after h, ?_⟩
  rintro xs ys ts us base other hx rfl hy rfl
  have hb := Setup.exists_ofArguments_iff hx base
  refine ⟨hb, hb.trans (hs.trans (Setup.exists_ofArguments_iff hy other).symm), ?_⟩
  intro s t hst hut
  obtain ⟨hc, hl⟩ := Setup.ofArguments_eq_ok hx hst
  rw [← hl, ← (Setup.ofArguments_eq_ok hy hut).right]
  exact alike_after h hc

def nthAlias : Alias :=
  ⟨plainIdent "nth", plainIdent "by_index"⟩

def eachAlias : Alias :=
  ⟨plainIdent "each", plainIdent "enumerate"⟩

def Alias.tokens (a : Alias) : List Token :=
  [.ident a.name, .punct '=' .alone .unlocated, .ident a.target]

theorem Alias.written_tokens (a : Alias) : a.Written a.tokens :=
  .intro .alone .unlocated

-- `markers(nth = by_index, each = enumerate,)`
def jointMarkers : List Token :=
  [.word "markers", .enclosed .paren (nthAlias.tokens ++ .punct ',' .alone .unlocated ::
    (eachAlias.tokens ++ [.punct ',' .alone .unlocated]))]

-- `markers(each = enumerate), verbose, markers(nth = by_index)`
def dividedMarkers : List Token :=
  [.word "markers", .enclosed .paren eachAlias.tokens, .punct ',' .alone .unlocated,
    .word "verbose", .punct ',' .alone .unlocated,
    .word "markers", .enclosed .paren nthAlias.tokens]

theorem written_jointMarkers : Setup.Written [.markers [nthAlias, eachAlias]] jointMarkers := by
  have hb := Entries.Written.more nthAlias _ _ _ .alone .unlocated nthAlias.written_tokens
    (.closed eachAlias _ .alone .unlocated eachAlias.written_tokens)
  exact .some _ _ (.last _ _ (.markers (plainIdent "markers") _ _ _ _ rfl hb))

theorem written_dividedMarkers :
    Setup.Written [.markers [eachAlias], .verbose, .markers [nthAlias]] dividedMarkers := by
  have hm (a : Alias) : Argument.Written (.markers [a])
      [.word "markers", .enclosed .paren a.tokens] :=
    .markers (plainIdent "markers") _ _ _ _ rfl (.last a _ a.written_tokens)
  exact .some _ _ (.more _ _ _ _ .alone .unlocated (hm eachAlias)
    (.more _ _ [_] _ .alone .unlocated (.verbose (plainIdent "verbose") rfl)
      (.last _ _ (hm nthAlias))))

theorem divided_markers_alike :
    [nthAlias, eachAlias] ~ [eachAlias, nthAlias] ∧
    Registry.canonical.Succeeds [nthAlias, eachAlias] ∧
    Registry.canonical.Succeeds [eachAlias, nthAlias] ∧
    (Registry.canonical.after [nthAlias, eachAlias]).Alike
      (Registry.canonical.after [eachAlias, nthAlias]) ∧
    ∃ s t, Setup.ofArguments ⟨false, none⟩ jointMarkers = .ok s ∧
      Setup.ofArguments ⟨true, none⟩ dividedMarkers = .ok t ∧ s.registry.Alike t.registry := by
  have hp : [nthAlias, eachAlias] ~ [eachAlias, nthAlias] := .swap _ _ _
  obtain ⟨hs, ha, hw⟩ := Registry.order_of_aliases_irrelevant hp
  obtain ⟨hj, hd, hr⟩ := hw _ _ _ _ ⟨false, none⟩ ⟨true, none⟩
    written_jointMarkers rfl written_dividedMarkers rfl
  have hn : Registry.canonical.Succeeds [nthAlias, eachAlias] :=
    forall_mem_cons.mpr ⟨rfl, forall_mem_singleton.mpr rfl⟩
  obtain ⟨s, hj⟩ := hj.mpr hn
  obtain ⟨t, hd⟩ := hd.mp ⟨s, hj⟩
  exact ⟨hp, hn, hs.mp hn, ha hn, s, t, hj, hd, hr s t hj hd⟩

end Accessors
