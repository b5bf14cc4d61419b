import Accessors.Pass.Expansion
import Accessors.Proofs.Aliases
import Accessors.Proofs.Rules
import Accessors.Proofs.Scopes

namespace Accessors

namespace Grammar

open Rule

variable {self : Rules} {attributes : List Attribute} {ts rest : List Token}

theorem kindWord_eq_some {k : Kind} (h : kindWord.run ts = some (k, rest)) :
    ∃ i, ts = .ident i :: rest ∧ i.text = k.text := by
  rw [kindWord, run_bind_eq_some] at h
  obtain ⟨w, mid, hw, h⟩ := h
  rw [run_anyIdent_eq_some] at hw
  cases hk : [Kind.struct, .enum, .union].find? (·.text == w.text)
  case none =>
    simp only [hk, run_failure] at h
    contradiction
  case some l =>
    simp only [hk, run_pure_eq_some] at h
    have ht := List.find?_some hk
    rw [beq_iff_eq, h.left] at ht
    exact ⟨w, h.right ▸ hw, ht.symm⟩

-- What an item can be, given how it goes on behind its attributes.
inductive Becomes (self : Rules) (attributes : List Attribute) (ts rest : List Token) : Item → Prop
  | code (c : Code) : Becomes self attributes ts rest (.code c)
  | module (m : Module) (h : (moduleBody self attributes).run ts = some (m, rest)) :
    Becomes self attributes ts rest m.item
  | declaration (d : Declaration)
    (h : (declarationBody self attributes).run ts = some (d, rest)) :
    Becomes self attributes ts rest (.declaration d)

def Yields (self : Rules) (attributes : List Attribute) (p : Rule (Option Item)) : Prop :=
  ∀ ts rest i, p.run ts = some (some i, rest) → Becomes self attributes ts rest i

namespace Yields

theorem ite {c : Prop} [Decidable c] {p q : Rule (Option Item)}
    (hp : Yields self attributes p) (hq : Yields self attributes q) :
    Yields self attributes (if c then p else q) := by
  split
  · exact hp
  · exact hq

theorem failure : Yields self attributes failure := by
  rintro ts rest i ⟨⟩

theorem code {α : Type} {p : Rule α} {f : α → Option Item}
    (h : ∀ a i, f a = some i → ∃ c, i = .code c) :
    Yields self attributes (p >>= fun a => pure (f a)) := by
  intro ts rest i hi
  rw [run_bind_eq_some] at hi
  obtain ⟨a, mid, _, hi⟩ := hi
  obtain ⟨c, rfl⟩ := h a i (run_pure_eq_some.mp hi).left
  exact .code c

theorem module : Yields self attributes
    (do return some (← moduleBody self attributes).item) := by
  intro ts rest i hi
  rw [run_bind_eq_some] at hi
  obtain ⟨m, mid, hm, hi⟩ := hi
  cases hi
  exact .module m hm

theorem declaration : Yields self attributes
    (do return some (.declaration (← declarationBody self attributes))) := by
  intro ts rest i hi
  rw [run_bind_eq_some] at hi
  obtain ⟨d, mid, hd, hi⟩ := hi
  cases hi
  exact .declaration d hd

end Yields

theorem yields_itemBody (isPublic : Bool) (ahead : List Token) :
    Yields self attributes (itemBody self isPublic ahead attributes) := by
  unfold itemBody
  extract_lets word behind code always sometimes module declaration isTrait isForeign
  have ha (p : Rule Code) : Yields self attributes (always p) := by
    refine .code ?_
    rintro c _ ⟨⟩
    exact ⟨_, rfl⟩
  have hs (p : Rule (Option Code)) : Yields self attributes (sometimes p) := by
    refine .code fun c i hi => ?_
    obtain ⟨c, _, rfl⟩ := Option.map_eq_some_iff.mp hi
    exact ⟨_, rfl⟩
  have hm : Yields self attributes module := .module
  have hd : Yields self attributes declaration := .declaration
  repeat' first
    | apply ha
    | apply hs
    | apply hm
    | apply hd
    | apply Yields.failure
    | apply Yields.ite

theorem dropWord_of_ne {k : String} {i : Ident} (h : i.text ≠ k) :
    dropWord k (.ident i :: ts) = .ident i :: ts := by
  simp [dropWord, Ahead.keyword, h]

theorem opensSignature_eq_false {i : Ident}
    (h : i.text ∉ ["const", "async", "unsafe", "extern", "fn"]) :
    opensSignature false (.ident i :: ts) = false := by
  simp only [List.mem_cons, List.not_mem_nil, or_false, not_or] at h
  obtain ⟨hc, ha, hu, he, hf⟩ := h
  simp [opensSignature, fromSafety, dropWord_of_ne, Ahead.keyword, hc, ha, hu, he, hf]

theorem itemBody_of_kind {isPublic : Bool} {k : Kind} {w i : Ident} (hw : w.text = k.text)
    (hi : Ahead.reserved.contains i.text = false) :
    itemBody self isPublic (.ident w :: .ident i :: ts) attributes =
      (do return some (.declaration (← declarationBody self attributes))) := by
  have hs : opensSignature false (.ident w :: .ident i :: ts) = false := by
    refine opensSignature_eq_false ?_
    cases k <;> simp [hw, Kind.text]
  have hn : Ahead.ident (.ident i :: ts) := by
    rw [Ahead.ident, hi]
    rfl
  cases k <;> simp [itemBody, hs, Ahead.keyword, hw, Kind.text, Ahead.second, Ahead.skip, hn]

theorem itemBody_of_declarationBody {isPublic : Bool} {ahead : List Token} {v : Code}
    {d : Declaration} (hv : visibility.run ts = some (v, ahead))
    (h : (declarationBody self attributes).run ts = some (d, rest)) :
    (itemBody self isPublic ahead attributes).run ts = some (some (.declaration d), rest) := by
  have hd := h
  simp only [declarationBody, run_bind_eq_some] at h
  obtain ⟨v', mid, hv', k, mid', hk, i, mid'', hn, _⟩ := h
  obtain ⟨w, rfl, hw⟩ := kindWord_eq_some hk
  obtain ⟨rfl, hi⟩ := run_ident_eq_some.mp hn
  obtain ⟨rfl, rfl⟩ : v = v' ∧ ahead = _ := by simpa [hv] using hv'
  rw [itemBody_of_kind hw hi]
  exact run_bind_eq_some.mpr ⟨d, rest, hd, rfl⟩

theorem declarationBody_of_becomes {d : Declaration}
    (h : Becomes self attributes ts rest (.declaration d)) :
    (declarationBody self attributes).run ts = some (d, rest) := by
  generalize hi : Item.declaration d = i at h
  cases h
  case code => contradiction
  case module m _ =>
    obtain ⟨head, items⟩ := m
    cases items <;> contradiction
  case declaration h =>
    obtain rfl := Item.declaration.inj hi
    exact h

theorem run_item (ts : List Token) : (item self).run ts =
    (outerAttributes self).run ts >>= fun (attributes, mid) =>
      visibility.run mid >>= fun (v, ahead) =>
        (itemBody self (!v.isEmpty) ahead attributes).run mid >>= fun (i, rest) =>
          some (i.getD (.verbatim (ts.take (ts.length - rest.length))), rest) := by
  rw [item, StateT.run_bind, run_verbatim, StateT.run_bind]
  cases (outerAttributes self).run ts
  case none => rfl
  case some r =>
    obtain ⟨attributes, mid⟩ := r
    simp only [Option.bind_eq_bind, Option.bind_some, StateT.run_bind, run_lookAhead]
    cases visibility.run mid
    case none => rfl
    case some r =>
      simp only [Option.bind_some, StateT.run_get, Option.pure_def, StateT.run_pure,
        Option.map_some]
      cases (itemBody self (!r.fst.isEmpty) r.snd attributes).run mid <;> rfl

theorem item_eq_declaration {d : Declaration} : (item self).run ts = some (.declaration d, rest) ↔
    (declaration self).run ts = some (d, rest) := by
  rw [run_item, declaration, run_bind_eq_some]
  constructor
  case mp =>
    intro h
    simp only [Option.bind_eq_bind, Option.bind_eq_some_iff, Prod.exists] at h
    obtain ⟨attributes, mid, ha, v, ahead, hv, i, rest', hi, hd⟩ := h
    cases i
    case none => simp at hd
    case some i =>
      obtain ⟨rfl, rfl⟩ : i = .declaration d ∧ rest' = rest := by simpa using hd
      exact ⟨attributes, mid, ha, declarationBody_of_becomes (yields_itemBody _ _ _ _ _ hi)⟩
  case mpr =>
    intro ⟨attributes, mid, ha, hd⟩
    have hv := hd
    rw [declarationBody, run_bind_eq_some] at hv
    obtain ⟨v, ahead, hv, _⟩ := hv
    simp [ha, hv, itemBody_of_declarationBody hv hd]

end Grammar

-- Two outcomes that differ in where a fragment belongs, and in nothing else.
inductive Outcome.Alike : Outcome → Outcome → Prop
  | unmarked : Alike .unmarked .unmarked
  | generated (s : Capabilities) (f g : Fragment) (name : f.name = g.name)
    (tokens : f.tokens = g.tokens) : Alike (.generated s f) (.generated s g)
  | failed (p : Problem) : Alike (.failed p) (.failed p)

namespace Derivation

def tokens? (d : Derivation) : Option (List Token) :=
  match d.result with
  | .ok [] => none
  | .ok (t :: ts) => some (t :: ts)
  | .error _ => none

def problem? (d : Derivation) : Option Problem :=
  match d.result with
  | .ok _ => none
  | .error p => some p

end Derivation

theorem Declaration.implTokens_ne_nil (d : Declaration) (members : List Member)
    (s : Capabilities) : d.implTokens members s ≠ [] :=
  nofun

namespace Registry

variable (r : Registry)

theorem process_alike (d : Declaration) (modules path : List String) :
    (r.process ⟨modules, d⟩).Alike (r.process ⟨path, d⟩) := by
  rw [process, process]
  cases r.classify d.attributes
  case error fault => exact .failed (.misread fault)
  case ok s =>
    cases hs : s.isEmpty
    case true => simpa [hs] using .unmarked
    case false =>
      cases d.members?
      case none => simpa [hs] using .failed (.unsupportedShape d.name d.kind)
      case some members => simpa [hs, Candidate.fragment?] using .generated s _ _ rfl rfl

variable (settings : Settings) (c : Candidate)

theorem tokens?_derive : (c.declaration.derive settings).tokens? =
    (canonical.process c).fragment?.map (·.tokens) := by
  have ha := canonical.process_alike c.declaration c.modules []
  rw [Declaration.derive]
  generalize hb : canonical.process c = o at ha ⊢
  generalize hd : canonical.process ⟨[], c.declaration⟩ = e at ha ⊢
  cases ha
  case unmarked => rfl
  case failed p => rfl
  case generated s f g hn ht =>
    have ⟨_, _, members, _, hg⟩ := canonical.process_eq_generated hd
    have hne : g.tokens ≠ [] := hg ▸ c.declaration.implTokens_ne_nil members s
    rw [Derivation.tokens?]
    cases hts : g.tokens
    case nil => exact absurd hts hne
    case cons t ts => simp [Outcome.fragment?, ht, hts]

theorem problem?_derive : (c.declaration.derive settings).problem? =
    (canonical.process c).problem? := by
  have ha := canonical.process_alike c.declaration c.modules []
  rw [Declaration.derive]
  generalize canonical.process c = o at ha ⊢
  generalize canonical.process ⟨[], c.declaration⟩ = e at ha ⊢
  cases ha <;> rfl

end Registry

-- An item that is a declaration is the same declaration by itself. The registry without aliases
-- makes the same of it, whatever modules are around it. So the fragments and the problems of a
-- batch are, in their order, what the derive pass returns for the candidates one by one.
theorem batch_agrees_with_derive (settings : Settings) :
    (∀ ts d, Item.ofTokens? ts = some (.declaration d) ↔ Declaration.ofTokens? ts = some d) ∧
    (∀ modules d, (Registry.canonical.process ⟨modules, d⟩).Alike
      (Registry.canonical.process ⟨[], d⟩)) ∧
    (∀ m : Module, (Registry.canonical.fragments m.candidates).map (·.tokens) =
        m.candidates.filterMap fun c => (c.declaration.derive settings).tokens?) ∧
    (∀ m : Module, Registry.canonical.problems m.candidates =
        m.candidates.filterMap fun c => (c.declaration.derive settings).problem?) := by
  refine ⟨?read, fun modules d => Registry.canonical.process_alike d modules [], ?fragments,
    ?problems⟩
  case read =>
    intro ts d
    rw [Item.ofTokens?, Declaration.ofTokens?, Grammar.read?_eq_some, Grammar.read?_eq_some]
    exact Grammar.item_eq_declaration
  case fragments =>
    intro m
    rw [Registry.fragments, List.map_filterMap]
    congr
    funext c
    exact (Registry.tokens?_derive settings c).symm
  case problems =>
    intro m
    rw [Registry.problems]
    congr
    funext c
    exact (Registry.problem?_derive settings c).symm

namespace Registry

theorem derive_woven_is_silent {r : Registry} (hr : r.Reachable) (fragments : List Fragment)
    (m : Module) (settings : Settings) :
    ∀ s ∈ (r.weave fragments m).1.scopes, ∀ d, .declaration d ∈ s.items →
      (d.derive settings).result = .ok [] := by
  intro s hs d hd
  rw [scopes_weave, List.mem_map] at hs
  obtain ⟨t, _, rfl⟩ := hs
  have hu : r.Unmarks d.attributes := by
    simp only [wovenScope, weaveItems_eq_map, List.mem_append, List.mem_map, fragmentsIn] at hd
    cases hd
    case inl hd =>
      obtain ⟨i, _, hi⟩ := hd
      cases i
      case declaration e _ =>
        cases hi
        exact r.unmarks_strip e.attributes
      all_goals contradiction
    case inr hd =>
      obtain ⟨f, _, hf⟩ := hd
      contradiction
  have hp : canonical.process ⟨[], d⟩ = .unmarked :=
    process_of_unmarks (unmarks_of_extends hr.extends_canonical hu)
  rw [Declaration.derive, hp]

end Registry

def plainIdent (name : String) : Ident :=
  ⟨name, false, .unlocated⟩

-- The canonical registry, where `idx` stands for the access by index as well.
def indexAlias : Registry :=
  Registry.canonical.bind "idx" .byIndex

theorem indexAlias_reachable : indexAlias.Reachable :=
  .aliased (plainIdent "idx") (plainIdent "by_index") .initial rfl

-- `mod shapes { #[idx] #[member_access] #[derive(MemberAccess)] struct Point; }`
def aliasedModule : Module where
  head := ⟨[], [], [], plainIdent "shapes"⟩
  items := some [.declaration {
    attributes := [
      ⟨false, .unlocated, .unlocated, .unlocated, ⟨false, [plainIdent "idx"]⟩, .absent⟩,
      ⟨false, .unlocated, .unlocated, .unlocated, ⟨false, [plainIdent "member_access"]⟩, .absent⟩,
      ⟨false, .unlocated, .unlocated, .unlocated, ⟨false, [plainIdent "derive"]⟩,
        .list .paren .unlocated .unlocated [.word "MemberAccess"]⟩]
    visibility := []
    name := plainIdent "Point"
    generics := .none
    clause := []
    shape := .struct .unit }]

theorem woven_alias_is_silent :
    indexAlias.Reachable ∧
    (∀ c ∈ aliasedModule.candidates, (c.declaration.derive ⟨false, none⟩).problem?.isSome) ∧
    ∀ s ∈ (indexAlias.weave [] aliasedModule).1.scopes, ∀ d, .declaration d ∈ s.items →
      (d.derive ⟨false, none⟩).result = .ok [] :=
  ⟨indexAlias_reachable, List.forall_mem_singleton.mpr rfl,
    Registry.derive_woven_is_silent indexAlias_reachable [] aliasedModule ⟨false, none⟩⟩

end Accessors
