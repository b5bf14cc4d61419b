import Accessors.Proofs.References
import Accessors.Proofs.Subjects

namespace Accessors

namespace Rule

-- Whatever a rule reads has a property.
def Always {α : Type} (p : Rule α) (P : α → Prop) : Prop :=
  ∀ ts a rest, p.run ts = some (a, rest) → P a

namespace Always

variable {α β : Type} {p q : Rule α} {f : α → Rule β} {P : α → Prop} {Q : β → Prop}

theorem pure {a : α} (h : P a) : (Pure.pure a : Rule α).Always P := by
  intro ts b rest hb
  rwa [← (run_pure_eq_some.mp hb).1]

theorem failure : (failure : Rule α).Always P :=
  nofun

theorem bind (hp : p.Always P) (hf : ∀ a, P a → (f a).Always Q) : (p >>= f).Always Q := by
  intro ts b rest h
  obtain ⟨a, mid, ha, hb⟩ := run_bind_eq_some.mp h
  exact hf a (hp _ _ _ ha) _ _ _ hb

theorem behind (hf : ∀ a, (f a).Always Q) : (p >>= f).Always Q := by
  intro ts b rest h
  obtain ⟨a, mid, _, hb⟩ := run_bind_eq_some.mp h
  exact hf a _ _ _ hb

theorem ite {c : Prop} [Decidable c] (hp : p.Always P) (hq : q.Always P) :
    (if c then p else q).Always P := by
  split
  · exact hp
  · exact hq

theorem inside (hp : p.Always P) (d : Delimiter) : (inside d p).Always P := by
  intro ts a rest h
  obtain ⟨x, _, hx, h⟩ := run_bind_eq_some.mp h
  cases h
  obtain ⟨_, _, body, _, h, _⟩ := run_inGroup_eq_some.mp hx
  exact hp _ _ _ h

theorem many (hp : p.Always P) (more : Ahead) : (many more p).Always fun as => ∀ a ∈ as, P a := by
  suffices hr : ∀ n, (many.rounds more p n).Always fun as => ∀ a ∈ as, P a from
    fun ts => hr _ ts
  intro n
  induction n
  case zero => exact .behind fun _ => .ite (.behind fun _ => .pure nofun) (.pure nofun)
  case succ n ih =>
    refine .behind fun _ => .ite ?_ (.pure nofun)
    exact .bind hp fun a ha => .bind ih fun as has => .pure (List.forall_mem_cons.mpr ⟨ha, has⟩)

theorem listed (hp : p.Always P) (closed : Bool) (stop : Ahead) (separator : String) :
    (listed closed stop separator p).Always fun l => ∀ a ∈ l.items, P a := by
  suffices hr : ∀ n, (listed.rounds closed stop separator p n).Always fun l =>
      ∀ a ∈ l.items, P a from fun ts => hr _ ts
  intro n
  induction n
  case zero => exact .behind fun _ => .ite (.pure nofun) .failure
  case succ n ih =>
    refine .behind fun _ => .ite (.pure nofun) <| .bind hp fun a ha => .behind fun _ =>
      .ite (.pure ?_) <| .behind fun _ => .bind ih fun l hl => .pure ?_
    · exact List.forall_mem_singleton.mpr ha
    · exact List.forall_mem_cons.mpr ⟨ha, hl⟩

end Always

end Rule

namespace Grammar

open Rule

variable {self : Rules} {ts rest : List Token}

theorem always_ident : ident.Always fun i => Ahead.reserved.contains i.text = false :=
  fun _ _ _ h => (run_ident_eq_some.mp h).2

theorem always_identCode : identCode.Always fun c =>
    ∃ i, c = [.token (.ident i)] ∧ Ahead.reserved.contains i.text = false :=
  .bind always_ident fun i hi => .pure ⟨i, rfl, hi⟩

-- The only name that is accepted although it is reserved.
theorem of_run_blank {i : Ident} (hk : Ahead.keyword "_" ts = true)
    (h : anyIdent.run ts = some (i, rest)) : i.text = "_" := by
  rw [run_anyIdent_eq_some.mp h] at hk
  exact beq_iff_eq.mp hk

theorem always_parameter (blank : Bool) : (parameter self blank).Always Parameter.Named := by
  have hother {i : Ident} {attributes introducer bound default}
      (hi : Ahead.reserved.contains i.text = false ∨ i.text = "_") :
      Parameter.Named ⟨false, attributes, introducer, [.ident i], bound, default⟩ :=
    ⟨nofun, fun _ => ⟨i, rfl, hi⟩⟩
  have hlifetime : lifetime.Always fun c =>
      ∃ s i, c = [.token (.punct '\'' .joint s), .token (.ident i)] := by
    intro ts c rest h
    obtain ⟨s, i, _, hc⟩ := run_lifetime_eq_some.mp h
    exact ⟨s, i, hc⟩
  refine .behind fun attributes => .behind fun _ => .ite ?_ <| .behind fun _ => .ite ?_ <|
    .behind fun _ => .ite ?_ ?_
  · refine .bind hlifetime ?_
    rintro _ ⟨s, i, rfl⟩
    exact .behind fun _ => .pure ⟨fun _ => ⟨s, i, rfl⟩, nofun⟩
  · refine .bind always_identCode ?_
    rintro _ ⟨i, rfl, hi⟩
    exact .behind fun _ => .behind fun _ => .pure (hother (.inl hi))
  · refine .behind fun _ => .bind always_identCode ?_
    rintro _ ⟨i, rfl, hi⟩
    exact .behind fun _ => .behind fun _ => .pure (hother (.inl hi))
  -- Here it matters what the rule has seen.
  · intro ts p rest h
    obtain ⟨_, _, hk, h⟩ := run_bind_eq_some.mp h
    split at h
    case isTrue hb =>
      obtain ⟨_, _, hc, h⟩ := run_bind_eq_some.mp h
      obtain ⟨i, _, hi, hc'⟩ := run_bind_eq_some.mp hc
      cases hk
      cases hc'
      cases h
      exact hother (.inr (of_run_blank (Bool.and_eq_true_iff.mp hb).2 hi))
    case isFalse => cases h

theorem always_generics : (generics self).Always fun g => ∀ p ∈ g.items, p.Named :=
  .behind fun _ => .ite (.behind fun _ => .bind ((always_parameter true).listed _ _ _)
    fun _ hl => .behind fun _ => .pure hl) (.pure nofun)

theorem always_namedField : (namedField self).Always fun x =>
    Ahead.reserved.contains x.1.text = false ∨ x.1.text = "_" := by
  intro ts x rest h
  obtain ⟨_, _, _, h⟩ := run_bind_eq_some.mp h
  obtain ⟨_, ts, _, h⟩ := run_bind_eq_some.mp h
  obtain ⟨blank, mid, hb, h⟩ := run_bind_eq_some.mp h
  obtain ⟨hk, rfl⟩ : Ahead.keyword "_" ts = blank ∧ ts = mid := by
    cases hb
    exact ⟨rfl, rfl⟩
  have hn : ∃ mid, (if blank then anyIdent else ident : Rule Ident).run ts = some (x.1, mid) := by
    cases blank
    all_goals
      simp only [if_true, if_false, Bool.false_eq_true] at h ⊢
      obtain ⟨i, mid, hi, h⟩ := run_bind_eq_some.mp h
      obtain ⟨_, _, _, h⟩ := run_bind_eq_some.mp h
      obtain ⟨_, _, _, h⟩ := run_bind_eq_some.mp h
      split at h
      all_goals
        obtain ⟨_, _, _, h⟩ := run_bind_eq_some.mp h
        cases h
        exact ⟨mid, hi⟩
  obtain ⟨mid, hi⟩ := hn
  cases blank
  case true => exact .inr (of_run_blank hk hi)
  case false => exact .inl (run_ident_eq_some.mp hi).2

theorem always_structRest : (structRest self).Always fun x => ∀ fields, x.2 = .named fields →
    ∀ x ∈ fields.items, Ahead.reserved.contains x.1.text = false ∨ x.1.text = "_" := by
  refine .behind fun _ => .ite (.behind fun _ => .behind fun _ => .behind fun _ => .pure nofun) <|
    .behind fun clause => .behind fun _ => .ite ?_ (.behind fun _ => .pure nofun)
  refine .bind ((always_namedField.listed _ _ _).inside _) fun fields hf => .pure ?_
  rintro _ ⟨⟩
  exact hf

theorem always_shape (kind : Kind) : (shape self kind).Always fun x =>
    ∀ fields, x.2 = .struct (.named fields) →
      ∀ x ∈ fields.items, Ahead.reserved.contains x.1.text = false ∨ x.1.text = "_" := by
  cases kind
  case struct =>
    refine .bind always_structRest fun (_, fields) hf => .pure ?_
    rintro fields ⟨⟩
    exact hf fields rfl
  all_goals exact .behind fun _ => .behind fun _ => .pure nofun

theorem always_declaration : (declaration self).Always fun d =>
    Ahead.reserved.contains d.name.text = false ∧ (∀ p ∈ d.generics.items, p.Named) ∧
      ∀ fields, d.shape = .struct (.named fields) → ∀ x ∈ fields.items,
        Ahead.reserved.contains x.1.text = false ∨ x.1.text = "_" :=
  .behind fun _ => .behind fun _ => .behind fun kind => .bind always_ident fun _ hn =>
    .bind always_generics fun _ hg => .bind (always_shape kind) fun _ hs => .pure ⟨hn, hg, hs⟩

end Grammar

open Grammar

-- A field without a name of its own cannot be selected, but every other one can.
theorem Declaration.selectable_of_ofTokens? {ts : List Token} {d : Declaration}
    (h : Declaration.ofTokens? ts = some d) {fields : Fields} (hf : d.shape = .struct fields) :
    ∀ m ∈ fields.members, m.name ≠ "_" → Selectable m.access := by
  have hd := (always_declaration _ _ _ (read?_eq_some.mp h)).2.2
  intro m hm hn
  cases fields
  case unit => cases hm
  case tuple fields =>
    obtain ⟨x, _, rfl⟩ := List.mem_map.mp hm
    trivial
  case named fields =>
    obtain ⟨⟨⟨name, field⟩, position⟩, hx, rfl⟩ := List.mem_map.mp hm
    cases hd fields hf (name, field) (List.fst_mem_of_mem_zipIdx hx)
    case inl hi => exact hi
    case inr hi => exact absurd (Ident.of_text_blank hi).2 hn

end Accessors
