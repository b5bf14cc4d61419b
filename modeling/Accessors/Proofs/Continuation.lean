import Accessors.Proofs.Borders

namespace Accessors.Rule

open Ahead

variable {b : Border} {α β : Type} {p q : Rule α} {f : α → Rule β}

-- Whatever the rule leaves, if the border admits it there, the border makes no difference.
structure Continues (b : Border) (p : Rule α) : Prop where
  suffix {ts rest a} : p.run ts = some (a, rest) → rest <:+ ts
  admits {ts rest a} : p.run ts = some (a, rest) → b.Admits rest → b.Admits ts
  run {ts rest a} : p.run ts = some (a, rest) → b.Admits rest →
    p.run (ts ++ b.tail) = some (a, rest ++ b.tail)

namespace Continues

theorem pure (a : α) : (Pure.pure a : Rule α).Continues b where
  suffix h := by
    obtain ⟨_, rfl⟩ := run_pure_eq_some.mp h
    exact List.suffix_rfl
  admits h hr := by
    obtain ⟨_, rfl⟩ := run_pure_eq_some.mp h
    exact hr
  run h _ := by
    obtain ⟨rfl, rfl⟩ := run_pure_eq_some.mp h
    rfl

theorem failure : (failure : Rule α).Continues b where
  suffix h := nomatch h
  admits h := nomatch h
  run h := nomatch h

theorem failure_bind : ((Alternative.failure : Rule α) >>= f).Continues b where
  suffix h := nomatch h
  admits h := nomatch h
  run h := nomatch h

theorem bind (hp : p.Continues b) (hf : ∀ a, (f a).Continues b) : (p >>= f).Continues b where
  suffix h := by
    obtain ⟨a, mid, h₁, h₂⟩ := run_bind_eq_some.mp h
    exact ((hf a).suffix h₂).trans (hp.suffix h₁)
  admits h hr := by
    obtain ⟨a, mid, h₁, h₂⟩ := run_bind_eq_some.mp h
    exact hp.admits h₁ ((hf a).admits h₂ hr)
  run h hr := by
    obtain ⟨a, mid, h₁, h₂⟩ := run_bind_eq_some.mp h
    exact run_bind_eq_some.mpr ⟨a, _, hp.run h₁ ((hf a).admits h₂ hr), (hf a).run h₂ hr⟩

theorem bind_within (hp : p.Continues b.within) (hf : ∀ a, (f a).Continues b)
    (hn : ∀ {a ts x}, (f a).run ts = some x → ts ≠ []) : (p >>= f).Continues b where
  suffix h := by
    obtain ⟨a, mid, h₁, h₂⟩ := run_bind_eq_some.mp h
    exact ((hf a).suffix h₂).trans (hp.suffix h₁)
  admits h hr := by
    obtain ⟨a, mid, h₁, h₂⟩ := run_bind_eq_some.mp h
    have hm := Border.admits_within.mpr ⟨hn h₂, (hf a).admits h₂ hr⟩
    exact (Border.admits_within.mp (hp.admits h₁ hm)).right
  run h hr := by
    obtain ⟨a, mid, h₁, h₂⟩ := run_bind_eq_some.mp h
    have hm := Border.admits_within.mpr ⟨hn h₂, (hf a).admits h₂ hr⟩
    exact run_bind_eq_some.mpr ⟨a, _, hp.run h₁ hm, (hf a).run h₂ hr⟩

theorem sees {a : Ahead} (ha : a.Steady b) : (sees a).Continues b where
  suffix h := by
    cases h
    exact List.suffix_rfl
  admits h hr := by
    cases h
    exact hr
  run h hr := by
    cases h
    exact congrArg (fun c => some (c, _)) (ha _ hr)

theorem ite {c : Prop} [Decidable c] (hp : p.Continues b) (hq : q.Continues b) :
    (if c then p else q).Continues b := by
  split
  · exact hp
  · exact hq

theorem whether {a : Ahead} (ha : a.Steady b) (hp : p.Continues b) (hq : q.Continues b) :
    (Rule.sees a >>= fun c => if c = true then p else q).Continues b :=
  (sees ha).bind fun _ => hp.ite hq

theorem cat_nil : (cat []).Continues b :=
  .pure []

theorem cat_cons {p : Rule Code} {ps : List (Rule Code)} (hp : p.Continues b)
    (hps : (cat ps).Continues b) : (cat (p :: ps)).Continues b :=
  hp.bind fun _ => hps.bind fun _ => .pure _

theorem maybe {a : Ahead} {p : Rule Code} (ha : a.Steady b) (hp : p.Continues b) :
    (maybe a p).Continues b :=
  whether ha hp (.pure [])

theorem verbatim (hp : p.Continues b) : (verbatim p).Continues b where
  suffix h := by
    rw [run_verbatim, Option.map_eq_some_iff] at h
    obtain ⟨⟨a, r⟩, h, h'⟩ := h
    cases h'
    exact hp.suffix h
  admits h hr := by
    rw [run_verbatim, Option.map_eq_some_iff] at h
    obtain ⟨⟨a, r⟩, h, h'⟩ := h
    cases h'
    exact hp.admits h hr
  run h hr := by
    rw [run_verbatim, Option.map_eq_some_iff] at h
    obtain ⟨⟨a, r⟩, h, h'⟩ := h
    cases h'
    have ⟨lead, hl⟩ := hp.suffix h
    rw [run_verbatim, hp.run h hr, Option.map_some, ← hl]
    simp

-- With more tokens, there are more rounds. That makes no difference if the rounds that there were
-- have been enough.
theorem of_rounds {r : Nat → Rule α} (hp : ∀ ts, p.run ts = (r ts.length).run ts)
    (hr : ∀ n, (r n).Continues b)
    (hm : ∀ n ts x, ts.length ≤ n → (r n).run ts = some x → (r (n + 1)).run ts = some x) :
    p.Continues b where
  suffix h := (hr _).suffix ((hp _).symm.trans h)
  admits h := (hr _).admits ((hp _).symm.trans h)
  run {ts rest a} h ha := by
    rw [hp] at h
    have hk (k : Nat) : (r (ts.length + k)).run ts = some (a, rest) := by
      induction k
      case zero => exact h
      case succ k ih => exact hm _ ts _ (Nat.le_add_right ..) ih
    rw [hp, List.length_append]
    exact (hr _).run (hk _) ha

theorem many {more : Ahead} (hm : more.Steady b) (hp : p.Continues b) :
    (many more p).Continues b := by
  have hr (n : Nat) : (many.rounds more p n).Continues b := by
    induction n
    case zero => exact .whether hm .failure_bind (.pure _)
    case succ n ih => exact .whether hm (hp.bind fun _ => ih.bind fun _ => .pure _) (.pure _)
  exact of_rounds (fun _ => rfl) hr fun n ts x _ => many_rounds_below more p n ts x

theorem listed {closed : Bool} {stop : Ahead} {separator : String} (hs : stop.Steady b)
    (ha : (Ahead.punct separator).Steady b) (hc : (punct separator).Continues b)
    (hp : p.Continues b) : (listed closed stop separator p).Continues b := by
  have he : (if closed then stop else .not (.punct separator) : Ahead).Steady b := by
    split
    · exact hs
    · exact ha.not
  have hr (n : Nat) : (listed.rounds closed stop separator p n).Continues b := by
    induction n
    case zero => exact .whether hs (.pure _) .failure
    case succ n ih =>
      exact .whether hs (.pure _) <| hp.bind fun _ => .whether he (.pure _) <|
        hc.bind fun _ => ih.bind fun _ => .pure _
  exact of_rounds (fun _ => rfl) hr fun n ts x _ =>
    listed_rounds_below closed stop separator p n ts x

theorem of_lead (h : ∀ {ts a rest}, p.run ts = some (a, rest) → ∃ lead, ts = lead ++ rest ∧
    lead ≠ [] ∧ (b.Guarded ∨ ∀ s, lead ≠ [.punct ':' .joint s]) ∧
    ∀ ts', p.run (lead ++ ts') = some (a, ts')) : p.Continues b where
  suffix hp := by
    obtain ⟨lead, rfl, _⟩ := h hp
    exact List.suffix_append lead _
  admits hp hr := by
    obtain ⟨lead, rfl, hl, hc, _⟩ := h hp
    obtain ⟨t, lead, rfl⟩ := List.exists_cons_of_ne_nil hl
    refine ⟨fun _ => List.cons_ne_nil _ _, ?_⟩
    obtain ⟨f | f | f, tail, inside⟩ := b
    case brace => trivial
    case colon =>
      intro s hs
      rw [List.cons_append, List.cons.injEq, List.append_eq_nil_iff] at hs
      obtain ⟨rfl, rfl, rfl⟩ := hs
      cases hc
      case inl hg =>
        cases hg
        case inl hi => exact hr.1 hi rfl
        case inr hn => exact hn _ rfl
      case inr hc => exact hc s rfl
    case name =>
      refine ⟨List.cons_ne_nil _ _, fun s hs => hr.2.1 ?_⟩
      rw [List.cons_append, List.cons.injEq, List.append_eq_nil_iff] at hs
      exact hs.2.2
  run hp _ := by
    obtain ⟨lead, rfl, _, _, hl⟩ := h hp
    rw [List.append_assoc, hl]

theorem next (hi : b.inside = true) : next.Continues b := by
  refine of_lead fun {ts a rest} h => ⟨[a], ?_⟩
  cases ts
  case nil => cases h
  case cons t ts =>
    cases h
    exact ⟨rfl, List.cons_ne_nil _ _, .inl (.inl hi), fun _ => rfl⟩

theorem anyIdent : anyIdent.Continues b := by
  refine of_lead fun {ts a rest} h => ⟨[.ident a], ?_⟩
  rw [run_anyIdent_eq_some] at h
  exact ⟨h, List.cons_ne_nil _ _, .inr nofun, fun ts' => run_anyIdent_eq_some.mpr rfl⟩

theorem ident : ident.Continues b := by
  refine of_lead fun {ts a rest} h => ⟨[.ident a], ?_⟩
  rw [run_ident_eq_some] at h
  exact ⟨h.1, List.cons_ne_nil _ _, .inr nofun, fun ts' => run_ident_eq_some.mpr ⟨rfl, h.2⟩⟩

theorem anyIdentCode : anyIdentCode.Continues b :=
  anyIdent.bind fun _ => .pure _

theorem identCode : identCode.Continues b :=
  ident.bind fun _ => .pure _

theorem keyword (k : String) : (keyword k).Continues b :=
  whether (steady_keyword k) anyIdentCode failure

theorem maybeKeyword (k : String) : (maybeKeyword k).Continues b :=
  maybe (steady_keyword k) anyIdentCode

theorem punct {s : String} (hs : s ≠ "") (hc : b.Guarded ∨ s ≠ ":") :
    (punct s).Continues b := by
  refine of_lead fun {ts a rest} h => ?_
  obtain ⟨lead, hts, hl, hr⟩ := run_punct_eq_some h
  refine ⟨lead, hts, ?_, hc.imp_right fun hc k hk => hc ?_, fun ts' => (hr ts').2⟩
  · rintro rfl
    exact hs (String.toList_eq_nil_iff.mp (List.length_eq_zero_iff.mp hl.symm))
  · subst hk
    have hp := (hr []).1
    have ⟨c, hs⟩ := List.length_eq_one_iff.mp hl.symm
    rw [Ahead.punct, hs] at hp
    obtain rfl : c = ':' := by simpa [Ahead.punctChars] using hp
    rw [← String.ofList_toList (s := s), hs]

theorem operator {s : String} (hs : s ∉ ["", ":"]) : (Rule.punct s).Continues b := by
  simp only [List.mem_cons, List.not_mem_nil, or_false, not_or] at hs
  exact punct hs.1 (.inr hs.2)

theorem maybePunct {s : String} (hs : s ∉ ["", ":"]) (ha : (Ahead.punct s).Steady b) :
    (maybePunct s).Continues b :=
  maybe ha (operator hs)

theorem lifetime : lifetime.Continues b := by
  refine of_lead fun {ts a rest} h => ?_
  obtain ⟨s, i, hts, ha⟩ := run_lifetime_eq_some.mp h
  refine ⟨[.punct '\'' .joint s, .ident i], hts, List.cons_ne_nil _ _, .inr nofun, fun ts' => ?_⟩
  exact run_lifetime_eq_some.mpr ⟨s, i, rfl, ha⟩

theorem literal : literal.Continues b := by
  refine of_lead fun {ts a rest} h => ?_
  obtain ⟨lead, hts, hl, hc, hr⟩ := run_literal_eq_some h
  exact ⟨lead, hts, hl, .inr hc, hr⟩

theorem stringLiteral : stringLiteral.Continues b := by
  refine of_lead fun {ts a rest} h => ?_
  obtain ⟨t, hts, hc, hr⟩ := run_stringLiteral_eq_some h
  exact ⟨[t], hts, List.cons_ne_nil _ _, .inr fun s hs => hc _ _ _ (List.cons.inj hs).1, hr⟩

theorem anyGroup : anyGroup.Continues b := by
  refine of_lead fun {ts a rest} h => ?_
  rcases ts with _ | ⟨_ | _ | _ | ⟨d, o, c, body⟩, ts⟩
  case cons.group =>
    cases h
    exact ⟨[.group d o c body], rfl, List.cons_ne_nil _ _, .inr nofun, fun _ => rfl⟩
  all_goals cases h

theorem inGroup (d : Delimiter) (p : Rule α) : (inGroup d p).Continues b := by
  refine of_lead fun {ts a rest} h => ?_
  obtain ⟨o, c, body, hts, hb⟩ := run_inGroup_eq_some.mp h
  refine ⟨[.group d o c body], hts, List.cons_ne_nil _ _, .inr nofun, fun ts' => ?_⟩
  exact run_inGroup_eq_some.mpr ⟨o, c, body, rfl, hb⟩

theorem inside (d : Delimiter) (p : Rule α) : (inside d p).Continues b :=
  (inGroup d p).bind fun _ => .pure _

theorem enclosed (d : Delimiter) (p : Rule Code) : (enclosed d p).Continues b :=
  (inGroup d p).bind fun _ => .pure _

end Continues

end Accessors.Rule
