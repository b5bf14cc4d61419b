import Accessors.Grammar.Reading

namespace Accessors

theorem Ident.of_text {i : Ident} {k : String} (hk : k.toList.head? ≠ some 'r') (h : i.text = k) :
    i.raw = false ∧ i.name = k := by
  obtain ⟨name, raw, span⟩ := i
  cases raw
  case true =>
    subst h
    simp [text] at hk
  case false => exact ⟨rfl, h⟩

namespace Ahead

variable {i : Ident} {ts : List Token} (hi : reserved.contains i.text = false)

include hi

theorem anyOf_of_not_reserved {ks : List String} (hk : ∀ k ∈ ks, k ∈ reserved) :
    anyOf ks (.ident i :: ts) = false := by
  rw [anyOf, Bool.eq_false_iff, ne_eq, List.contains_iff_mem]
  intro h
  have hr := List.contains_iff_mem.mpr (hk _ h)
  rw [hi] at hr
  cases hr

theorem keyword_of_not_reserved {k : String} (hk : k ∈ reserved) :
    keyword k (.ident i :: ts) = false := by
  rw [keyword, beq_eq_false_iff_ne]
  rintro rfl
  rw [← List.contains_iff_mem, hi] at hk
  cases hk

theorem ident_of_not_reserved : ident (.ident i :: ts) = true :=
  congrArg Bool.not hi

omit hi

theorem exists_of_punct {s : String} (c : Char) (cs : List Char) (hs : s.toList = c :: cs)
    (h : punct s ts = true) : ∃ spacing span ts', ts = .punct c spacing span :: ts' ∧
      (cs ≠ [] → spacing = .joint) ∧ punctChars cs ts' = true := by
  rw [punct, hs] at h
  rcases ts with _ | ⟨_ | ⟨k, spacing, span⟩ | _ | _, ts⟩
  case cons.punct =>
    simp only [punctChars, Bool.and_eq_true, Bool.or_eq_true, beq_iff_eq, List.isEmpty_iff] at h
    obtain ⟨⟨rfl, hsp⟩, h⟩ := h
    exact ⟨spacing, span, ts, rfl, hsp.resolve_left, h⟩
  all_goals cases h

end Ahead

namespace Rule

variable {α β : Type} {p : Rule α} {f : α → Rule β} {ts rest : List Token}

theorem run_bind_eq_some {b : β} : (p >>= f).run ts = some (b, rest) ↔
    ∃ a mid, p.run ts = some (a, mid) ∧ (f a).run mid = some (b, rest) := by
  rw [StateT.run_bind, Option.bind_eq_bind, Option.bind_eq_some_iff]
  exact Prod.exists

theorem run_bind_of {a : α} {mid : List Token} (h : p.run ts = some (a, mid)) :
    (p >>= f).run ts = (f a).run mid := by
  rw [StateT.run_bind, h]
  rfl

theorem run_pure_eq_some {a b : α} :
    (pure a : Rule α).run ts = some (b, rest) ↔ a = b ∧ ts = rest := by
  rw [StateT.run_pure, Option.pure_def, Option.some_inj, Prod.mk.injEq]

theorem run_failure : (failure : Rule α).run ts = none :=
  rfl

theorem run_sees (q : Ahead) : (sees q).run ts = some (q ts, ts) :=
  rfl

theorem run_sees_of {a : Ahead} {c : Bool} (h : a ts = c) : (sees a).run ts = some (c, ts) :=
  h ▸ run_sees a

theorem run_whether {q : Rule α} (a : Ahead) :
    (sees a >>= fun c => if c = true then p else q).run ts =
      if a ts = true then p.run ts else q.run ts := by
  rw [run_bind_of (run_sees a)]
  split <;> rfl

theorem run_maybe_of {a : Ahead} {p : Rule Code} (h : a ts = true) :
    (maybe a p).run ts = p.run ts := by
  rw [maybe, run_whether, if_pos h]

theorem run_maybe_of_not {a : Ahead} {p : Rule Code} (h : a ts = false) :
    (maybe a p).run ts = some ([], ts) := by
  rw [maybe, run_whether, h]
  rfl

theorem run_cat_cons {p : Rule Code} {ps : List (Rule Code)} {c d : Code} {mid : List Token}
    (h : p.run ts = some (c, mid)) (hs : (cat ps).run mid = some (d, rest)) :
    (cat (p :: ps)).run ts = some (c ++ d, rest) := by
  show (p >>= fun c => cat ps >>= fun d => pure (c ++ d)).run ts = _
  rw [run_bind_of h, run_bind_of hs]
  rfl

theorem run_verbatim (p : Rule α) : (verbatim p).run ts =
    (p.run ts).map fun (a, rest) => ((a, ts.take (ts.length - rest.length)), rest) := by
  cases h : p.run ts
  case none => simp [verbatim, h]
  case some r => simp [verbatim, h]

theorem run_lookAhead (p : Rule α) :
    (lookAhead p).run ts = (p.run ts).map fun (a, _) => (a, ts) := by
  cases h : p.run ts
  case none => simp [lookAhead, h]
  case some r => simp [lookAhead, h]

theorem run_anyIdent_eq_some {i : Ident} :
    anyIdent.run ts = some (i, rest) ↔ ts = .ident i :: rest := by
  rcases ts with _ | ⟨t, ts⟩
  · exact iff_of_false nofun nofun
  · cases t
    case ident j => simp [anyIdent, next]
    all_goals exact iff_of_false nofun nofun

theorem run_ident (i : Ident) : ident.run (.ident i :: ts) =
    if Ahead.reserved.contains i.text then none else some (i, ts) := by
  show StateT.run (if Ahead.reserved.contains i.text then _ else _) _ = _
  cases Ahead.reserved.contains i.text <;> rfl

theorem run_ident_eq_some {i : Ident} : ident.run ts = some (i, rest) ↔
    ts = .ident i :: rest ∧ Ahead.reserved.contains i.text = false := by
  rcases ts with _ | ⟨t, ts⟩
  · exact iff_of_false nofun nofun
  · cases t
    case ident j =>
      rw [run_ident]
      cases hj : Ahead.reserved.contains j.text <;> grind
    all_goals exact iff_of_false nofun nofun

theorem run_identCode {i : Ident} (hi : Ahead.reserved.contains i.text = false) :
    identCode.run (.ident i :: ts) = some ([.token (.ident i)], ts) :=
  run_bind_of (run_ident_eq_some.mpr ⟨rfl, hi⟩)

theorem run_inGroup_eq_some {d : Delimiter} {x : α × Span × Span} :
    (inGroup d p).run ts = some (x, rest) ↔ ∃ o c body, ts = .group d o c body :: rest ∧
      p.run body = some (x.1, []) ∧ x.2 = (o, c) := by
  rcases ts with _ | ⟨_ | _ | _ | ⟨d', o, c, body⟩, ts⟩
  case cons.group =>
    rw [inGroup, run_bind_of rfl]
    dsimp only
    by_cases hd : d = d'
    · subst hd
      rw [if_pos rfl]
      split
      case h_1 h =>
        rw [run_pure_eq_some]
        grind
      case h_2 h =>
        refine iff_of_false nofun fun ⟨o', c', body', hb, h', _⟩ => ?_
        cases hb
        exact h _ h'
    · rw [if_neg hd]
      exact iff_of_false nofun (by grind)
  all_goals exact iff_of_false nofun nofun

theorem run_lifetime_eq_some {c : Code} : lifetime.run ts = some (c, rest) ↔
    ∃ s i, ts = .punct '\'' .joint s :: .ident i :: rest ∧
      c = [.token (.punct '\'' .joint s), .token (.ident i)] := by
  cases h : Ahead.lifetime ts
  case false =>
    have hf : lifetime.run ts = none := by
      rw [lifetime, StateT.run_bind, run_sees, h]
      rfl
    rw [hf]
    refine iff_of_false nofun fun ⟨s, i, hts, _⟩ => ?_
    rw [hts] at h
    cases h
  case true =>
    unfold Ahead.lifetime at h
    split at h
    case h_1 =>
      show some _ = some _ ↔ _
      grind
    case h_2 => cases h

theorem run_stringLiteral_eq_some {c : Code} (h : stringLiteral.run ts = some (c, rest)) :
    ∃ t, ts = t :: rest ∧ (∀ ch s sp, t ≠ .punct ch s sp) ∧
      ∀ ts', stringLiteral.run (t :: ts') = some (c, ts') := by
  cases hs : Ahead.stringLiteral ts
  case false =>
    rw [stringLiteral, StateT.run_bind, run_sees, hs] at h
    cases h
  case true =>
    unfold Ahead.stringLiteral at hs
    split at hs
    case h_1 text s ts =>
      have hr (ts' : List Token) : stringLiteral.run (.literal text s :: ts') =
          some ([.token (.literal text s)], ts') := by
        rw [stringLiteral, StateT.run_bind, run_sees]
        simp only [Ahead.stringLiteral, hs]
        rfl
      cases (hr ts).symm.trans h
      exact ⟨_, rfl, nofun, hr⟩
    case h_2 => cases hs

theorem run_literal_eq_some {c : Code} (h : literal.run ts = some (c, rest)) :
    ∃ lead, ts = lead ++ rest ∧ lead ≠ [] ∧ (∀ s, lead ≠ [.punct ':' .joint s]) ∧
      ∀ ts', literal.run (lead ++ ts') = some (c, ts') := by
  cases hl : Ahead.literal ts
  case false =>
    rw [literal, StateT.run_bind, run_sees, hl] at h
    cases h
  case true =>
    unfold Ahead.literal at hl
    split at hl
    case h_1 =>
      cases h
      exact ⟨[_], rfl, nofun, nofun, fun _ => rfl⟩
    case h_2 i ts =>
      have hr (ts' : List Token) :
          literal.run (.ident i :: ts') = some ([.token (.ident i)], ts') := by
        rw [literal, StateT.run_bind, run_sees]
        simp only [Ahead.literal, hl]
        rfl
      cases (hr ts).symm.trans h
      exact ⟨[_], rfl, nofun, nofun, hr⟩
    case h_3 _ sp s text s' ts =>
      have hr (ts' : List Token) : literal.run (.punct '-' sp s :: .literal text s' :: ts') =
          some ([.token (.punct '-' .alone s), .token (.literal text s')], ts') := by
        rw [literal, StateT.run_bind, run_sees]
        simp only [Ahead.literal, hl]
        rfl
      cases (hr ts).symm.trans h
      exact ⟨[_, _], rfl, nofun, nofun, hr⟩
    case h_4 => cases hl

theorem run_punctChars_eq_some {cs : List Char} {c : Code}
    (h : (punctChars cs).run ts = some (c, rest)) :
    ∃ lead, ts = lead ++ rest ∧ lead.length = cs.length ∧
      (∀ ts', (punctChars cs).run (lead ++ ts') = some (c, ts')) ∧
      (Ahead.punctChars cs ts = true → ∀ ts', Ahead.punctChars cs (lead ++ ts') = true) := by
  induction cs generalizing ts c
  case nil =>
    cases h
    exact ⟨[], rfl, rfl, fun _ => rfl, fun _ _ => by simp [Ahead.punctChars]⟩
  case cons k cs ih =>
    rcases ts with _ | ⟨_ | ⟨k', sp, s⟩ | _ | _, ts⟩
    case cons.punct =>
      have hr (ts' : List Token) : (punctChars (k :: cs)).run (.punct k' sp s :: ts') =
          ((punctChars cs).run ts').map fun (c, rest) =>
            (.token (.punct k (if cs.isEmpty then .alone else .joint) s) :: c, rest) := by
        cases hc : (punctChars cs).run ts' <;> simp [punctChars, next, hc]
      rw [hr, Option.map_eq_some_iff] at h
      obtain ⟨⟨c, r⟩, h, hc⟩ := h
      cases hc
      obtain ⟨lead, rfl, hl, hc, ha⟩ := ih h
      refine ⟨.punct k' sp s :: lead, rfl, congrArg _ hl, fun ts' => ?_, fun hp ts' => ?_⟩
      · rw [List.cons_append, hr, hc]
        rfl
      · simp only [Ahead.punctChars, List.cons_append, Bool.and_eq_true] at hp ⊢
        exact ⟨hp.1, ha hp.2 ts'⟩
    all_goals cases h

theorem run_punct_eq_some {s : String} {c : Code} (h : (punct s).run ts = some (c, rest)) :
    ∃ lead, ts = lead ++ rest ∧ lead.length = s.toList.length ∧
      ∀ ts', Ahead.punct s (lead ++ ts') = true ∧ (punct s).run (lead ++ ts') = some (c, ts') := by
  cases hp : Ahead.punct s ts
  case false =>
    rw [punct, StateT.run_bind, run_sees, hp] at h
    cases h
  case true =>
    rw [punct, StateT.run_bind, run_sees, hp] at h
    obtain ⟨lead, rfl, hl, hr, ha⟩ := run_punctChars_eq_some h
    refine ⟨lead, rfl, hl, fun ts' => ?_⟩
    have hp' : Ahead.punct s (lead ++ ts') = true := ha hp ts'
    rw [punct, StateT.run_bind, run_sees, hp']
    exact ⟨rfl, hr ts'⟩

theorem run_cat_cons_eq_some {p : Rule Code} {ps : List (Rule Code)} :
    (cat (p :: ps)).run ts = some (c, rest) ↔ ∃ d mid e, p.run ts = some (d, mid) ∧
      (cat ps).run mid = some (e, rest) ∧ c = d ++ e := by
  show (p >>= fun d => cat ps >>= fun e => pure (d ++ e)).run ts = _ ↔ _
  simp only [run_bind_eq_some, run_pure_eq_some]
  grind

theorem run_bind_pure {α β : Type} {p : Rule α} {f : α → β} :
    (p >>= fun a => pure (f a)).run ts = (p.run ts).map fun (a, rest) => (f a, rest) := by
  cases h : p.run ts
  case none => simp [h]
  case some => simp [h]

theorem run_keyword_eq_some {k : String} (h : (keyword k).run ts = some (c, rest)) :
    ∃ i, ts = .ident i :: rest ∧ i.text = k := by
  obtain ⟨_, _, hk, h⟩ := run_bind_eq_some.mp h
  cases hk
  split at h
  case isTrue hk =>
    obtain ⟨i, _, hi, h⟩ := run_bind_eq_some.mp h
    cases h
    obtain rfl := run_anyIdent_eq_some.mp hi
    exact ⟨i, rfl, beq_iff_eq.mp hk⟩
  case isFalse => cases h

theorem run_maybeKeyword_eq_some {k : String} (h : (maybeKeyword k).run ts = some (c, rest)) :
    ts = rest ∨ ∃ i, ts = .ident i :: rest ∧ i.text = k := by
  obtain ⟨_, _, hk, h⟩ := run_bind_eq_some.mp h
  cases hk
  split at h
  case isTrue hk =>
    obtain ⟨i, _, hi, h⟩ := run_bind_eq_some.mp h
    cases h
    obtain rfl := run_anyIdent_eq_some.mp hi
    exact .inr ⟨i, rfl, beq_iff_eq.mp hk⟩
  case isFalse =>
    cases h
    exact .inl rfl

-- What the first rule reads, the second one reads in the same way.
def Below (p q : Rule α) : Prop :=
  ∀ ts x, p.run ts = some x → q.run ts = some x

theorem Below.rfl : p.Below p :=
  fun _ _ h => h

theorem Below.bind {q : Rule α} {g : α → Rule β} (hp : p.Below q) (hf : ∀ a, (f a).Below (g a)) :
    (p >>= f).Below (q >>= g) := by
  rintro ts ⟨x, rest⟩ h
  obtain ⟨a, mid, h₁, h₂⟩ := run_bind_eq_some.mp h
  exact run_bind_eq_some.mpr ⟨a, mid, hp _ _ h₁, hf a _ _ h₂⟩

theorem Below.ite {c : Prop} [Decidable c] {p' q q' : Rule α} (hp : p.Below p')
    (hq : q.Below q') : (if c then p else q).Below (if c then p' else q') := by
  split
  · exact hp
  · exact hq

theorem Below.of_le {r : Nat → Rule α} (h : ∀ n, (r n).Below (r (n + 1))) {m n : Nat}
    (hn : m ≤ n) : (r m).Below (r n) := by
  induction hn
  case refl => exact .rfl
  case step ih => exact fun ts x hx => h _ _ _ (ih ts x hx)

theorem many_rounds_below (more : Ahead) (p : Rule α) (n : Nat) :
    (many.rounds more p n).Below (many.rounds more p (n + 1)) := by
  induction n
  case zero => exact .bind .rfl fun _ => .ite nofun .rfl
  case succ n ih =>
    exact .bind .rfl fun _ => .ite (.bind .rfl fun _ => .bind ih fun _ => .rfl) .rfl

theorem listed_rounds_below (closed : Bool) (stop : Ahead) (separator : String) (p : Rule α)
    (n : Nat) : (listed.rounds closed stop separator p n).Below
      (listed.rounds closed stop separator p (n + 1)) := by
  induction n
  case zero => exact .bind .rfl fun _ => .ite .rfl nofun
  case succ n ih =>
    exact .bind .rfl fun _ => .ite .rfl <| .bind .rfl fun _ => .bind .rfl fun _ =>
      .ite .rfl <| .bind .rfl fun _ => .bind ih fun _ => .rfl

-- What the first rule reads, the second one reads just as far.
def AsFar (p q : Rule α) : Prop :=
  ∀ ts a rest, p.run ts = some (a, rest) → ∃ b, q.run ts = some (b, rest)

theorem AsFar.rfl : p.AsFar p :=
  fun _ a _ h => ⟨a, h⟩

theorem AsFar.pure (a b : α) : (Pure.pure a : Rule α).AsFar (Pure.pure b) := by
  rintro ts _ rest ⟨⟩
  exact ⟨b, Eq.refl _⟩

theorem AsFar.bind (h : ∀ a, (f a).AsFar (g a)) : (p >>= f).AsFar (p >>= g) := by
  intro ts b rest hb
  obtain ⟨a, mid, ha, hb⟩ := run_bind_eq_some.mp hb
  obtain ⟨c, hc⟩ := h a _ _ _ hb
  exact ⟨c, run_bind_eq_some.mpr ⟨a, mid, ha, hc⟩⟩

theorem AsFar.ite {c : Prop} [Decidable c] {p' q' : Rule α} (hp : p.AsFar p') (hq : q.AsFar q') :
    (if c then p else q).AsFar (if c then p' else q') := by
  split
  · exact hp
  · exact hq

end Rule

namespace Grammar

variable {α : Type}

-- What a rule of the grammar gives somewhere.
def Gives (p : Rules → Rule α) (a : α) : Prop :=
  ∃ n ts rest, (p (rules n)).run ts = some (a, rest)

theorem read?_eq_some {p : Rules → Rule α} {ts : List Token} {a : α} :
    read? p ts = some a ↔ (p (rules (depth ts))).run ts = some (a, []) := by
  rw [read?]
  split
  case h_1 h => simp [h]
  case h_2 h => simpa using h a

end Grammar

end Accessors
