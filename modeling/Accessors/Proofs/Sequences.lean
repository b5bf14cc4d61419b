import Mathlib.Data.List.Forall2
import Accessors.Proofs.Rules

namespace Accessors

-- Things with commas between them, and perhaps one behind the last.
def withCommas (parts : List (List Token)) (trailing : Bool) : List Token :=
  separate (Token.operator ",") parts ++ if trailing then Token.operator "," else []

theorem withCommas_cons_cons (ts ts' : List Token) (parts : List (List Token)) (trailing : Bool) :
    withCommas (ts :: ts' :: parts) trailing =
      ts ++ (Token.operator "," ++ withCommas (ts' :: parts) trailing) := by
  simp [withCommas, separate]

theorem withCommas_false (parts : List (List Token)) :
    withCommas parts false = separate (Token.operator ",") parts :=
  List.append_nil _

namespace Rule

variable {α ι : Type} {p : Rule α} {more : Ahead} {ts rest : List Token}

theorem run_keyword (k : String) :
    (keyword k).run (.word k :: ts) = some ([.token (.word k)], ts) := by
  have hk : Ahead.keyword k (.word k :: ts) = true := beq_self_eq_true k
  rw [keyword, run_whether, hk, if_pos rfl]
  rfl

theorem run_punctChars (cs : List Char) (ts : List Token) :
    Ahead.punctChars cs (joinOperator cs ++ ts) = true ∧
      (punctChars cs).run (joinOperator cs ++ ts) =
        some (Code.ofTokens (joinOperator cs), ts) := by
  induction cs
  case nil => exact ⟨by simp [Ahead.punctChars], rfl⟩
  case cons c cs ih =>
    obtain ⟨ha, hr⟩ := ih
    cases cs
    case nil => exact ⟨by simp [joinOperator, Ahead.punctChars], rfl⟩
    case cons =>
      refine ⟨by simpa [joinOperator, Ahead.punctChars] using ha, ?_⟩
      rw [joinOperator, punctChars]
      · exact (run_bind_of rfl).trans (run_bind_of hr)
      · exact List.cons_ne_nil _ _

theorem run_punct (s : String) : (punct s).run (Token.operator s ++ ts) =
    some (Code.ofTokens (Token.operator s), ts) := by
  have ⟨ha, hr⟩ := run_punctChars s.toList ts
  rw [punct, run_whether]
  exact (if_pos ha).trans hr

theorem run_enclosed {d : Delimiter} {p : Rule Code} {c : Code} {body : List Token}
    (h : p.run body = some (c, [])) :
    (enclosed d p).run (.enclosed d body :: ts) =
      some ([.group d .unlocated .unlocated c], ts) := by
  have hg : (inGroup d p).run (.enclosed d body :: ts) = some ((c, .unlocated, .unlocated), ts) :=
    run_inGroup_eq_some.mpr ⟨_, _, body, rfl, h, rfl⟩
  exact run_bind_of hg

theorem run_many_of_not (h : more ts = false) : (many more p).run ts = some ([], ts) := by
  show (many.rounds more p ts.length).run ts = _
  cases ts.length <;> rw [many.rounds, run_whether, h] <;> rfl

theorem run_many_cons {a : α} {as : List α} {mid : List Token} (hm : more ts = true)
    (h : p.run ts = some (a, mid)) (hl : mid.length < ts.length)
    (hs : (many more p).run mid = some (as, rest)) :
    (many more p).run ts = some (a :: as, rest) := by
  obtain ⟨n, hn⟩ := Nat.exists_eq_add_one_of_ne_zero (Nat.ne_zero_of_lt hl)
  have hs : (many.rounds more p n).run mid = some (as, rest) :=
    Below.of_le (many_rounds_below more p) (by omega) _ _ hs
  show (many.rounds more p ts.length).run ts = _
  rw [hn, many.rounds, run_whether, hm, if_pos rfl, run_bind_of h, run_bind_of hs]
  rfl

variable {R : ι → α → Prop} (t : ι → List Token) {xs : List ι}

theorem run_many_of
    (hx : ∀ x ∈ xs, t x ≠ [] ∧ ∀ rest, more (t x ++ rest) = true ∧
      ∃ a, R x a ∧ p.run (t x ++ rest) = some (a, rest))
    (hr : more rest = false) :
    ∃ as, List.Forall₂ R xs as ∧ (many more p).run (xs.flatMap t ++ rest) = some (as, rest) := by
  induction xs
  case nil => exact ⟨[], .nil, run_many_of_not hr⟩
  case cons x xs ih =>
    rw [List.forall_mem_cons] at hx
    obtain ⟨⟨hne, hx₁⟩, hx⟩ := hx
    obtain ⟨as, has, h⟩ := ih hx
    obtain ⟨hm, a, ha, hx₁⟩ := hx₁ (xs.flatMap t ++ rest)
    rw [List.flatMap_cons, List.append_assoc]
    refine ⟨a :: as, .cons ha has, run_many_cons hm hx₁ ?_ h⟩
    rw [List.length_append, List.length_append, List.length_append]
    exact Nat.lt_add_of_pos_left (List.length_pos_iff.mpr hne)

theorem run_listed_cons {closed : Bool} {stop : Ahead} {separator : String} {a : α} {c : Code}
    {l : Listed α} {mid mid' : List Token} (hs : stop ts = false)
    (h : p.run ts = some (a, mid))
    (he : (if closed then stop else .not (.punct separator) : Ahead) mid = false)
    (hc : (punct separator).run mid = some (c, mid')) (hl : mid'.length < ts.length)
    (hr : (listed closed stop separator p).run mid' = some (l, rest)) :
    (listed closed stop separator p).run ts =
      some (⟨a :: l.items, l.trailing || l.items.isEmpty⟩, rest) := by
  obtain ⟨n, hn⟩ := Nat.exists_eq_add_one_of_ne_zero (Nat.ne_zero_of_lt hl)
  have hr : (listed.rounds closed stop separator p n).run mid' = some (l, rest) :=
    Below.of_le (listed_rounds_below closed stop separator p) (by omega) _ _ hr
  show (listed.rounds closed stop separator p ts.length).run ts = _
  rw [hn, listed.rounds, run_whether, hs, if_neg nofun, run_bind_of h, run_whether, he,
    if_neg nofun]
  refine (run_bind_of hc).trans ?_
  exact run_bind_of hr

theorem run_listed_last {closed : Bool} {stop : Ahead} {separator : String} {a : α}
    (hne : ts ≠ []) (hs : stop ts = false) (h : p.run ts = some (a, rest))
    (he : (if closed then stop else .not (.punct separator) : Ahead) rest = true) :
    (listed closed stop separator p).run ts = some (⟨[a], false⟩, rest) := by
  obtain ⟨n, hn⟩ := Nat.exists_eq_add_one_of_ne_zero (mt List.length_eq_zero_iff.mp hne)
  show (listed.rounds closed stop separator p ts.length).run ts = _
  rw [hn, listed.rounds, run_whether, hs, if_neg nofun, run_bind_of h, run_whether, he]
  rfl

theorem run_listed_nil {closed : Bool} {stop : Ahead} {separator : String} (hs : stop ts = true) :
    (listed closed stop separator p).run ts = some (⟨[], false⟩, ts) := by
  show (listed.rounds closed stop separator p ts.length).run ts = _
  cases ts.length <;> rw [listed.rounds, run_whether, hs] <;> rfl

theorem run_listed_comma {closed : Bool} {stop : Ahead} {part : List Token} {a : α}
    {l : Listed α} (hs : ∀ ts, stop (part ++ ts) = false)
    (h : p.run (part ++ (Token.operator "," ++ ts)) = some (a, Token.operator "," ++ ts))
    (hc : (if closed then stop else .not (.punct ",") : Ahead) (Token.operator "," ++ ts) = false)
    (hr : (listed closed stop "," p).run ts = some (l, rest)) :
    (listed closed stop "," p).run (part ++ (Token.operator "," ++ ts)) =
      some (⟨a :: l.items, l.trailing || l.items.isEmpty⟩, rest) := by
  refine run_listed_cons (hs _) h hc rfl ?_ hr
  rw [List.length_append, List.length_append]
  exact Nat.lt_add_left _ (Nat.lt_add_of_pos_left Nat.one_pos)

theorem run_listed_of (closed trailing : Bool) {stop : Ahead} (ht : trailing = true → xs ≠ [])
    (hx : ∀ x ∈ xs, t x ≠ [] ∧ (∀ ts, stop (t x ++ ts) = false) ∧
      ∃ a, R x a ∧ ∀ ts, ts = rest ∨ (∃ ts', ts = Token.operator "," ++ ts') →
        p.run (t x ++ ts) = some (a, ts))
    (hs : stop rest = true)
    (he : (if closed then stop else .not (.punct ",") : Ahead) rest = true)
    (hc : ∀ ts, (if closed then stop else .not (.punct ",") : Ahead)
      (Token.operator "," ++ ts) = false) :
    ∃ as, List.Forall₂ R xs as ∧ (listed closed stop "," p).run
      (withCommas (xs.map t) trailing ++ rest) = some (⟨as, trailing⟩, rest) := by
  have hend : (listed closed stop "," p).run rest = some (⟨[], false⟩, rest) := run_listed_nil hs
  induction xs
  case nil =>
    have hf : trailing = false := by
      cases trailing
      · rfl
      · exact absurd rfl (ht rfl)
    rw [hf]
    exact ⟨[], .nil, hend⟩
  case cons x xs ih =>
    rw [List.forall_mem_cons] at hx
    obtain ⟨⟨hne, hstop, a, har, ha⟩, hx⟩ := hx
    have hcomma ts := ha (Token.operator "," ++ ts) (.inr ⟨ts, rfl⟩)
    rcases xs with _ | ⟨y, ys⟩
    · refine ⟨[a], .cons har .nil, ?_⟩
      cases trailing
      case false =>
        show StateT.run _ (t x ++ [] ++ rest) = _
        rw [List.append_nil]
        refine run_listed_last ?_ (hstop _) (ha _ (.inl rfl)) he
        exact List.append_ne_nil_of_left_ne_nil hne _
      case true =>
        show StateT.run _ (t x ++ Token.operator "," ++ rest) = _
        rw [List.append_assoc]
        exact run_listed_comma hstop (hcomma _) (hc _) hend
    · obtain ⟨as, has, h⟩ := ih (fun _ => List.cons_ne_nil _ _) hx
      have hne : as.isEmpty = false := by
        cases has
        rfl
      refine ⟨a :: as, .cons har has, ?_⟩
      rw [List.map_cons, List.map_cons, withCommas_cons_cons, List.append_assoc,
        List.append_assoc]
      refine (run_listed_comma hstop (hcomma _) (hc _) h).trans ?_
      rw [hne, Bool.or_false]

theorem run_commaList_single {p : Rule Code} {c : Code} (hd : Ahead.done ts = false)
    (h : p.run ts = some (c, [])) : (commaList p).run ts = some (c, []) := by
  have hne : ts ≠ [] := by
    rintro rfl
    cases hd
  have hl : (listed true .done "," p).run ts = some (⟨[c], false⟩, []) :=
    run_listed_last hne hd h rfl
  refine (run_bind_of hl).trans ?_
  simp [Listed.code, Listed.marked]

theorem run_commaList {p : Rule Code}
    (hx : ∀ x ∈ xs, t x ≠ [] ∧ ∃ c, ∀ ts, ts = [] ∨ (∃ ts', ts = Token.operator "," ++ ts') →
      p.run (t x ++ ts) = some (c, ts)) :
    ∃ c, (commaList p).run (separate (Token.operator ",") (xs.map t)) = some (c, []) := by
  have hx' : ∀ x ∈ xs, t x ≠ [] ∧ (∀ ts, Ahead.done (t x ++ ts) = false) ∧
      ∃ c, True ∧ ∀ ts, ts = [] ∨ (∃ ts', ts = Token.operator "," ++ ts') →
        p.run (t x ++ ts) = some (c, ts) := by
    intro x h
    obtain ⟨hne, c, hc⟩ := hx x h
    refine ⟨hne, fun ts => ?_, c, trivial, hc⟩
    rw [Ahead.done, List.isEmpty_eq_false_iff]
    exact List.append_ne_nil_of_left_ne_nil hne _
  obtain ⟨cs, _, h⟩ :=
    run_listed_of t true false nofun hx' rfl rfl fun _ => rfl
  rw [List.append_nil, withCommas_false] at h
  exact ⟨_, run_bind_of h⟩

end Rule

end Accessors
