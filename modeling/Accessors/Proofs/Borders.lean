import Accessors.Proofs.Rules

namespace Accessors

inductive Follower
  | brace (opened closed : Span) (body : List Token)
  | colon (span : Span)
  | name (ident : Ident)

def Follower.token : Follower → Token
  | brace o c body => .group .brace o c body
  | colon s => .punct ':' .alone s
  | name i => .ident i

-- What follows, and whether a rule never comes to the end of what is in front of it, as is the case
-- inside angle brackets.
structure Border where
  follower : Follower
  rest : List Token
  inside : Bool

namespace Border

def tail (b : Border) : List Token :=
  b.follower.token :: b.rest

def within (b : Border) : Border :=
  { b with inside := true }

-- What may be left in front of the border when a rule stops. The first part of an operator or of a
-- lifetime would be taken for the whole one if the border went on with it, and a name goes on with
-- about anything.
def Admits (b : Border) (ts : List Token) : Prop :=
  (b.inside = true → ts ≠ []) ∧
    match b.follower with
    | .brace _ _ _ => True
    | .colon _ => ∀ s, ts ≠ [.punct ':' .joint s]
    | .name _ => ts ≠ [] ∧ ∀ s, ts ≠ [.punct '\'' .joint s]

-- No rule comes to its end right in front of a colon.
def Guarded (b : Border) : Prop :=
  b.inside = true ∨ ∀ s, b.follower ≠ .colon s

theorem admits_within {b : Border} {ts : List Token} :
    b.within.Admits ts ↔ ts ≠ [] ∧ b.Admits ts := by
  unfold Admits within
  grind

end Border

namespace Ahead

variable {b : Border} {p q : Ahead} {ts : List Token}

def Steady (b : Border) (p : Ahead) : Prop :=
  ∀ ts, b.Admits ts → p (ts ++ b.tail) = p ts

theorem Steady.not (h : p.Steady b) : (not p).Steady b :=
  fun ts ha => congrArg Bool.not (h ts ha)

theorem Steady.both_of (hq : q.Steady b) (hp : ∀ ts, q ts = true → p (ts ++ b.tail) = p ts) :
    (both q p).Steady b := by
  intro ts ha
  rw [both, both, hq ts ha]
  cases h : q ts
  case false => rfl
  case true => rw [hp ts h]

theorem Steady.both (hq : q.Steady b) (hp : p.Steady b) : (both q p).Steady b := by
  intro ts ha
  rw [Ahead.both, Ahead.both, hq ts ha, hp ts ha]

theorem Steady.any_nil : (any []).Steady b :=
  fun _ _ => rfl

theorem Steady.any_cons {ps : List Ahead} (hp : p.Steady b) (hps : (any ps).Steady b) :
    (any (p :: ps)).Steady b := by
  intro ts ha
  show (p (ts ++ b.tail) || any ps (ts ++ b.tail)) = (p ts || any ps ts)
  rw [hp ts ha, hps ts ha]

theorem steady_of_within (hp : p.Steady b.within) (hn : b.Admits [] → p b.tail = p []) :
    p.Steady b := by
  intro ts ha
  cases ts
  case nil => exact hn ha
  case cons t ts => exact hp _ (Border.admits_within.mpr ⟨List.cons_ne_nil _ _, ha⟩)

theorem steady_of_first (hp : ∀ t ts ts', p (t :: ts) = p (t :: ts'))
    (hn : b.Admits [] → p b.tail = p []) : p.Steady b := by
  intro ts ha
  cases ts
  case nil => exact hn ha
  case cons t ts => exact hp t _ _

theorem steady_anyOf (ks : List String) : (anyOf ks).Steady b := by
  refine steady_of_first (fun t _ _ => by cases t <;> rfl) fun ha => ?_
  obtain ⟨f | f | f, _, _⟩ := b
  case name => exact absurd rfl ha.2.1
  all_goals rfl

theorem steady_keyword (k : String) : (keyword k).Steady b := by
  refine steady_of_first (fun t _ _ => by cases t <;> rfl) fun ha => ?_
  obtain ⟨f | f | f, _, _⟩ := b
  case name => exact absurd rfl ha.2.1
  all_goals rfl

theorem steady_anyIdent : anyIdent.Steady b := by
  refine steady_of_first (fun t _ _ => by cases t <;> rfl) fun ha => ?_
  obtain ⟨f | f | f, _, _⟩ := b
  case name => exact absurd rfl ha.2.1
  all_goals rfl

theorem steady_ident : ident.Steady b := by
  refine steady_of_first (fun t _ _ => by cases t <;> rfl) fun ha => ?_
  obtain ⟨f | f | f, _, _⟩ := b
  case name => exact absurd rfl ha.2.1
  all_goals rfl

theorem steady_stringLiteral : stringLiteral.Steady b := by
  refine steady_of_first (fun t _ _ => by cases t <;> rfl) fun _ => ?_
  obtain ⟨f | f | f, _, _⟩ := b <;> rfl

theorem steady_done (hi : b.inside = true) : done.Steady b :=
  steady_of_first (fun _ _ _ => rfl) fun ha => absurd rfl (ha.1 hi)

theorem steady_brace (hi : b.inside = true) : (group .brace).Steady b :=
  steady_of_first (fun t _ _ => by cases t <;> rfl) fun ha => absurd rfl (ha.1 hi)

theorem group_append {d : Delimiter} (hd : d ≠ .brace) (ts : List Token) :
    group d (ts ++ b.tail) = group d ts := by
  rcases ts with _ | ⟨t, ts⟩
  · obtain ⟨f | f | f, _, _⟩ := b
    case brace => exact decide_eq_false hd
    all_goals rfl
  · cases t <;> rfl

theorem steady_group {d : Delimiter} (hd : d ≠ .brace) : (group d).Steady b :=
  fun ts _ => group_append hd ts

-- Only a colon can go on with an operator, and only with one that ends in a colon.
theorem punctChars_append {cs : List Char}
    (hc : cs.getLast? ≠ some ':' ∨ ∀ s, b.follower ≠ .colon s) (ts : List Token) :
    punctChars cs (ts ++ b.tail) = punctChars cs ts := by
  induction cs generalizing ts
  case nil => simp [punctChars]
  case cons c cs ih =>
    rcases ts with _ | ⟨t, ts⟩
    · obtain ⟨f | f | f, _, _⟩ := b
      case colon => cases cs <;> simp_all [punctChars, Border.tail, Follower.token]
      all_goals rfl
    · cases t
      case punct =>
        cases cs
        case nil => simp [punctChars]
        case cons => simp_all [punctChars]
      all_goals rfl

theorem punct_append {s : String} (hs : s.toList.getLast? ≠ some ':') (ts : List Token) :
    punct s (ts ++ b.tail) = punct s ts :=
  punctChars_append (.inl hs) ts

theorem anyPunct_append (hn : ∀ s, b.follower ≠ .colon s) (s : String) (ts : List Token) :
    punct s (ts ++ b.tail) = punct s ts :=
  punctChars_append (.inr hn) ts

theorem steady_punct {s : String} (hs : s.toList.getLast? ≠ some ':') : (punct s).Steady b :=
  fun ts _ => punct_append hs ts

theorem steady_only {s : String} {longer : List String} (hs : s.toList.getLast? ≠ some ':')
    (hl : ∀ l ∈ longer, l.toList.getLast? ≠ some ':') : (only s longer).Steady b := by
  refine (steady_punct hs).both (.not ?_)
  induction longer
  case nil => exact .any_nil
  case cons l longer ih =>
    rw [List.forall_mem_cons] at hl
    exact .any_cons (steady_punct hl.1) (ih hl.2)

theorem steady_colon (hg : b.Guarded) : (punct ":").Steady b := by
  intro ts ha
  cases hg
  case inl hi =>
    obtain ⟨t, ts, rfl⟩ := List.exists_cons_of_ne_nil (ha.1 hi)
    cases t <;> rfl
  case inr hn => exact anyPunct_append hn ":" ts

theorem steady_colons : (punct "::").Steady b := by
  intro ts ha
  rcases ts with _ | ⟨_ | ⟨c, s⟩ | _ | _, _ | ⟨t', ts⟩⟩
  case nil => obtain ⟨f | f | f, _, _⟩ := b <;> simp [punct, punctChars, Border.tail, Follower.token]
  case cons.punct.nil =>
    obtain ⟨f | f | f, _, _⟩ := b
    case colon =>
      have hn : ¬(c = ':' ∧ s = .joint) := by
        rintro ⟨rfl, rfl⟩
        exact ha.2 _ rfl
      simp [punct, punctChars]
      grind
    all_goals simp [punct, punctChars, Border.tail, Follower.token]
  case cons.punct.cons => cases t' <;> rfl
  all_goals rfl

theorem steady_lifetime : lifetime.Steady b := by
  intro ts ha
  rcases ts with _ | ⟨_ | ⟨c, s⟩ | _ | _, _ | ⟨t', ts⟩⟩
  case nil =>
    obtain ⟨f | f | f, _, _⟩ := b
    case name => exact absurd rfl ha.2.1
    all_goals rfl
  case cons.punct.nil =>
    have hn {ts : List Token} (ht : anyIdent ts = false ∨ ¬(c = '\'' ∧ s = .joint)) :
        lifetime (.punct c s ‹_› :: ts) = false := by
      unfold lifetime
      grind [anyIdent]
    obtain ⟨f | f | f, _, _⟩ := b
    case name =>
      have hc : ¬(c = '\'' ∧ s = .joint) := by
        rintro ⟨rfl, rfl⟩
        exact ha.2.2 _ rfl
      exact (hn (.inr hc)).trans (hn (.inr hc)).symm
    all_goals exact (hn (.inl rfl)).trans (hn (.inl rfl)).symm
  case cons.punct.cons => unfold lifetime; grind
  all_goals rfl

theorem steady_literal : literal.Steady b := by
  intro ts ha
  rcases ts with _ | ⟨t, _ | ⟨t', ts⟩⟩
  case nil =>
    obtain ⟨f | f | f, _, _⟩ := b
    case name => exact absurd rfl ha.2.1
    all_goals rfl
  case cons.nil =>
    obtain ⟨f | f | f, _, _⟩ := b <;> cases t <;> simp [literal, Border.tail, Follower.token]
  case cons.cons => unfold literal; grind

theorem second_append (hp : ∀ ts, p (ts ++ b.tail) = p ts) (h : lifetime ts = true) :
    second p (ts ++ b.tail) = second p ts := by
  unfold lifetime at h
  split at h
  case h_1 => exact hp _
  case h_2 => cases h

theorem third_append (hp : ∀ ts, p (ts ++ b.tail) = p ts) (h : punct "::" ts = true) :
    third p (ts ++ b.tail) = third p ts := by
  rcases ts with _ | ⟨_ | ⟨c, _, _⟩ | _ | _, _ | ⟨_ | ⟨c', _, _⟩ | _ | _, ts⟩⟩
  case cons.punct.cons.punct =>
    obtain ⟨rfl, rfl⟩ : c = ':' ∧ c' = ':' := by
      simp [punct, punctChars] at h
      grind
    exact hp ts
  all_goals simp [punct, punctChars] at h

end Ahead

end Accessors
