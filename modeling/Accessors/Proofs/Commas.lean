import Accessors.Proofs.Sequences

namespace Accessors

theorem withCommas_concat (parts : List (List Token)) (last : List Token) (trailing : Bool) :
    withCommas (parts ++ [last]) trailing =
      parts.flatMap (· ++ Token.operator ",") ++
        (last ++ if trailing then Token.operator "," else []) := by
  induction parts
  case nil => rfl
  case cons part parts ih =>
    rw [List.flatMap_cons, List.append_assoc, ← ih, List.append_assoc]
    cases parts <;> exact withCommas_cons_cons _ _ _ _

namespace Listed

variable {α : Type} {l : Listed α}

-- Only the last thing may lack a separator.
def Separated (ms : List (α × Bool)) : Prop :=
  ∀ x ∈ ms.dropLast, x.2 = true

theorem map_marked (l : Listed α) : l.marked.map (·.1) = l.items := by
  unfold marked
  split
  case h_1 h => rw [List.reverse_eq_nil_iff.mp h]; rfl
  case h_2 last rest h =>
    rw [← l.items.reverse_reverse, h]
    simp [Function.comp_def]

theorem separated_marked (l : Listed α) : Separated l.marked := by
  unfold marked Separated
  split
  case h_1 => exact nofun
  case h_2 => simp

theorem getLast?_marked (l : Listed α) (ht : l.trailing = true → l.items ≠ []) :
    l.marked.getLast?.any (·.2) = l.trailing := by
  unfold marked
  split
  case h_1 h =>
    cases hl : l.trailing
    case false => rfl
    case true => exact absurd (List.reverse_eq_nil_iff.mp h) (ht hl)
  case h_2 => simp

theorem Separated.filter {ms : List (α × Bool)} (h : Separated ms) (p : α × Bool → Bool) :
    Separated (ms.filter p) := by
  obtain rfl | ⟨init, last, rfl⟩ := List.eq_nil_or_concat ms
  · exact nofun
  · rw [List.concat_eq_append] at h ⊢
    have hi : ∀ x ∈ init, x.2 = true := by simpa [Separated] using h
    intro x hx
    rw [List.filter_append] at hx
    cases hp : p last
    case true =>
      rw [List.filter_singleton, hp, cond_true, List.dropLast_concat] at hx
      exact hi x (List.mem_filter.mp hx).1
    case false =>
      rw [List.filter_singleton, hp, cond_false, List.append_nil] at hx
      exact hi x (List.mem_filter.mp (List.dropLast_subset _ hx)).1

def write (f : α → List Token) (ms : List (α × Bool)) : List Token :=
  ms.flatMap fun x => f x.1 ++ if x.2 then Token.operator "," else []

theorem write_eq {f : α → List Token} {ms : List (α × Bool)} (h : Separated ms) :
    write f ms = withCommas (ms.map fun x => f x.1) (ms.getLast?.any (·.2)) := by
  obtain rfl | ⟨init, last, rfl⟩ := List.eq_nil_or_concat ms
  · rfl
  · rw [List.concat_eq_append] at h ⊢
    have hi : ∀ x ∈ init, x.2 = true := by simpa [Separated] using h
    have hw : write f init = (init.map fun x => f x.1).flatMap (· ++ Token.operator ",") := by
      rw [write, List.flatMap_map]
      exact List.flatMap_congr fun x hx => by rw [hi x hx]; rfl
    rw [List.map_append, List.map_singleton, withCommas_concat, ← hw, write, List.flatMap_append]
    simp [write]

theorem write_append (f : α → List Token) (ms ns : List (α × Bool)) :
    write f (ms ++ ns) = write f ms ++ write f ns :=
  List.flatMap_append

-- A comma that was not needed before may have to be put in.
theorem write_comma {f : α → List Token} {ms : List (α × Bool)} (h : Separated ms) :
    write f ms ++ (if ms.getLast?.any (fun x => !x.2) then Token.operator "," else []) =
      write f (ms.map fun x => (x.1, true)) := by
  obtain rfl | ⟨init, last, rfl⟩ := List.eq_nil_or_concat ms
  · rfl
  · rw [List.concat_eq_append] at h ⊢
    have hi : ∀ x ∈ init, x.2 = true := by simpa [Separated] using h
    have hm : init.map (fun x => (x.1, true)) = init :=
      (List.map_congr_left fun x hx => by rw [← hi x hx]; rfl).trans (List.map_id init)
    rw [List.map_append, hm, write_append, write_append]
    cases hl : last.2 <;> simp [write, hl]

theorem write_append_eq {f : α → List Token} {ms ns : List (α × Bool)} (hm : Separated ms)
    (hn : Separated ns) :
    write f ms ++ (if !ns.isEmpty && ms.getLast?.any (fun x => !x.2) then Token.operator ","
      else []) ++ write f ns =
        withCommas ((ms ++ ns).map fun x => f x.1) ((ms ++ ns).getLast?.any (·.2)) := by
  by_cases hne : ns = []
  case pos =>
    rw [hne]
    show write f ms ++ [] ++ [] = _
    rw [List.append_nil, List.append_nil, List.append_nil, write_eq hm]
  case neg =>
    have he : (!ns.isEmpty) = true := by simpa using hne
    have hf : (ms.map fun x => (x.1, true)).map (fun x => f x.1) = ms.map fun x => f x.1 := by
      simp
    have hs : Separated (ms.map (fun x => (x.1, true)) ++ ns) := by
      intro x hx
      rw [List.dropLast_append_of_ne_nil hne, List.mem_append] at hx
      cases hx
      case inl hx =>
        obtain ⟨y, _, rfl⟩ := List.mem_map.mp hx
        rfl
      case inr hx => exact hn x hx
    rw [he, Bool.true_and, write_comma hm, ← write_append, write_eq hs, List.map_append, hf,
      ← List.map_append, List.getLast?_append_of_ne_nil _ hne, List.getLast?_append_of_ne_nil _ hne]

def lifetimesFirst (ms : List ((Bool × List Token) × Bool)) : List ((Bool × List Token) × Bool) :=
  ms.filter (fun x => x.1.1) ++ ms.filter (fun x => !x.1.1)

theorem writeLifetimesFirst_eq (l : Listed (Bool × List Token)) :
    l.writeLifetimesFirst = withCommas ((lifetimesFirst l.marked).map (·.1.2))
      ((lifetimesFirst l.marked).getLast?.any (·.2)) := by
  let ls := l.marked.filter fun x => x.1.1
  let os := l.marked.filter fun x => !x.1.1
  have hl : Separated ls := l.separated_marked.filter _
  have ho : Separated os := l.separated_marked.filter _
  have hp : l.marked.partition (fun x => x.1.1) = (ls, os) := List.partition_eq_filter_filter ..
  refine Eq.trans ?_ (write_append_eq hl ho)
  unfold writeLifetimesFirst
  simp only [hp]
  rfl

theorem writeLifetimesFirst_of_sorted {l : Listed (Bool × List Token)}
    {lifetimes others : List (Bool × List Token)} (hi : l.items = lifetimes ++ others)
    (hl : ∀ a ∈ lifetimes, a.1 = true) (ho : ∀ a ∈ others, a.1 = false)
    (ht : l.trailing = true → l.items ≠ []) :
    l.writeLifetimesFirst = withCommas (l.items.map (·.2)) l.trailing := by
  obtain ⟨ms, ns, hm, rfl, rfl⟩ := List.map_eq_append_iff.mp (l.map_marked.trans hi)
  rw [List.forall_mem_map] at hl ho
  have hs : lifetimesFirst l.marked = l.marked := by
    have hn : ∀ x ∈ ns, ¬x.1.1 = true := fun x hx => ne_true_of_eq_false (ho x hx)
    have hp : ∀ x ∈ ms, ¬(!x.1.1) = true := fun x hx => by simp [hl x hx]
    have hq : ∀ x ∈ ns, (!x.1.1) = true := fun x hx => by simp [ho x hx]
    rw [lifetimesFirst, hm, List.filter_append, List.filter_append, List.filter_eq_self.mpr hl,
      List.filter_eq_nil_iff.mpr hn, List.filter_eq_nil_iff.mpr hp, List.filter_eq_self.mpr hq,
      List.append_nil, List.nil_append]
  rw [writeLifetimesFirst_eq, hs, l.getLast?_marked ht, ← l.map_marked, List.map_map]
  rfl

theorem marked_map {α β : Type} (f : α → β) (items : List α) (trailing : Bool) :
    (Listed.mk (items.map f) trailing).marked =
      (Listed.mk items trailing).marked.map (Prod.map f id) := by
  rw [marked, marked, ← List.map_reverse]
  cases items.reverse <;> simp

theorem tokens_codeLifetimesFirst (l : Listed (Bool × Code)) : l.codeLifetimesFirst.tokens =
    writeLifetimesFirst ⟨l.items.map fun x => (x.1, x.2.tokens), l.trailing⟩ := by
  rw [codeLifetimesFirst, Code.tokens, Piece.tokens, Code.tokensOf_eq_map]
  exact List.append_nil _

end Listed

namespace Generics

def ordered (g : Generics) : List Parameter :=
  g.items.filter (·.lifetime) ++ g.items.filter (!·.lifetime)

theorem tokens_write {g : Generics} (hg : g.items ≠ []) (f : Parameter → Code) :
    (g.write f).tokens = Token.operator "<" ++
      (Listed.writeLifetimesFirst ⟨g.items.map fun p => (p.lifetime, (f p).tokens), g.trailing⟩ ++
        Token.operator ">") := by
  have hn : ¬g.isEmpty = true := mt List.isEmpty_iff.mp hg
  rw [write, if_neg hn, Code.tokens_append, Code.tokens_append, Code.tokens_ofTokens,
    Code.tokens_ofTokens, Listed.tokens_codeLifetimesFirst, List.map_map, List.append_assoc]
  rfl

theorem exists_arguments_eq {g : Generics} (hg : g.items ≠ []) : ∃ trailing, g.arguments =
    Token.operator "<" ++ (withCommas (g.ordered.map (·.name)) trailing ++ Token.operator ">") := by
  have hf (p : Bool → Bool) : ((g.marked.map (Prod.map (fun p => (p.lifetime, p.argument.tokens))
      id)).filter fun x => p x.1.1).map (·.1.2) =
        (g.items.filter fun q => p q.lifetime).map (·.name) := by
    rw [← g.map_marked, List.filter_map, List.filter_map, List.map_map, List.map_map]
    refine List.map_congr_left fun x _ => ?_
    exact Code.tokens_ofTokens _
  rw [arguments, tokens_write hg, Listed.writeLifetimesFirst_eq, Listed.marked_map]
  generalize (Listed.lifetimesFirst _).getLast?.any (·.2) = trailing
  refine ⟨trailing, ?_⟩
  rw [Listed.lifetimesFirst, List.map_append]
  exact congrArg (fun ts => Token.operator "<" ++ (withCommas ts trailing ++ Token.operator ">"))
    (congrArg₂ (· ++ ·) (hf id) (hf (!·)) |>.trans List.map_append.symm)

end Generics

end Accessors
