import Accessors.Proofs.Continuation

namespace Accessors

structure Rules.Continue (rules : Rules) (follower : Follower) (rest : List Token) : Prop where
  type (inside plus : Bool) : (rules (.type plus)).Continues ⟨follower, rest, inside⟩
  bound (inside captures conditional : Bool) :
    (rules (.bound captures conditional)).Continues ⟨follower, rest, inside⟩

namespace Grammar

open Rule Ahead

variable {b : Border} {self : Rules} (hs : self.Continue b.follower b.rest)

theorem boundList_rounds_below (self : Rules) (plus captures conditional : Bool) (n : Nat) :
    (boundList.rounds self plus captures conditional n).Below
      (boundList.rounds self plus captures conditional (n + 1)) := by
  induction n
  case zero => exact nofun
  case succ n ih =>
    exact .bind .rfl fun _ => .bind .rfl fun _ => .ite
      (.bind .rfl fun _ => .bind .rfl fun _ => .ite (.bind ih fun _ => .rfl) .rfl) .rfl

section Looks

-- A path goes on behind two colons, unless arguments in parentheses follow.
theorem steady_goesOn : goesOn.Steady b :=
  steady_colons.both_of fun _ h => congrArg Bool.not (third_append (group_append (by decide)) h)

theorem steady_opensRound : opensRound.Steady b :=
  .any_cons (steady_group (by decide)) <|
    .any_cons (steady_colons.both_of fun _ => third_append (group_append (by decide))) .any_nil

theorem steady_opensCall : opensCall.Steady b :=
  steady_only (by decide) (by decide)

theorem steady_opensBound : opensBound.Steady b :=
  .any_cons steady_anyIdent <| .any_cons steady_colons <| .any_cons (steady_punct (by decide)) <|
    .any_cons steady_lifetime <| .any_cons (steady_group (by decide)) .any_nil

theorem steady_opensPath : opensPath.Steady b :=
  .any_cons steady_ident <| .any_cons (steady_anyOf _) <| .any_cons steady_colons <|
    .any_cons (steady_punct (by decide)) .any_nil

theorem steady_bindable : bindable.Steady b :=
  .any_cons steady_ident <| .any_cons (steady_anyOf _) <| .any_cons (steady_anyOf _) .any_nil

end Looks

theorem continues_oneAttribute (hi : b.inside = true) : (oneAttribute self false).Continues b :=
  .bind (.sees (steady_punct (by decide))) fun _ => .ite .failure_bind <|
    .bind (.next hi) fun _ => .bind (.inGroup _ _) fun _ => .pure _

theorem continues_outerAttributes (hi : b.inside = true) : (outerAttributes self).Continues b :=
  .many (steady_punct (by decide)) (continues_oneAttribute hi)

theorem continues_constArgument : (constArgument self).Continues b :=
  .whether steady_literal .literal <| .whether steady_ident .identCode (.enclosed _ _)

include hs

theorem continues_typeCode : self.typeCode.Continues b :=
  .bind (hs.type b.inside true) fun _ => .pure _

theorem continues_narrowType : self.narrowType.Continues b :=
  .bind (hs.type b.inside false) fun _ => .pure _

theorem continues_boundCode : self.boundCode.Continues b :=
  .bind (hs.bound b.inside false true) fun _ => .pure _

theorem continues_genericArgument (hi : b.inside = true) : (genericArgument self).Continues b := by
  have hl : (Ahead.both .lifetime (.not (.second (.punct "+")))).Steady b :=
    steady_lifetime.both_of fun _ h =>
      congrArg Bool.not (second_append (punct_append (by decide)) h)
  have hc : (any [Ahead.literal, group .brace]).Steady b :=
    .any_cons steady_literal (.any_cons (steady_brace hi) .any_nil)
  have hd : (any [Ahead.punct ",", Ahead.punct ">"]).Steady b :=
    .any_cons (steady_punct (by decide)) (.any_cons (steady_punct (by decide)) .any_nil)
  have hb : (listedCode false (.any [.punct ",", .punct ">"]) "+" self.boundCode).Continues b :=
    .bind (.listed hd (steady_punct (by decide)) (.operator (by decide)) (continues_boundCode hs))
      fun _ => .pure _
  exact .whether hl (.bind .lifetime fun _ => .pure _) <|
    .whether hc (.bind continues_constArgument fun _ => .pure _) <|
    .bind (hs.type b.inside true) fun _ =>
    .ite (.pure _) <|
    .whether (steady_punct (by decide))
      (.bind (.operator (by decide)) fun _ =>
        .whether hc (.bind continues_constArgument fun _ => .pure _)
          (.bind (continues_typeCode hs) fun _ => .pure _)) <|
    .whether (steady_colon (.inl hi))
      (.bind (.punct (by decide) (.inl (.inl hi))) fun _ => .bind hb fun _ => .pure _)
      (.pure _)

theorem continues_angleArguments : (angleArguments self).Continues b :=
  .bind (.operator (by decide)) fun _ =>
    .bind_within
      (.listed (steady_punct (by decide)) (steady_punct (by decide)) (.operator (by decide))
        (continues_genericArgument (b := b.within) hs rfl))
      (fun _ => .bind (.operator (by decide)) fun _ => .pure _)
      fun h hn => by subst hn; cases h

theorem continues_returnType (plus : Bool) : (returnType self plus).Continues b :=
  .whether (steady_punct (by decide))
    (.bind (.operator (by decide)) fun _ => .bind (hs.type b.inside plus) fun _ => .pure _)
    (.pure _)

theorem continues_returnCode (plus : Bool) : (returnCode self plus).Continues b :=
  .bind (continues_returnType hs plus) fun _ => .pure _

theorem continues_roundArguments : (roundArguments self).Continues b := by
  refine .bind (.enclosed _ _) fun _ => .bind (continues_returnType hs false) fun output => ?_
  cases output
  · exact .pure _
  · exact .pure _

theorem continues_segment (expression : Bool) : (segment self expression).Continues b := by
  have hc : (Ahead.both (.punct "::") (.third (.punct "<"))).Steady b :=
    steady_colons.both_of fun _ => third_append (punct_append (by decide))
  refine .whether (steady_anyOf _) (.bind .anyIdentCode fun _ => .pure _) <|
    .whether (steady_keyword _) (.bind .anyIdentCode fun _ => ?_) (.bind .identCode fun _ => ?_)
  all_goals
    refine .bind (.sees (steady_only (by decide) (by decide))) fun _ => .bind (.sees hc) fun _ =>
      .ite (.bind (continues_angleArguments hs) fun _ => .pure _) <|
      .ite (.bind (.operator (by decide)) fun _ =>
        .bind (continues_angleArguments hs) fun arguments => ?_) (.pure _)
    cases arguments <;> exact .pure _

theorem continues_furtherSegments (expression : Bool) :
    (furtherSegments self expression).Continues b :=
  .many steady_goesOn <| .bind (.operator (by decide)) fun _ => continues_segment hs expression

theorem continues_route (expression : Bool) : (route self expression).Continues b :=
  .bind (.maybePunct (by decide) steady_colons) fun _ =>
    .bind (continues_segment hs expression) fun _ =>
    .bind (continues_furtherSegments hs expression) fun _ => .pure _

theorem continues_qualifiedRoute (expression : Bool) :
    (qualifiedRoute self expression).Continues b :=
  .whether (steady_punct (by decide))
    (.bind
      (.cat_cons (.operator (by decide)) <| .cat_cons (continues_typeCode hs) <|
        .cat_cons (.maybe (steady_keyword _) <| .cat_cons (.keyword _) <|
          .cat_cons (.bind (continues_route hs false) fun _ => .pure _) .cat_nil) <|
        .cat_cons (.operator (by decide)) <| .cat_cons (.operator (by decide)) .cat_nil)
      fun _ => .bind (continues_segment hs expression) fun _ =>
        .bind (.many steady_colons <| .bind (.operator (by decide)) fun _ =>
          continues_segment hs expression) fun _ => .pure _)
    (continues_route hs expression)

theorem continues_extend (n : Nat) (r : Route) : (typeRoute.extend self n r).Continues b := by
  induction n generalizing r
  case zero => exact .pure r
  case succ n ih =>
    exact .bind (.sees steady_opensRound) fun _ => .ite
      (.bind (.maybePunct (by decide) steady_colons) fun _ =>
        .bind (continues_roundArguments hs) fun _ => .ite
          (.bind (continues_furtherSegments hs false) fun _ => ih _) (ih _))
      (.pure _)

theorem length_roundArguments {ts rest : List Token} {x : SegmentArguments × Bool}
    (h : (roundArguments self).run ts = some (x, rest)) : rest.length < ts.length := by
  obtain ⟨c, mid, h₁, h₂⟩ := run_bind_eq_some.mp h
  obtain ⟨g, mid', h₃, h₄⟩ := run_bind_eq_some.mp h₁
  obtain ⟨_, _, _, rfl, _⟩ := run_inGroup_eq_some.mp h₃
  cases h₄
  obtain ⟨output, mid, h₅, h₆⟩ := run_bind_eq_some.mp h₂
  have hl := ((continues_returnType hs false).suffix h₅).length_le
  cases output <;> cases h₆ <;> exact Nat.lt_succ_of_le hl

-- Every round reads a group, so there are as many rounds as it takes.
theorem extend_succ {n : Nat} {r : Route} {ts : List Token} {x : Route × List Token}
    (hn : ts.length ≤ n) (h : (typeRoute.extend self n r).run ts = some x) :
    (typeRoute.extend self (n + 1) r).run ts = some x := by
  induction n generalizing r ts
  case zero =>
    obtain rfl := List.length_eq_zero_iff.mp (Nat.le_zero.mp hn)
    show StateT.run (if (r.endsBlank && false) = true then _ else Pure.pure r) _ = _
    rw [Bool.and_false]
    exact h
  case succ n ih =>
    obtain ⟨x, rest⟩ := x
    rw [typeRoute.extend] at h ⊢
    obtain ⟨c, mid, hc, h⟩ := run_bind_eq_some.mp h
    refine run_bind_eq_some.mpr ⟨c, mid, hc, ?_⟩
    cases hc
    split at h
    case isFalse hb =>
      rw [if_neg hb]
      exact h
    case isTrue hb =>
      rw [if_pos hb]
      obtain ⟨c, mid, hc, h⟩ := run_bind_eq_some.mp h
      refine run_bind_eq_some.mpr ⟨c, mid, hc, ?_⟩
      obtain ⟨⟨a, goes⟩, mid', ha, h⟩ := run_bind_eq_some.mp h
      refine run_bind_eq_some.mpr ⟨(a, goes), mid', ha, ?_⟩
      have hm := ((Continues.maybePunct (b := b) (by decide) steady_colons).suffix hc).length_le
      have hl := length_roundArguments hs ha
      cases goes
      case false => exact ih (by omega) h
      case true =>
        obtain ⟨more, mid'', hf, h⟩ := run_bind_eq_some.mp h
        have := ((continues_furtherSegments hs false).suffix hf).length_le
        exact run_bind_eq_some.mpr ⟨more, mid'', hf, ih (by omega) h⟩

theorem continues_typeRoute : (typeRoute self).Continues b :=
  .bind (continues_qualifiedRoute hs false) fun r =>
    .of_rounds (fun _ => rfl) (continues_extend hs · r) fun _ _ _ hn => extend_succ hs hn

theorem continues_boundRoute : (boundRoute self).Continues b :=
  .bind (continues_route hs false) fun _ => .bind (.sees steady_opensRound) fun _ => .ite
    (.bind (.maybePunct (by decide) steady_colons) fun _ =>
      .bind (continues_roundArguments hs) fun _ => .pure _)
    (.pure _)

omit hs in
theorem continues_callRest : callRest.Continues b :=
  .cat_cons (.operator (by decide)) <| .cat_cons .anyGroup .cat_nil

omit hs in
theorem continues_optionalBounds {stop : Ahead} {bound : Rule Code} (hi : b.inside = true)
    (hs : stop.Steady b) (hb : bound.Continues b) :
    (parameterBody.optionalBounds stop bound).Continues b :=
  .whether (steady_colon (.inl hi))
    (.bind (.punct (by decide) (.inl (.inl hi))) fun _ =>
      .bind (.listed hs (steady_punct (by decide)) (.operator (by decide)) hb) fun _ => .pure _)
    (.pure _)

theorem continues_parameter (hi : b.inside = true) (blank : Bool) :
    (parameter self blank).Continues b := by
  have hl : (any [.done, .punct ",", .punct ">"]).Steady b :=
    .any_cons (steady_done hi) <| .any_cons (steady_punct (by decide)) <|
      .any_cons (steady_punct (by decide)) .any_nil
  have ht : (any [.done, .punct ",", .punct ">", .punct "="]).Steady b :=
    .any_cons (steady_done hi) <| .any_cons (steady_punct (by decide)) <|
      .any_cons (steady_punct (by decide)) <| .any_cons (steady_punct (by decide)) .any_nil
  exact .bind (continues_outerAttributes hi) fun _ =>
    .whether steady_lifetime
      (.bind .lifetime fun _ =>
        .bind (continues_optionalBounds hi hl .lifetime) fun _ => .pure _) <|
    .whether steady_ident
      (.bind .identCode fun _ =>
        .bind (continues_optionalBounds hi ht (continues_boundCode hs)) fun _ =>
        .bind (.maybe (steady_punct (by decide)) <| .cat_cons (.operator (by decide)) <|
          .cat_cons (continues_typeCode hs) .cat_nil) fun _ => .pure _) <|
    .whether (steady_keyword _)
      (.bind (.keyword _) fun _ => .bind .identCode fun _ =>
        .bind (.cat_cons (.punct (by decide) (.inl (.inl hi))) <|
          .cat_cons (continues_typeCode hs) .cat_nil) fun _ =>
        .bind (.maybe (steady_punct (by decide)) <| .cat_cons (.operator (by decide)) <|
          .cat_cons continues_constArgument .cat_nil) fun _ => .pure _) <|
    .bind (.sees (steady_keyword _)) fun _ => .ite (.bind .anyIdentCode fun _ => .pure _) .failure

theorem continues_parameters (blank : Bool) :
    (listed true (.punct ">") "," (parameter self blank)).Continues b.within :=
  .listed (steady_punct (by decide)) (steady_punct (by decide)) (.operator (by decide))
    (continues_parameter (b := b.within) hs rfl blank)

theorem continues_binder : (binder self).Continues b :=
  .maybe (steady_keyword _) <| .cat_cons (.keyword _) <| .cat_cons (.operator (by decide)) <|
    .bind_within (.bind (continues_parameters hs false) fun _ => .pure _)
      (fun _ => .bind (.cat_cons (.operator (by decide)) .cat_nil) fun _ => .pure _)
      fun h hn => by subst hn; cases h

theorem continues_traitBound (conditional : Bool) : (traitBound self conditional).Continues b := by
  have hc : (any [.group .bracket, .keyword "const"]).Steady b :=
    .any_cons (steady_group (by decide)) <| .any_cons (steady_keyword _) .any_nil
  refine .bind (continues_binder hs) fun _ => .bind (.sees (steady_group (by decide))) fun _ =>
    .bind (.sees hc) fun _ => .ite (.bind (.inside _ _) fun _ => ?_) <|
    .ite (.bind (.keyword _) fun _ => ?_) ?_
  -- The trait is read the same, whichever way it is marked as constant.
  all_goals
    exact .ite .failure_bind <| .bind (.maybePunct (by decide) (steady_punct (by decide))) fun _ =>
      .bind (.sees (steady_keyword _)) fun _ => .ite .failure_bind <|
      .bind (continues_boundRoute hs) fun _ => .pure _

omit hs in
theorem continues_capture : capture.Continues b :=
  .bind (.cat_cons (.keyword _) <| .cat_cons (.operator (by decide)) .cat_nil) fun _ =>
    .bind (.listed (steady_punct (by decide)) (steady_punct (by decide)) (.operator (by decide)) <|
      .whether steady_lifetime (.bind .lifetime fun _ => .pure _) <|
      .whether (.any_cons steady_ident <| .any_cons (steady_keyword _) .any_nil)
        (.bind .anyIdentCode fun _ => .pure _) .failure) fun _ =>
    .bind (.operator (by decide)) fun _ => .pure _

theorem continues_bound (captures conditional : Bool) :
    (bound self captures conditional).Continues b :=
  .whether steady_lifetime (.bind .lifetime fun _ => .pure _) <|
    .whether (steady_keyword _)
      (.ite (.bind continues_capture fun _ => .pure _) .failure) <|
    .bind (.verbatim <| .whether (steady_group (by decide))
      (.bind (.inGroup _ _) fun _ => .pure _) (continues_traitBound hs conditional)) fun _ =>
        .pure _

theorem continues_boundList (plus captures conditional : Bool) :
    (boundList self plus captures conditional).Continues b := by
  have hr (n : Nat) : (boundList.rounds self plus captures conditional n).Continues b := by
    induction n
    case zero => exact .failure
    case succ n ih =>
      exact .bind (hs.bound b.inside captures conditional) fun _ =>
        .bind (.sees (steady_punct (by decide))) fun _ => .ite
          (.bind (.operator (by decide)) fun _ =>
            .whether steady_opensBound (.bind ih fun _ => .pure _) (.pure _))
          (.pure _)
  exact .of_rounds (fun _ => rfl) hr fun n ts x _ =>
    boundList_rounds_below self plus captures conditional n ts x

theorem continues_objectBounds (plus captures conditional : Bool) :
    (objectBounds self plus captures conditional).Continues b :=
  .bind (continues_boundList hs plus captures conditional) fun _ => .ite (.pure _) .failure

theorem continues_functionType : (functionType self).Continues b := by
  have ha : maybeAbi.Continues b := .maybe (steady_keyword _) <| .cat_cons (.keyword _) <|
    .cat_cons (.maybe steady_stringLiteral .stringLiteral) .cat_nil
  exact .cat_cons (.maybeKeyword _) <| .cat_cons ha <| .cat_cons (.keyword _) <|
    .cat_cons (.enclosed _ _) <| .cat_cons (continues_returnCode hs false) .cat_nil

theorem continues_furtherBounds : (furtherBounds self).Continues b :=
  .bind (.many (steady_punct (by decide)) <| .cat_cons (.operator (by decide)) <|
    .cat_cons (.bind (hs.bound b.inside false false) fun _ => .pure _) .cat_nil) fun _ => .pure _

theorem continues_lifetimeObject : (lifetimeObject self).Continues b :=
  .bind (continues_objectBounds hs true false false) fun _ => .pure _

theorem continues_parenthesisedType (plus : Bool) : (parenthesisedType self plus).Continues b := by
  refine .bind (.inGroup _ _) fun ⟨⟨code, form⟩, _, _⟩ => ?_
  cases form
  case name =>
    exact .bind (.sees (steady_punct (by decide))) fun _ =>
      .ite (.bind (continues_furtherBounds hs) fun _ => .pure _) (.pure _)
  case bound => exact .bind (continues_furtherBounds hs) fun _ => .pure _
  all_goals exact .pure _

theorem continues_pathType (plus : Bool) (lifetimes : Code) :
    (pathType self plus lifetimes).Continues b :=
  .bind (continues_typeRoute hs) fun _ => .ite (.pure _) <|
    .bind (.sees steady_opensCall) fun _ => .ite (.bind continues_callRest fun _ => .pure _) <|
    .bind (.sees (steady_punct (by decide))) fun _ => .ite
      (.bind (.operator (by decide)) fun _ => .whether steady_opensBound
        (.bind (continues_boundList hs true false false) fun _ => .pure _) (.pure _)) <|
    .ite (.pure _) (.pure _)

theorem continues_objectType (plus : Bool) : (objectType self plus).Continues b :=
  .bind (.verbatim <| .bind (.keyword _) fun _ =>
    .bind (.maybePunct (by decide) (steady_punct (by decide))) fun _ =>
    .bind (continues_objectBounds hs plus false false) fun _ => .pure _) fun _ => .pure _

theorem continues_type (plus : Bool) : (type self plus).Continues b :=
  .bind (continues_binder hs) fun _ => .bind (.sees steady_bindable) fun _ => .ite .failure_bind <|
    .whether (steady_group (by decide)) (continues_parenthesisedType hs plus) <|
    .whether (steady_anyOf _) (.bind (continues_functionType hs) fun _ => .pure _) <|
    .whether steady_opensPath (continues_pathType hs plus _) <|
    .whether (steady_keyword _) (continues_objectType hs plus) <|
    .whether (steady_group (by decide)) (.bind (.enclosed _ _) fun _ => .pure _) <|
    .whether (steady_punct (by decide))
      (.bind (.cat_cons (.operator (by decide)) <|
        .cat_cons (.whether (steady_anyOf _) .anyIdentCode .failure) <|
        .cat_cons (continues_narrowType hs) .cat_nil) fun _ => .pure _) <|
    .whether (steady_punct (by decide))
      (.bind (.cat_cons (.operator (by decide)) <| .cat_cons (.maybe steady_lifetime .lifetime) <|
        .cat_cons (.maybeKeyword _) .cat_nil) fun _ =>
        .bind (continues_narrowType hs) fun _ => .pure _) <|
    .whether (steady_punct (by decide)) (.bind (.operator (by decide)) fun _ => .pure _) <|
    .whether (steady_keyword _)
      (.bind (.cat_cons (.keyword _) <|
        .cat_cons (.bind (continues_objectBounds hs plus true true) fun _ => .pure _) .cat_nil)
        fun _ => .pure _) <|
    .whether (steady_keyword _) (.bind .anyIdentCode fun _ => .pure _) <|
    .whether steady_lifetime (.bind (continues_lifetimeObject hs) fun _ => .pure _) .failure

omit hs in
theorem rules_continue (follower : Follower) (rest : List Token) (n : Nat) :
    (rules n).Continue follower rest := by
  induction n
  case zero => exact ⟨fun _ _ => .failure, fun _ _ _ => .failure⟩
  case succ n ih =>
    exact ⟨fun inside => continues_type (b := ⟨follower, rest, inside⟩) ih,
      fun inside => continues_bound (b := ⟨follower, rest, inside⟩) ih⟩

section Clause

variable (hb : ∃ o c body, b.follower = .brace o c body)

include hb

omit hs

theorem ne_colon_of_brace (s : Span) : b.follower ≠ .colon s := by
  obtain ⟨o, c, body, hb⟩ := hb
  rw [hb]
  exact nofun

theorem steady_stop {p : Ahead} (hp : p.Steady b.within)
    (hn : p [] = true ∧ ∀ o c body rest, p (.group .brace o c body :: rest) = true) :
    p.Steady b := by
  obtain ⟨o, c, body, hb⟩ := hb
  refine steady_of_within hp fun _ => ?_
  rw [Border.tail, hb]
  exact (hn.2 _ _ _ _).trans hn.1.symm

include hs

theorem continues_wherePredicate : (wherePredicate self).Continues b := by
  have hg : b.Guarded := .inr (ne_colon_of_brace hb)
  have ho (b : Border) (hi : b.inside = true) :
      (any [.done, .group .brace, .punct ",", .punct ";", .punct "="]).Steady b :=
    .any_cons (steady_done hi) <| .any_cons (steady_brace hi) <|
      .any_cons (steady_punct (by decide)) <| .any_cons (steady_punct (by decide)) <|
      .any_cons (steady_punct (by decide)) .any_nil
  have hl : (any [Ahead.punct ":", .done, .group .brace, .punct ",", .punct ";",
      .punct "="]).Steady b :=
    steady_stop hb (.any_cons (steady_colon (.inl rfl)) (ho b.within rfl)) ⟨rfl, fun _ _ _ _ => rfl⟩
  have ht : (any [.only ":" ["::"], .done, .group .brace, .punct ",", .punct ";",
      .punct "="]).Steady b :=
    steady_stop hb
      (.any_cons ((steady_colon (.inl rfl)).both (.not (.any_cons steady_colons .any_nil)))
        (ho b.within rfl)) ⟨rfl, fun _ _ _ _ => rfl⟩
  have hc : (Ahead.both .lifetime (.second (.punct ":"))).Steady b :=
    steady_lifetime.both_of fun _ => second_append (anyPunct_append (ne_colon_of_brace hb) ":")
  exact .whether hc
    (.cat_cons .lifetime <| .cat_cons (.punct (by decide) (.inl hg)) <|
      .cat_cons (.bind (.listed hl (steady_punct (by decide)) (.operator (by decide)) .lifetime)
        fun _ => .pure _) .cat_nil)
    (.cat_cons (continues_binder hs) <| .cat_cons (continues_typeCode hs) <|
      .cat_cons (.punct (by decide) (.inl hg)) <|
      .cat_cons (.bind (.listed ht (steady_punct (by decide)) (.operator (by decide))
        (continues_boundCode hs)) fun _ => .pure _) .cat_nil)

theorem continues_whereCode : (whereCode self).Continues b := by
  have hp : (any [.done, .group .brace, .punct ",", .punct ";", .only ":" ["::"],
      .punct "="]).Steady b :=
    steady_stop hb
      (.any_cons (steady_done rfl) <| .any_cons (steady_brace rfl) <|
        .any_cons (steady_punct (by decide)) <| .any_cons (steady_punct (by decide)) <|
        .any_cons ((steady_colon (.inl rfl)).both (.not (.any_cons steady_colons .any_nil))) <|
        .any_cons (steady_punct (by decide)) .any_nil)
      ⟨rfl, fun _ _ _ _ => rfl⟩
  exact .bind
    (.whether (steady_keyword _)
      (.bind (.keyword _) fun _ => .bind
        (.listed hp (steady_punct (by decide)) (.operator (by decide))
          (continues_wherePredicate hs hb)) fun _ => .pure _)
      (.pure _))
    fun _ => .pure _

end Clause

omit hs in
theorem admits_of_getLast? {ts : List Token} {sp : Spacing} {s : Span}
    (h : ts.getLast? = some (.punct '>' sp s)) : b.within.Admits ts := by
  have hne : ts ≠ [] := by
    rintro rfl
    cases h
  have hn {c : Char} (hc : c ≠ '>') (s : Span) : ts ≠ [.punct c .joint s] := by
    rintro rfl
    cases h
    exact hc rfl
  refine ⟨fun _ => hne, ?_⟩
  obtain ⟨f | f | f, _, _⟩ := b
  case brace => trivial
  case colon => exact hn (by decide)
  case name => exact ⟨hne, hn (by decide)⟩

-- Generics end in a bracket of their own, so anything may follow.
theorem run_generics_append {ts : List Token} {g : Generics} (hn : ts ≠ [])
    (h : (generics self).run ts = some (g, [])) :
    (generics self).run (ts ++ b.tail) = some (g, b.tail) := by
  obtain ⟨c, _, hc, h⟩ := run_bind_eq_some.mp h
  cases hc
  split at h
  case isFalse => exact absurd (run_pure_eq_some.mp h).2 hn
  case isTrue =>
    obtain ⟨_, mid, ho, h⟩ := run_bind_eq_some.mp h
    obtain ⟨l, mid', hl, h⟩ := run_bind_eq_some.mp h
    obtain ⟨_, _, hc, h⟩ := run_bind_eq_some.mp h
    cases h
    obtain ⟨opened, rfl, _, ho⟩ := run_punct_eq_some ho
    obtain ⟨closed, rfl, hn, hc⟩ := run_punct_eq_some hc
    have ha : b.within.Admits (closed ++ []) := by
      obtain ⟨t, rfl⟩ := List.length_eq_one_iff.mp hn
      obtain ⟨_, _, _, ht, -⟩ := Ahead.exists_of_punct '>' [] rfl (hc []).1
      cases ht
      exact admits_of_getLast? rfl
    have hl := (continues_parameters hs true).run hl ha
    rw [List.append_assoc]
    refine run_bind_eq_some.mpr ⟨true, _, congrArg (fun c => some (c, _)) (ho _).1, ?_⟩
    refine run_bind_eq_some.mpr ⟨_, _, (ho _).2, ?_⟩
    refine run_bind_eq_some.mpr ⟨_, _, hl, ?_⟩
    rw [List.append_nil]
    exact run_bind_eq_some.mpr ⟨_, _, (hc _).2, rfl⟩

omit hs in
theorem opensGenerics_append {ts : List Token} {sp : Spacing} {s : Span}
    (hn : ∀ s, b.follower ≠ .colon s) (hl : ts.getLast? = some (.punct '>' sp s)) :
    opensGenerics (ts ++ b.tail) = opensGenerics ts := by
  let name : Ahead := .any [.lifetime, .ident]
  let follows : Ahead := .any [.punct ">", .punct ",", .only ":" ["::"], .punct "="]
  have hf (ts : List Token) : follows (ts ++ b.tail) = follows ts := by
    simp only [follows, Ahead.any, Ahead.only, Ahead.both, Ahead.not, List.any_cons, List.any_nil,
      List.map_cons, List.map_nil, anyPunct_append hn]
  have hname : (Ahead.both name (.second follows)).Steady b.within := by
    refine (Steady.any_cons steady_lifetime (.any_cons steady_ident .any_nil)).both_of fun ts h => ?_
    rw [Ahead.any, List.any_cons, List.any_cons, List.any_nil, Bool.or_false, Bool.or_eq_true] at h
    cases h
    case inl h => exact second_append (b := b.within) hf h
    case inr h =>
      rcases ts with _ | ⟨_ | _ | _ | _, ts⟩
      case cons.ident => exact hf ts
      all_goals cases h
  rw [opensGenerics, Ahead.both, Ahead.both, punct_append (by decide)]
  cases h : Ahead.punct "<" ts
  case false => rfl
  case true =>
    obtain ⟨_, _, ts, rfl, -⟩ := Ahead.exists_of_punct '<' [] rfl h
    have ha : b.within.Admits ts := by
      cases ts
      case nil => cases hl
      case cons => exact admits_of_getLast? (List.getLast?_cons_cons ▸ hl)
    have hp : (any [.punct ">", .punct "#", .both name (.second follows), .keyword "const"]).Steady
        b.within :=
      .any_cons (steady_punct (by decide)) <| .any_cons (steady_punct (by decide)) <|
        .any_cons hname <| .any_cons (steady_keyword _) .any_nil
    exact congrArg _ (hp ts ha)

theorem run_implGenerics_append {ts : List Token} {c : Code} {sp : Spacing} {s : Span}
    (hb : ∃ i, b.follower = .name i) (hl : ∀ t ∈ ts.getLast?, t = .punct '>' sp s)
    (h : (maybe opensGenerics (genericsCode self)).run ts = some (c, [])) :
    (maybe opensGenerics (genericsCode self)).run (ts ++ b.tail) = some (c, b.tail) := by
  obtain ⟨i, hi⟩ := hb
  have hn (s : Span) : b.follower ≠ .colon s := by
    rw [hi]
    exact nofun
  obtain ⟨o, _, ho, h⟩ := run_bind_eq_some.mp h
  cases ho
  split at h
  case isFalse hf =>
    obtain ⟨rfl, rfl⟩ := run_pure_eq_some.mp h
    rw [List.nil_append, Border.tail, hi]
    rfl
  case isTrue ht =>
    have hne : ts ≠ [] := by
      rintro rfl
      cases ht
    have hl := hl _ (List.getLast?_eq_some_getLast hne)
    have ho := opensGenerics_append hn ((List.getLast?_eq_some_getLast hne).trans (congrArg some hl))
    obtain ⟨g, _, hg, h⟩ := run_bind_eq_some.mp h
    cases h
    refine run_bind_eq_some.mpr ⟨_, _, rfl, ?_⟩
    rw [ho, if_pos ht]
    exact run_bind_eq_some.mpr ⟨g, _, run_generics_append hs hne hg, rfl⟩

end Grammar

end Accessors
