import Accessors.Proofs.Clauses

namespace Accessors

def Capability.accessor : Capability → String
  | byIndex => "get_member"
  | byName => "get_member_by_name"
  | enumerate => "enumerate_members"

namespace Method

def name : Method → String
  | byIndex _ _ => "get_member"
  | byName _ _ => "get_member_by_name"
  | enumerate _ _ => "enumerate_members"

def accesses : Method → List Access
  | byIndex _ arms => arms.map (·.2)
  | byName _ arms => arms.map (·.2)
  | enumerate _ pairs => pairs.map (·.2)

theorem name_of (owner : String) (members : List Member) (c : Capability) :
    (of owner members c).name = c.accessor := by
  cases c <;> rfl

theorem accesses_of (owner : String) (members : List Member) (c : Capability) :
    (of owner members c).accesses = members.map (·.access) := by
  cases c <;> simp [of, accesses]

end Method

def Method.documentationAttribute (line : String) : Attribute :=
  ⟨false, .unlocated, .unlocated, .unlocated, ⟨false, [⟨"doc", false, .unlocated⟩]⟩,
    .value .unlocated [.token (.literal ("r\"" ++ line ++ "\"") .unlocated)]⟩

-- What a public method consists of, as it is read.
structure MethodItem where
  documentation : List String
  name : String
  inputs : Code
  output : Code
  clause : Code
  body : Code
  named : Ahead.reserved.contains name = false
  returned : Grammar.Gives (Grammar.returnCode · true) output
  constrained : Grammar.Gives Grammar.whereCode clause

def MethodItem.head (m : MethodItem) : Code :=
  Code.ofTokens [.word "pub", .word "fn", .word m.name] ++
    [.constrained ([.group .paren .unlocated .unlocated m.inputs] ++ m.output) m.clause]

def MethodItem.code (m : MethodItem) : Code :=
  Attribute.code (m.documentation.map Method.documentationAttribute) ++
    [.headed m.head .unlocated .unlocated [] m.body]

namespace Grammar

open Rule

section Parts

variable {self : Rules} {ts rest : List Token} {c : Code}

theorem run_bound_trait {captures conditional : Bool} (hl : Ahead.lifetime ts = false)
    (hu : Ahead.keyword "use" ts = false) (hp : Ahead.group .paren ts = false)
    (h : (traitBound self conditional).run ts = some ((c, false), rest)) :
    (bound self captures conditional).run ts = some (⟨c, .trait⟩, rest) := by
  have hw {p : Rule (Code × Bool)} : (sees (.group .paren) >>= fun c =>
      if c = true then p else traitBound self conditional).run ts = some ((c, false), rest) := by
    rw [run_whether, hp]
    exact h
  rw [bound, run_whether, hl, if_neg nofun, run_whether, hu, if_neg nofun]
  exact run_bind_of ((run_verbatim _).trans (congrArg (Option.map _) hw))

theorem run_type_impl (self : Rules) (plus : Bool) (ts : List Token) :
    (type self plus).run (.word "impl" :: ts) =
      (cat [keyword "impl", return boundsCode (← objectBounds self plus true true)] >>=
        fun c => pure ⟨c, .other⟩).run (.word "impl" :: ts) :=
  rfl

theorem run_returnCode {plus : Bool} {x : Phrase TypeForm}
    (h : (self (.type plus)).run ts = some (x, rest)) :
    (returnCode self plus).run (Token.operator "->" ++ ts) =
      some (Code.ofTokens (Token.operator "->") ++ x.code, rest) := by
  have hr : (returnType self plus).run (Token.operator "->" ++ ts) =
      some (some ⟨Code.ofTokens (Token.operator "->") ++ x.code, x.form⟩, rest) := by
    refine (run_whether _).trans ((if_pos rfl).trans ((run_bind_of (run_punct "->")).trans ?_))
    exact run_bind_of h
  exact run_bind_of hr

theorem run_orVerbatim {p : Rule (Option Code)} (h : p.run ts = some (some c, rest)) :
    (orVerbatim p).run ts = some (c, rest) :=
  run_bind_of ((run_verbatim p).trans (congrArg (Option.map _) h))

theorem run_constrained {p : Rule Code} {mid : List Token} {clause : Code}
    (h : p.run ts = some (c, mid)) (hc : (whereCode self).run mid = some (clause, rest)) :
    (constrained self p).run ts = some ([.constrained c clause], rest) := by
  rw [constrained, run_bind_of h, run_bind_of hc]
  rfl

theorem run_bound_of_global {captures : Bool} {r : Route}
    (h : (boundRoute self).run (Token.operator "::" ++ ts) = some (r, rest)) :
    (bound self captures true).run (Token.operator "::" ++ ts) = some (⟨r.code, .trait⟩, rest) := by
  have hn : (binder self).run (Token.operator "::" ++ ts) =
      some ([], Token.operator "::" ++ ts) := rfl
  have hm : (maybePunct "?").run (Token.operator "::" ++ ts) =
      some ([], Token.operator "::" ++ ts) := rfl
  refine run_bound_trait rfl rfl rfl ?_
  rw [traitBound, run_bind_of hn, run_bind_of (run_sees _), run_bind_of (run_sees _),
    if_neg nofun, if_neg nofun, if_neg nofun, run_bind_of hm, run_bind_of (run_sees _),
    if_neg nofun, run_bind_of h]
  rfl

theorem run_documentation (self : Rules) (lines : List String) (h : Ahead.punct "#" ts = false) :
    (outerAttributesCode self).run (lines.flatMap Method.documentationTokens ++ ts) =
      some (Attribute.code (lines.map Method.documentationAttribute), ts) := by
  have hx : ∀ line ∈ lines, Method.documentationTokens line ≠ [] ∧ ∀ rest,
      Ahead.punct "#" (Method.documentationTokens line ++ rest) = true ∧ ∃ a,
        Method.documentationAttribute line = a ∧
          (oneAttribute self false).run (Method.documentationTokens line ++ rest) =
            some (a, rest) :=
    fun line _ => ⟨List.cons_ne_nil _ _, fun rest => ⟨rfl, _, rfl, rfl⟩⟩
  have ⟨as, has, hm⟩ := run_many_of Method.documentationTokens hx h
  have he : lines.map Method.documentationAttribute = as := by
    rw [← List.forall₂_eq_eq_eq, List.forall₂_map_left_iff]
    exact has
  rw [he]
  exact run_bind_of hm

end Parts

section Methods

-- What stands between the name of a method and its body, and how it is read in front of the body.
structure ReadsSignature (rules : Rules) (inputs output clause body ts : List Token)
    (m : MethodItem) : Prop where
  inputs : (arguments rules).run inputs = some (m.inputs, [])
  output : (returnCode rules true).run (output ++ (clause ++ .enclosed .brace body :: ts)) =
    some (m.output, clause ++ .enclosed .brace body :: ts)
  clause : (whereCode rules).run (clause ++ .enclosed .brace body :: ts) =
    some (m.clause, .enclosed .brace body :: ts)

variable {self : Rules} {inputs output clause body ts : List Token} {m : MethodItem}
  (h : ReadsSignature self inputs output clause body ts m)

include h

theorem run_signature :
    (signature self false).run (.word "fn" :: .word m.name :: .enclosed .paren inputs ::
      (output ++ (clause ++ .enclosed .brace body :: ts))) =
        some (Code.ofTokens [.word "fn", .word m.name] ++
          [.constrained ([.group .paren .unlocated .unlocated m.inputs] ++ m.output) m.clause],
          .enclosed .brace body :: ts) := by
  let behind := clause ++ .enclosed .brace body :: ts
  let tail := .enclosed .paren inputs :: (output ++ behind)
  let start := .word "fn" :: .word m.name :: tail
  have hc : (maybeKeyword "const").run start = some ([], start) := rfl
  have ha : (maybeKeyword "async").run start = some ([], start) := rfl
  have hu : (maybeKeyword "unsafe").run start = some ([], start) := rfl
  have he : maybeAbi.run start = some ([], start) := rfl
  have hn : identCode.run (.word m.name :: tail) = some ([.token (.word m.name)], tail) :=
    run_identCode m.named
  have hg : (genericsCode self).run tail = some ([], tail) := rfl
  have hs : (cat [enclosed .paren (arguments self), returnCode self true]).run tail =
      some ([.group .paren .unlocated .unlocated m.inputs] ++ (m.output ++ []), behind) :=
    run_cat_cons (run_enclosed h.inputs) (run_cat_cons h.output rfl)
  have hw := run_constrained hs h.clause
  refine (run_cat_cons hc <| run_cat_cons ha <| run_cat_cons hu <| run_cat_cons he <|
    run_cat_cons (run_keyword "fn") <| run_cat_cons hn <| run_cat_cons hg <|
      run_cat_cons hw rfl).trans ?_
  simp [Code.ofTokens]

theorem run_methodHead :
    (cat [cat [visibility, maybeKeyword "default"], signature self false]).run (.word "pub" ::
      .word "fn" :: .word m.name :: .enclosed .paren inputs ::
        (output ++ (clause ++ .enclosed .brace body :: ts))) =
          some (m.head, .enclosed .brace body :: ts) := by
  have hq (ts : List Token) :
      (cat [visibility, maybeKeyword "default"]).run (.word "pub" :: .word "fn" :: ts) =
        some ([.token (.word "pub")], .word "fn" :: ts) := rfl
  refine (run_cat_cons (hq _) (run_cat_cons (run_signature h) rfl)).trans ?_
  simp [MethodItem.head, Code.ofTokens]

theorem run_implMember (hi : Ahead.punct "#" body = false)
    (hb : (self .block).run body = some (m.body, [])) :
    (implMember self).run (m.documentation.flatMap Method.documentationTokens ++ .word "pub" ::
      .word "fn" :: .word m.name :: .enclosed .paren inputs ::
        (output ++ (clause ++ .enclosed .brace body :: ts))) = some (m.code, ts) := by
  let start := .word "fn" :: .word m.name :: .enclosed .paren inputs ::
    (output ++ (clause ++ .enclosed .brace body :: ts))
  have ho : (outerAttributesCode self).run
      (m.documentation.flatMap Method.documentationTokens ++ .word "pub" :: start) =
        some (Attribute.code (m.documentation.map Method.documentationAttribute),
          .word "pub" :: start) :=
    run_documentation self m.documentation rfl
  have hv : (lookAhead do
      let visibility ← visibility
      let default ← maybe (.both (.keyword "default") (.not (.second (.punct "!")))) anyIdentCode
      return (!visibility.isEmpty, !default.isEmpty, ← get) : Rule _).run (.word "pub" :: start) =
        some ((true, false, start), .word "pub" :: start) := rfl
  have hx : (do
      let head ← cat [cat [visibility, maybeKeyword "default"], signature self false]
      if ← sees (.punct ";") then
        let _ ← punct ";"
        return none
      return some (← headed self head (self .block)) : Rule (Option Code)).run
        (.word "pub" :: start) =
          some (some [.headed m.head .unlocated .unlocated [] m.body], ts) := by
    rw [run_bind_of (run_methodHead h), run_whether, if_neg (by rintro ⟨⟩),
      run_bind_of (run_headed (run_innerAttributesCode self hi) hb)]
    rfl
  have hp : opensSignature false start = true := rfl
  refine run_orVerbatim ?_
  rw [run_bind_of ho]
  refine (run_bind_of hv).trans ?_
  dsimp only
  rw [if_pos hp]
  exact run_bind_of hx

end Methods

section Iterator

variable {m : Nat} {v : Value} {c : Code}
  (hv : (rules (m + 3)).typeCode.run (Token.operator "&" ++ v.type) = some (c, []))

-- `Item = (&'static str, &value)`
def itemTokens (v : Value) : List Token :=
  .word "Item" :: (Token.operator "=" ++ [Method.pairType v])

-- `::core::iter::Iterator<Item = …>`
def iteratorTokens (v : Value) : List Token :=
  Method.globalPath ["core", "iter"] ++ (Token.operator "::" ++ .word "Iterator" ::
    (Token.operator "<" ++ (itemTokens v ++ Token.operator ">")))

-- `-> impl ::core::iter::Iterator<Item = …> + '_`
def iteratorOutput (v : Value) : List Token :=
  Token.operator "->" ++ .word "impl" ::
    (iteratorTokens v ++ (Token.operator "+" ++ Token.lifetime "_"))

include hv

theorem run_itemArgument : ∃ c', ∀ ts,
    (genericArgument (rules (m + 4))).run (itemTokens v ++ (Token.operator ">" ++ ts)) =
      some ((false, c'), Token.operator ">" ++ ts) := by
  have hn (ts : List Token) :
      (rules (m + 4) (.type true)).run (.word "Item" :: (Token.operator "=" ++ ts)) =
        some (⟨[.token (.word "Item")], .name⟩, Token.operator "=" ++ ts) := rfl
  have ⟨c', hc⟩ := run_pairType hv true
  refine ⟨[.token (.word "Item")] ++ Code.ofTokens (Token.operator "=") ++ c', fun ts => ?_⟩
  have ht : (rules (m + 4)).typeCode.run (Method.pairType v :: (Token.operator ">" ++ ts)) =
      some (c', Token.operator ">" ++ ts) := run_bind_of (hc _)
  show StateT.run _ (.word "Item" :: (Token.operator "=" ++ Method.pairType v ::
    (Token.operator ">" ++ ts))) = _
  rw [genericArgument, run_whether, if_neg nofun, run_whether, if_neg nofun, run_bind_of (hn _),
    if_neg nofun]
  refine (run_whether _).trans ((if_pos rfl).trans ((run_bind_of (run_punct "=")).trans ?_))
  exact (run_whether _).trans (run_bind_of ht)

theorem run_iteratorSegment : ∃ c', ∀ ts, (segment (rules (m + 4)) false).run
    (.word "Iterator" :: (Token.operator "<" ++ (itemTokens v ++ (Token.operator ">" ++ ts)))) =
      some (⟨[.token (.word "Iterator")], .angled c' false⟩, ts) := by
  have ⟨c', hc⟩ := run_itemArgument hv
  let l : Listed (Bool × Code) := ⟨[(false, c')], false⟩
  let code := Code.ofTokens (Token.operator "<") ++ l.codeLifetimesFirst ++
    Code.ofTokens (Token.operator ">")
  refine ⟨code, fun ts => ?_⟩
  let tail := Token.operator ">" ++ ts
  have hl : (listed true (.punct ">") "," (genericArgument (rules (m + 4)))).run
      (itemTokens v ++ tail) = some (l, tail) :=
    run_listed_last (List.cons_ne_nil _ _) rfl (hc ts) rfl
  have ha : (angleArguments (rules (m + 4))).run (Token.operator "<" ++ (itemTokens v ++ tail)) =
      some (.angled code false, ts) := by
    rw [angleArguments, run_bind_of (run_punct "<"), run_bind_of hl, run_bind_of (run_punct ">")]
    rfl
  have hi (ts : List Token) : identCode.run (.word "Iterator" :: ts) =
      some ([.token (.word "Iterator")], ts) := rfl
  rw [segment, run_whether, if_neg nofun, run_whether, if_neg nofun, run_bind_of (hi _),
    run_bind_of (run_sees _), run_bind_of (run_sees _)]
  exact run_bind_of ha

theorem run_iteratorRoute : ∃ r : Route, ∀ ts,
    (boundRoute (rules (m + 4))).run (iteratorTokens v ++ (Token.operator "+" ++ ts)) =
      some (r, Token.operator "+" ++ ts) := by
  have ⟨c', hs⟩ := run_iteratorSegment hv
  let self := rules (m + 4)
  let r : Route := ⟨Code.ofTokens (Token.operator "::"), false,
    [⟨[.token (.word "core")], .absent⟩, ⟨[.token (.word "iter")], .absent⟩,
      ⟨[.token (.word "Iterator")], .angled c' false⟩]⟩
  refine ⟨r, fun ts => ?_⟩
  let tail := Token.operator "+" ++ ts
  let last := .word "Iterator" ::
    (Token.operator "<" ++ (itemTokens v ++ (Token.operator ">" ++ tail)))
  let path := .word "core" ::
    (Token.operator "::" ++ .word "iter" :: (Token.operator "::" ++ last))
  have hlast : (do let _ ← punct "::"; segment self false : Rule Segment).run
      (Token.operator "::" ++ last) =
        some (⟨[.token (.word "Iterator")], .angled c' false⟩, tail) :=
    (run_bind_of rfl).trans (hs tail)
  have hiter : (do let _ ← punct "::"; segment self false : Rule Segment).run
      (Token.operator "::" ++ .word "iter" :: (Token.operator "::" ++ last)) =
        some (⟨[.token (.word "iter")], .absent⟩, Token.operator "::" ++ last) := rfl
  have hf : (furtherSegments self false).run
      (Token.operator "::" ++ .word "iter" :: (Token.operator "::" ++ last)) = some (_, tail) :=
    run_many_cons rfl hiter (by simp only [List.length_append, List.length_cons]; omega) <|
      run_many_cons rfl hlast (by simp only [last, List.length_append, List.length_cons]; omega) <|
        run_many_of_not rfl
  have hcore (ts : List Token) :
      (segment self false).run (.word "core" :: (Token.operator "::" ++ .word "iter" :: ts)) =
        some (⟨[.token (.word "core")], .absent⟩, Token.operator "::" ++ .word "iter" :: ts) := rfl
  have hlead : (maybePunct "::").run (Token.operator "::" ++ path) =
      some (Code.ofTokens (Token.operator "::"), path) := rfl
  have hroute : (route self false).run (Token.operator "::" ++ path) = some (r, tail) := by
    rw [route, run_bind_of hlead, run_bind_of (hcore _), run_bind_of hf]
    rfl
  have he : iteratorTokens v ++ tail = Token.operator "::" ++ path := by
    simp [iteratorTokens, path, last, Method.globalPath]
  rw [he, boundRoute, run_bind_of hroute]
  rfl

theorem run_iterator : ∃ c', ∀ ts, (rules (m + 5) (.bound true true)).run
    (iteratorTokens v ++ (Token.operator "+" ++ ts)) =
      some (⟨c', .trait⟩, Token.operator "+" ++ ts) := by
  have ⟨r, hr⟩ := run_iteratorRoute hv
  exact ⟨r.code, fun ts => run_bound_of_global (hr ts)⟩

theorem run_iteratorOutput {ts : List Token} (hts : Ahead.punct "+" ts = false) : ∃ c',
    (returnCode (rules (m + 6)) true).run (iteratorOutput v ++ ts) = some (c', ts) := by
  have ⟨c', hb⟩ := run_iterator hv
  let bounds := iteratorTokens v ++ (Token.operator "+" ++ (Token.lifetime "_" ++ ts))
  let l : Listed (Phrase BoundForm) :=
    ⟨[⟨c', .trait⟩, ⟨Code.ofTokens (Token.lifetime "_"), .lifetime⟩], false⟩
  have hl : (rules (m + 5) (.bound true true)).run (Token.lifetime "_" ++ ts) =
      some (⟨Code.ofTokens (Token.lifetime "_"), .lifetime⟩, ts) := rfl
  have hr : (boundList (rules (m + 5)) true true true).run bounds = some (l, ts) := by
    have hn : (Token.operator "+").length = 1 := rfl
    refine run_boundList_cons (hb _) rfl (run_punct "+") rfl ?_
      (run_boundList_last (List.cons_ne_nil _ _) hl hts)
    simp only [List.length_append, hn]
    omega
  have ho : (objectBounds (rules (m + 5)) true true true).run bounds = some (l, ts) := by
    rw [objectBounds, run_bind_of hr]
    rfl
  have ht := run_type_impl (rules (m + 5)) true bounds
  rw [run_bind_of (run_cat_cons (run_keyword "impl") (run_cat_cons (run_bind_of ho) rfl))] at ht
  have ht : (rules (m + 6) (.type true)).run (.word "impl" :: bounds) = some (_, ts) := ht
  have he : iteratorOutput v ++ ts = Token.operator "->" ++ .word "impl" :: bounds := by
    simp [iteratorOutput, bounds]
  rw [he]
  exact ⟨_, run_returnCode ht⟩

end Iterator

section Accessors

variable {n : Nat} {v : Value}
  (hv : ∀ k, n + 10 ≤ k →
    ∃ c, (rules k).typeCode.run (Token.operator "&" ++ v.type) = some (c, []))

include hv

theorem run_lookupOutput (body ts : List Token) : ∃ c, (returnCode (rules (n + 13)) true).run
    (Token.operator "->" ++ (Token.operator "&" ++ v.type ++
      (v.clause ++ .enclosed .brace body :: ts))) =
        some (c, v.clause ++ .enclosed .brace body :: ts) := by
  rcases v with type | ⟨_ | ⟨t, types⟩⟩
  case common =>
    have hs := rules_continue (.brace .unlocated .unlocated body) ts (n + 13)
    obtain ⟨c, hc⟩ := hv (n + 13) (by omega)
    obtain ⟨x, _, hx, h⟩ := run_bind_eq_some.mp hc
    cases h
    exact ⟨_, run_returnCode ((hs.type false true).run hx ⟨nofun, trivial⟩)⟩
  all_goals exact ⟨_, run_returnCode (x := ⟨_, .other⟩) rfl⟩

variable (hb : ∀ type ∈ v.bounded,
  ∃ c, (predicateSubject (rules (n + 13))).run type = some (c, []))

include hb

omit hv in
theorem exists_method (lines : List String) {name : String} {inputs output body ts : List Token}
    (hn : Ahead.reserved.contains name = false)
    (hi : ∃ c, (arguments (rules (n + 13))).run inputs = some (c, []))
    (ho : ∃ c, (returnCode (rules (n + 13)) true).run
      (output ++ (v.clause ++ .enclosed .brace body :: ts)) =
        some (c, v.clause ++ .enclosed .brace body :: ts))
    (hs : Ahead.punct "#" body = false)
    (hc : ∃ c, (rules (n + 13) .block).run body = some (c, [])) :
    ∃ m : MethodItem, m.name = name ∧ (implMember (rules (n + 13))).run
      (lines.flatMap Method.documentationTokens ++ .word "pub" :: .word "fn" :: .word name ::
        .enclosed .paren inputs :: (output ++ (v.clause ++ .enclosed .brace body :: ts))) =
          some (m.code, ts) := by
  have ⟨inputs', hi⟩ := hi
  have ⟨output', ho⟩ := ho
  have ⟨clause', hw⟩ := run_clause hb body ts
  have ⟨body', hc⟩ := hc
  let m : MethodItem :=
    ⟨lines, name, inputs', output', clause', body', hn, ⟨_, _, _, ho⟩, ⟨_, _, _, hw⟩⟩
  exact ⟨m, rfl, run_implMember (m := m) ⟨hi, ho, hw⟩ hs hc⟩

theorem run_lookupMethod {name key : String} {keyType : List Token} {arms : List (Token × Access)}
    (hn : Ahead.reserved.contains name = false) (hk : key = "index" ∨ key = "name")
    (hi : ∃ c, (arguments (rules (n + 13))).run (Token.operator "&" ++ [.word "self"] ++
      Token.operator "," ++ [.word key] ++ Token.operator ":" ++ keyType) = some (c, []))
    (ha : ∀ x ∈ arms, (∃ text s, x.1 = .literal text s) ∧ Selectable x.2) (lines : List String)
    (message : String) (ts : List Token) :
    ∃ m : MethodItem, m.name = name ∧ (implMember (rules (n + 13))).run
      (lines.flatMap Method.documentationTokens ++ (Method.lookupHead name key keyType v ++
        .enclosed .brace (Method.lookupBody key message arms v) :: ts)) = some (m.code, ts) := by
  let body := Method.lookupBody key message arms v
  have ho : ∃ c, (returnCode (rules (n + 13)) true).run
      (Token.operator "->" ++ (Token.operator "&" ++ v.type) ++
        (v.clause ++ .enclosed .brace body :: ts)) =
          some (c, v.clause ++ .enclosed .brace body :: ts) := by
    rw [List.append_assoc]
    exact run_lookupOutput hv body ts
  have ⟨m, hm, h⟩ :=
    exists_method hb lines hn hi ho rfl (run_lookupBlock (n + 3) v hk ha message)
  refine ⟨m, hm, h ▸ ?_⟩
  simp [Method.lookupHead, body]

theorem run_enumerateMethod {pairs : List (String × Access)} (hp : ∀ x ∈ pairs, Selectable x.2)
    (lines : List String) (count : Nat) (ts : List Token) :
    ∃ m : MethodItem, m.name = "enumerate_members" ∧ (implMember (rules (n + 13))).run
      (lines.flatMap Method.documentationTokens ++ (Method.enumerateHead v ++
        .enclosed .brace (Method.enumerateBody count pairs v) :: ts)) = some (m.code, ts) := by
  have ⟨c, hc⟩ := hv (n + 10) (Nat.le_refl _)
  let body := Method.enumerateBody count pairs v
  have hs : Ahead.punct "+" (v.clause ++ .enclosed .brace body :: ts) = false := by
    rcases v with type | ⟨_ | ⟨t, types⟩⟩ <;> rfl
  have hn : Ahead.reserved.contains "enumerate_members" = false := by decide
  have hi : ∃ c, (arguments (rules (n + 13))).run (Token.operator "&" ++ [.word "self"]) =
      some (c, []) := ⟨_, rfl⟩
  have ⟨m, hm, h⟩ := exists_method hb lines hn hi (run_iteratorOutput hc hs) rfl
    (run_enumerateBlock n hp hc count)
  refine ⟨m, hm, h ▸ ?_⟩
  simp [Method.enumerateHead, iteratorOutput, iteratorTokens, itemTokens, Method.globalPath, body]

theorem run_method (m : Method) (hm : ∀ a ∈ m.accesses, Selectable a) (ts : List Token) :
    ∃ item : MethodItem, item.name = m.name ∧
      (implMember (rules (n + 13))).run (m.tokens v ++ ts) = some (item.code, ts) := by
  have ht {head body : List Token} : (head ++ [.enclosed .brace body]) ++ ts =
      head ++ .enclosed .brace body :: ts := by simp
  cases m
  case byIndex owner arms =>
    have ha : ∀ x ∈ arms.map fun x => (Token.number x.1, x.2),
        (∃ text s, x.1 = .literal text s) ∧ Selectable x.2 := by
      rw [List.forall_mem_map]
      exact fun x hx => ⟨⟨_, _, rfl⟩, hm _ (List.mem_map_of_mem hx)⟩
    rw [Method.tokens, ht, Method.head, List.append_assoc]
    have hn : Ahead.reserved.contains "get_member" = false := by decide
    exact run_lookupMethod hv hb hn (.inl rfl) ⟨_, rfl⟩ ha _ _ ts
  case byName owner arms =>
    have ha : ∀ x ∈ arms.map fun x => (Token.string x.1, x.2),
        (∃ text s, x.1 = .literal text s) ∧ Selectable x.2 := by
      rw [List.forall_mem_map]
      exact fun x hx => ⟨⟨_, _, rfl⟩, hm _ (List.mem_map_of_mem hx)⟩
    rw [Method.tokens, ht, Method.head, List.append_assoc]
    have hn : Ahead.reserved.contains "get_member_by_name" = false := by decide
    exact run_lookupMethod hv hb hn (.inr rfl) ⟨_, rfl⟩ ha _ _ ts
  case enumerate count pairs =>
    have hp : ∀ x ∈ pairs, Selectable x.2 := fun x hx => hm _ (List.mem_map_of_mem hx)
    rw [Method.tokens, ht, Method.head, List.append_assoc]
    exact run_enumerateMethod hv hb hp _ count ts

end Accessors

end Grammar

end Accessors
