import Accessors.Fragment.Basic
import Accessors.Proofs.Declared
import Accessors.Proofs.Depth
import Accessors.Proofs.Derivation
import Accessors.Proofs.Signatures

namespace Accessors

-- What an `impl` block without a trait consists of, as it is read.
structure ImplBlock where
  attributes : List Attribute
  generics : Code
  subject : Code
  clause : Code
  methods : List MethodItem
  introduced : Grammar.Gives (fun self => Rule.maybe Grammar.opensGenerics
    (Grammar.genericsCode self)) generics
  named : Grammar.Gives Rules.typeCode subject
  constrained : Grammar.Gives Grammar.whereCode clause

def ImplBlock.block (b : ImplBlock) : Piece :=
  .headed ([.token (.word "impl")] ++ b.generics ++ [.constrained b.subject b.clause])
    .unlocated .unlocated [] (b.methods.flatMap MethodItem.code)

def ImplBlock.code (b : ImplBlock) : Code :=
  Attribute.code b.attributes ++ [b.block]

theorem Generics.getLast?_introduced {g : Generics} :
    ∀ t ∈ g.introduced.getLast?, t = .punct '>' .alone .unlocated := by
  rw [introduced, write]
  split
  case isTrue => rintro _ ⟨⟩
  case isFalse =>
    rw [Code.tokens_append, Code.tokens_ofTokens, List.getLast?_append]
    rintro t ⟨⟩
    rfl

namespace Grammar

open Rule

section Size

theorem sizeAll_append (ts ts' : List Token) : sizeAll (ts ++ ts') = sizeAll ts + sizeAll ts' := by
  induction ts
  case nil => simp [sizeAll]
  case cons t ts ih => simp [sizeAll, ih, Nat.add_assoc]

theorem sizeAll_enclosed (d : Delimiter) (body : List Token) :
    sizeAll [.enclosed d body] = sizeAll body + 1 :=
  rfl

theorem sizeAll_le_flatMap {α : Type} {a : α} {as : List α} (h : a ∈ as) (f : α → List Token) :
    sizeAll (f a) ≤ sizeAll (as.flatMap f) := by
  induction h
  case head =>
    rw [List.flatMap_cons, sizeAll_append]
    exact Nat.le_add_right _ _
  case tail ih =>
    rw [List.flatMap_cons, sizeAll_append]
    exact Nat.le_add_left_of_le ih

theorem sizeAll_le_separate {part : List Token} {parts : List (List Token)} (h : part ∈ parts)
    (separator : List Token) : sizeAll part ≤ sizeAll (separate separator parts) := by
  induction h
  case head rest =>
    cases rest
    case nil => exact Nat.le_refl _
    case cons =>
      rw [separate, List.append_assoc, sizeAll_append]
      · exact Nat.le_add_right _ _
      · exact List.cons_ne_nil _ _
  case tail other rest h ih =>
    cases rest
    case nil => cases h
    case cons =>
      rw [separate, sizeAll_append]
      · exact Nat.le_add_left_of_le ih
      · exact List.cons_ne_nil _ _

variable {v : Value}

theorem sizeAll_clause {type : List Token} (h : type ∈ v.bounded) :
    sizeAll type ≤ sizeAll v.clause := by
  rcases v with _ | ⟨_ | ⟨t, types⟩⟩
  case common => cases h
  case erased.nil => cases h
  case erased.cons =>
    have hb : sizeAll type ≤ sizeAll (Value.bound type) := by
      simp only [Value.bound, List.append_assoc]
      rw [sizeAll_append]
      exact Nat.le_add_right _ _
    have hs := sizeAll_le_separate (List.mem_map_of_mem (f := Value.bound) h) (Token.operator ",")
    exact Nat.le_trans (Nat.le_trans hb hs) (Nat.le_add_left _ _)

theorem sizeAll_method (m : Method) (v : Value) :
    sizeAll (Token.operator "&" ++ v.type) + sizeAll v.clause < sizeAll (m.tokens v) := by
  cases m
  all_goals
    simp only [Method.tokens, Method.head, Method.lookupHead, Method.enumerateHead,
      Method.pairType, sizeAll_append, sizeAll_enclosed]
    omega

end Size

section Members

variable {n : Nat} {v : Value}
  (hv : ∀ k, n + 10 ≤ k →
    ∃ c, (rules k).typeCode.run (Token.operator "&" ++ v.type) = some (c, []))
  (hb : ∀ type ∈ v.bounded, ∃ c, (predicateSubject (rules (n + 13))).run type = some (c, []))

theorem exists_methodItems {ms : List Method} {cs : List Code}
    (h : List.Forall₂ (fun m c => ∃ item : MethodItem, item.name = m.name ∧ c = item.code) ms cs) :
    ∃ items : List MethodItem, items.map (·.name) = ms.map Method.name ∧
      cs = items.map MethodItem.code := by
  induction h
  case nil => exact ⟨[], rfl, rfl⟩
  case cons hi _ ih =>
    obtain ⟨item, hn, rfl⟩ := hi
    obtain ⟨items, hns, rfl⟩ := ih
    exact ⟨item :: items, by rw [List.map_cons, List.map_cons, hn, hns], rfl⟩

include hv hb

theorem run_members {ms : List Method} (hm : ∀ m ∈ ms, ∀ a ∈ m.accesses, Selectable a) :
    ∃ items : List MethodItem, items.map (·.name) = ms.map Method.name ∧
      ∀ head, (headed (rules (n + 13)) head
        (manyCode (.not .done) (implMember (rules (n + 13))))).run
          [.enclosed .brace (ms.flatMap fun m => m.tokens v)] =
            some ([.headed head .unlocated .unlocated [] (items.flatMap MethodItem.code)], []) := by
  have hx : ∀ m ∈ ms, m.tokens v ≠ [] ∧ ∀ rest,
      ∃ c, (∃ item : MethodItem, item.name = m.name ∧ c = item.code) ∧
        (implMember (rules (n + 13))).run (m.tokens v ++ rest) = some (c, rest) := by
    intro m h
    refine ⟨List.append_ne_nil_of_right_ne_nil _ (List.cons_ne_nil _ _), fun rest => ?_⟩
    obtain ⟨item, hn, hr⟩ := run_method hv hb m (hm m h) rest
    exact ⟨item.code, ⟨item, hn, rfl⟩, hr⟩
  have hi : (Ahead.both (.punct "#") (.second (.punct "!")))
      (ms.flatMap fun m => m.tokens v) = false := by
    rcases ms with _ | ⟨m, ms⟩
    · rfl
    · cases m <;> rfl
  obtain ⟨cs, hcs, hr⟩ := run_content (fun m : Method => m.tokens v) (rules (n + 13)) hx hi
  obtain ⟨items, hn, rfl⟩ := exists_methodItems hcs
  exact ⟨items, hn, fun head => hr head []⟩

end Members

section Impl

variable {self : Rules} {i : Ident} {introduced subject clause body : List Token} {g c k : Code}

structure ReadsHead (rules : Rules) (i : Ident) (introduced arguments clause : List Token)
    (b : ImplBlock) : Prop where
  name : Ahead.reserved.contains i.text = false
  generics : (maybe opensGenerics (genericsCode rules)).run introduced = some (b.generics, [])
  closed : ∀ t ∈ introduced.getLast?, t = .punct '>' .alone .unlocated
  subject {ts : List Token} (h : endsName ts = true) :
    (rules (.type true)).run (.ident i :: (arguments ++ ts)) = some (⟨b.subject, .name⟩, ts)
  clause : (whereCode rules).run clause = some (b.clause, [])

-- Only the word for a where clause can be in front of one.
theorem opens_clause {ts : List Token} (h : (whereCode self).run ts = some (c, [])) :
    ts = [] ∨ ∃ i ts', ts = .ident i :: ts' ∧ i.text = "where" := by
  obtain ⟨_, _, hw, h⟩ := run_bind_eq_some.mp h
  cases h
  obtain ⟨_, _, hk, hr⟩ := run_bind_eq_some.mp hw
  cases hk
  split at hr
  case isTrue hk =>
    rcases ts with _ | ⟨i | _ | _ | _, ts⟩
    case cons.ident => exact .inr ⟨i, ts, rfl, beq_iff_eq.mp hk⟩
    all_goals cases hk
  case isFalse =>
    cases hr
    exact .inl rfl

-- In front of the members of an `impl` block, a clause does not look like the type that a trait is
-- for.
theorem clause_append {clause : List Token} (h : (whereCode self).run clause = some (c, []))
    (body : List Token) : endsName (clause ++ [.enclosed .brace body]) = true ∧
      Ahead.keyword "for" (clause ++ [.enclosed .brace body]) = false := by
  obtain rfl | ⟨i, ts, rfl, hi⟩ := opens_clause h
  · exact ⟨rfl, rfl⟩
  · refine ⟨rfl, ?_⟩
    show (i.text == "for") = false
    rw [hi]
    decide

section Head

variable {n : Nat} {arguments : List Token} {b : ImplBlock}
  (h : ReadsHead (rules n) i introduced arguments clause b)

include h

theorem run_implGenerics (ts : List Token) :
    (cat [maybeKeyword "default", maybeKeyword "unsafe", keyword "impl",
      maybe opensGenerics (genericsCode (rules n))]).run
        (.word "impl" :: (introduced ++ .ident i :: ts)) =
          some ([.token (.word "impl")] ++ b.generics, .ident i :: ts) := by
  let start := .word "impl" :: (introduced ++ .ident i :: ts)
  have hd : (maybeKeyword "default").run start = some ([], start) := rfl
  have hu : (maybeKeyword "unsafe").run start = some ([], start) := rfl
  have hg : (maybe opensGenerics (genericsCode (rules n))).run (introduced ++ .ident i :: ts) =
      some (b.generics, .ident i :: ts) := by
    let border : Border := ⟨.name i, ts, false⟩
    have hs : (rules n).Continue border.follower border.rest := rules_continue _ _ _
    exact run_implGenerics_append hs ⟨i, rfl⟩ h.closed h.generics
  refine (run_cat_cons hd <| run_cat_cons hu <| run_cat_cons (run_keyword "impl") <|
    run_cat_cons hg rfl).trans ?_
  simp

theorem run_implSubject (body : List Token) :
    (constrained (rules n) do
      return b.subject ++
        (← maybe (.keyword "for") (cat [keyword "for", (rules n).typeCode]))).run
          (clause ++ [.enclosed .brace body]) =
            some ([.constrained b.subject b.clause], [.enclosed .brace body]) := by
  have hc : (whereCode (rules n)).run (clause ++ [.enclosed .brace body]) =
      some (b.clause, [.enclosed .brace body]) := by
    let border : Border := ⟨.brace .unlocated .unlocated body, [], false⟩
    have hs : (rules n).Continue border.follower border.rest := rules_continue _ _ _
    exact (continues_whereCode hs ⟨_, _, _, rfl⟩).run h.clause ⟨nofun, trivial⟩
  refine run_constrained ?_ hc
  rw [run_bind_of (run_maybe_of_not (clause_append h.clause body).2), List.append_nil]
  rfl

theorem run_implItem {body : List Token}
    (hm : ∀ head, (headed (rules n) head (manyCode (.not .done) (implMember (rules n)))).run
      [.enclosed .brace body] =
        some ([.headed head .unlocated .unlocated [] (b.methods.flatMap MethodItem.code)], [])) :
    (implItem (rules n)).run (.word "impl" ::
      (introduced ++ .ident i :: (arguments ++ (clause ++ [.enclosed .brace body])))) =
        some (some [b.block], []) := by
  let name := .ident i :: (arguments ++ (clause ++ [.enclosed .brace body]))
  have ⟨hend, hfor⟩ := clause_append h.clause body
  have hv : visibility.run (.word "impl" :: (introduced ++ name)) =
      some ([], .word "impl" :: (introduced ++ name)) := rfl
  have hconst : (Ahead.any [.keyword "const", .both (.punct "?") (.second (.keyword "const"))])
      name = false := by
    rw [Ahead.any, List.any_cons, Ahead.keyword_of_not_reserved h.name (by decide)]
    rfl
  have hp : (maybe (.both (.punct "!") (.not (.second (.group .brace)))) (punct "!")).run name =
      some ([], name) := run_maybe_of_not rfl
  rw [implItem, run_bind_of hv, run_bind_of (run_implGenerics h _),
    run_bind_of (run_sees_of hconst), if_neg Bool.false_ne_true]
  refine (run_bind_of hp).trans ?_
  refine (run_bind_of (h.subject hend)).trans ?_
  refine (run_bind_of (run_sees_of hfor)).trans ?_
  refine (run_bind_of (run_implSubject h body)).trans ((run_bind_of (hm _)).trans ?_)
  simp [ImplBlock.block]

end Head

-- `#[allow(dead_code)]`
def allowance : List Token :=
  Token.operator "#" ++
    [.enclosed .bracket [.word "allow", .enclosed .paren [.word "dead_code"]]]

theorem run_item_impl {n : Nat} {c : Code} {ts : List Token}
    (h : (implItem (rules n)).run (.word "impl" :: ts) = some (some c, [])) :
    ∃ a : Attribute, a.tokens = allowance ∧
      (item (rules n)).run (allowance ++ .word "impl" :: ts) =
        some (.code (Attribute.code [a] ++ c), []) := by
  let body := .word "impl" :: ts
  obtain ⟨a, ht, ha⟩ : ∃ a : Attribute, a.tokens = allowance ∧
      (oneAttribute (rules n) false).run (allowance ++ body) = some (a, body) := ⟨_, rfl, rfl⟩
  have ho : (outerAttributes (rules n)).run (allowance ++ body) = some ([a], body) :=
    run_many_cons rfl ha (by simp only [allowance, List.length_append, List.length_cons]; omega)
      (run_many_of_not rfl)
  have hv : visibility.run body = some ([], body) := rfl
  have hb : (itemBody (rules n) false body [a]).run body =
      some (some (.code (Attribute.code [a] ++ c)), []) := by
    have hp : itemBody (rules n) false body [a] = (do
        return (← implItem (rules n)).map fun c =>
          .code (Attribute.code [a] ++ c)) := rfl
    rw [hp, run_bind_of h]
    rfl
  refine ⟨a, ht, ?_⟩
  rw [run_item, ho]
  simp [hv, hb]

end Impl

-- What the parts of a declaration have to be read as, once they are put into an `impl` block.
structure Spliced (d : Declaration) (members : List Member) : Prop where
  introduced : (read? (fun self => maybe opensGenerics (genericsCode self))
    d.generics.introduced).isSome
  clause : (read? whereCode d.clause.tokens).isSome
  -- All accessors return something of the same type, by reference.
  reference : (read? Rules.typeCode (Token.operator "&" ++ (Value.of members d.generics).type)).isSome
  bounded : ∀ type ∈ (Value.of members d.generics).bounded, (read? Rules.typeCode type).isSome
  names : ∀ m ∈ members, m.name ≠ "_"

end Grammar

namespace Declaration

theorem members?_eq_some {d : Declaration} {members : List Member} :
    d.members? = some members ↔ ∃ fields, d.shape = .struct fields ∧ fields.members = members := by
  rw [members?]
  split
  case h_1 h => simp [h]
  case h_2 h => simpa using fun fields hf => absurd hf (h fields)

section Parts

variable (d : Declaration) (members : List Member) (s : Capabilities)

def methods : List Method :=
  s.toList.map (Method.of d.name.name members)

theorem map_name_methods :
    (d.methods members s).map Method.name = s.toList.map Capability.accessor := by
  simp [methods, Method.name_of]

def implBody : List Token :=
  (d.methods members s).flatMap (·.tokens (.of members d.generics))

theorem implTokens_eq : d.implTokens members s = Grammar.allowance ++ .word "impl" ::
    (d.generics.introduced ++ .ident d.name :: (d.generics.arguments ++
      (d.clause.tokens ++ [.enclosed .brace (d.implBody members s)]))) := by
  simp [implTokens, implHead, Grammar.allowance, implBody, methods, List.flatMap_map]

theorem size_implTokens : Grammar.sizeAll d.generics.introduced + Grammar.sizeAll d.clause.tokens +
    Grammar.sizeAll (d.implBody members s) + 1 < Grammar.sizeAll (d.implTokens members s) := by
  have hi (ts : List Token) :
      Grammar.sizeAll (.word "impl" :: ts) = Grammar.sizeAll ts + 1 := Nat.add_comm _ _
  have hn (ts : List Token) :
      Grammar.sizeAll (.ident d.name :: ts) = Grammar.sizeAll ts + 1 := Nat.add_comm _ _
  simp only [implTokens_eq, Grammar.sizeAll_append, Grammar.sizeAll_enclosed, hi, hn]
  omega

theorem exists_depth (hs : s.isEmpty = false) :
    ∃ n, Grammar.depth (d.implTokens members s) = n + 13 ∧
      Grammar.depth d.generics.introduced ≤ n + 13 ∧ Grammar.depth d.clause.tokens ≤ n + 13 ∧
      Grammar.depth (Token.operator "&" ++ (Value.of members d.generics).type) ≤ n + 10 ∧
      ∀ type ∈ (Value.of members d.generics).bounded, Grammar.depth type ≤ n + 13 := by
  have hsize := d.size_implTokens members s
  obtain ⟨c, hc⟩ : ∃ c, c ∈ s.toList := by
    obtain ⟨_ | _, _ | _, _ | _⟩ := s
    case false.false.false => cases hs
    all_goals exact ⟨_, List.mem_cons_self⟩
  let m := Method.of d.name.name members c
  have hm : m ∈ d.methods members s := List.mem_map_of_mem hc
  have hs : Grammar.sizeAll (m.tokens (.of members d.generics)) ≤
      Grammar.sizeAll (d.implBody members s) :=
    Grammar.sizeAll_le_flatMap hm (·.tokens _)
  have hv := Grammar.sizeAll_method m (.of members d.generics)
  refine ⟨Grammar.depth (d.implTokens members s) - 13, ?_⟩
  simp only [Grammar.depth]
  refine ⟨by omega, by omega, by omega, by omega, fun type ht => ?_⟩
  have := Grammar.sizeAll_clause ht
  omega

end Parts

open Grammar Rule

end Declaration

open Grammar

-- `struct Pair<T> { left: T, right: u8 }`
def pairTokens : List Token :=
  [.word "struct", .word "Pair"] ++ Token.operator "<" ++ [.word "T"] ++ Token.operator ">" ++
    [.enclosed .brace ([.word "left"] ++ Token.operator ":" ++ [.word "T"] ++ Token.operator "," ++
      [.word "right"] ++ Token.operator ":" ++ [.word "u8"])]

-- `struct S { x: dyn A + B }`
def wideTokens : List Token :=
  [.word "struct", .word "S", .enclosed .brace ([.word "x"] ++ Token.operator ":" ++
    [.word "dyn", .word "A"] ++ Token.operator "+" ++ [.word "B"])]

end Accessors
