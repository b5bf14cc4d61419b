import Accessors.Proofs.Composition

namespace Accessors

open List

namespace Value

theorem sameType_iff {s t : List Token} : sameType s t = true ↔ renderTokens s = renderTokens t :=
  beq_iff_eq

theorem sameType_self (t : List Token) : sameType t t = true :=
  sameType_iff.mpr rfl

-- Those of some types that are written like none before them: each type is there, where it first
-- occurs.
structure Firsts (types firsts : List (List Token)) : Prop where
  complete : ∀ t ∈ types, ∃ s ∈ firsts, sameType s t = true
  earliest : ∀ t ∈ firsts, types.find? (sameType t) = some t
  increasing : firsts.Pairwise fun s t => types.findIdx (sameType s) < types.findIdx (sameType t)

theorem Firsts.cons {types firsts : List (List Token)} (h : Firsts types firsts) (t : List Token) :
    Firsts (t :: types) (t :: firsts.filter fun s => !sameType s t) := by
  have other {s : List Token} (hs : s ∈ firsts.filter fun s => !sameType s t) :
      s ∈ firsts ∧ sameType s t = false := by
    simpa using hs
  refine ⟨fun u hu => ?complete, fun s hs => ?earliest, ?increasing⟩
  case complete =>
    by_cases ht : sameType t u = true
    case pos => exact ⟨t, mem_cons_self, ht⟩
    case neg =>
      rcases mem_cons.mp hu with rfl | hu
      · exact absurd (sameType_self u) ht
      · obtain ⟨s, hs, hsu⟩ := h.complete u hu
        refine ⟨s, mem_cons_of_mem t (mem_filter.mpr ⟨hs, ?_⟩), hsu⟩
        rw [Bool.not_eq_true', Bool.eq_false_iff]
        intro hst
        rw [sameType_iff] at hst hsu ht
        exact ht (hst.symm.trans hsu)
  case earliest =>
    rcases mem_cons.mp hs with rfl | hs
    · exact find?_cons_of_pos (sameType_self s)
    · rw [find?_cons_of_neg (by simp [(other hs).right])]
      exact h.earliest s (other hs).left
  case increasing =>
    have hi (s : List Token) (hs : sameType s t = false) :
        (t :: types).findIdx (sameType s) = types.findIdx (sameType s) + 1 := by
      rw [findIdx_cons, hs]
      rfl
    refine pairwise_cons.mpr ⟨fun s hs => ?_, ?_⟩
    · rw [hi s (other hs).right, findIdx_cons, sameType_self]
      exact Nat.succ_pos _
    · refine (h.increasing.filter _).imp_of_mem fun hs hu hlt => ?_
      rw [hi _ (other hs).right, hi _ (other hu).right]
      exact Nat.succ_lt_succ hlt

theorem firsts_distinct (types : List (List Token)) : Firsts types (distinct types) := by
  induction types
  case nil => exact ⟨nofun, nofun, .nil⟩
  case cons t types ih => exact ih.cons t

end Value

def SameTypes (members : List Member) : Prop :=
  members ≠ [] ∧ ∀ m ∈ members, ∀ n ∈ members, renderTokens m.type = renderTokens n.type

namespace Value

variable {members : List Member} {generics : Generics}

theorem all_sameType_iff {m : Member} {rest : List Member} :
    (rest.all fun n => sameType n.type m.type) = true ↔ SameTypes (m :: rest) := by
  simp only [all_eq_true, sameType_iff]
  constructor
  case mp =>
    intro h
    have hm : ∀ n ∈ m :: rest, renderTokens n.type = renderTokens m.type :=
      forall_mem_cons.mpr ⟨rfl, h⟩
    exact ⟨cons_ne_nil m rest, fun n hn k hk => (hm n hn).trans (hm k hk).symm⟩
  case mpr => exact fun h n hn => h.right n (mem_cons_of_mem m hn) m mem_cons_self

theorem of_sameTypes (generics : Generics) (h : SameTypes members) :
    ∃ m ∈ members.head?, Value.of members generics = .common m.type := by
  cases members
  case nil => exact absurd rfl h.left
  case cons m rest => exact ⟨m, rfl, by rw [Value.of, if_pos (all_sameType_iff.mpr h)]⟩

theorem of_not_sameTypes (h : ¬SameTypes members) : Value.of members generics =
    .erased (if generics.items = [] then [] else distinct (members.map (·.type))) := by
  cases members
  case nil =>
    rw [Value.of, map_nil, distinct, ite_self]
  case cons m rest =>
    rw [Value.of, if_neg (mt all_sameType_iff.mp h), Generics.isEmpty]
    simp only [List.isEmpty_iff]

end Value

-- `(&'static str, &type)`
def namedReference (type : List Token) : Token :=
  .enclosed .paren (Token.operator "&" ++ Token.lifetime "static" ++ [.word "str"] ++
    Token.operator "," ++ Token.operator "&" ++ type)

namespace Capability

def inputs : Capability → List Token
  | byIndex =>
    Token.operator "&" ++ [.word "self"] ++ Token.operator "," ++ [.word "index"] ++
      Token.operator ":" ++ [.word "usize"]
  | byName =>
    Token.operator "&" ++ [.word "self"] ++ Token.operator "," ++ [.word "name"] ++
      Token.operator ":" ++ Token.operator "&" ++ [.word "str"]
  | enumerate => Token.operator "&" ++ [.word "self"]

def output (type : List Token) : Capability → List Token
  | byIndex | byName => Token.operator "->" ++ Token.operator "&" ++ type
  | enumerate =>
    Token.operator "->" ++ [.word "impl"] ++ Method.globalPath ["core", "iter", "Iterator"] ++
      Token.operator "<" ++ [.word "Item"] ++ Token.operator "=" ++ [namedReference type] ++
      Token.operator ">" ++ Token.operator "+" ++ Token.lifetime "_"

-- The type that is given to the references in the body: only an array of them has one.
def annotation (type : List Token) (count : Nat) : Capability → List Token
  | byIndex | byName => []
  | enumerate =>
    [.word "let", .word "members"] ++ Token.operator ":" ++
      [.enclosed .bracket ([namedReference type] ++ Token.operator ";" ++ [.number count])]

-- The references that are handed out, as they are read in a body. In a match, the last arm has none.
def references? (body : List Token) : Capability → Option (List (List Token))
  | byIndex | byName => (Match.ofTokens? body).map fun m => m.arms.dropLast.map (·.result)
  | enumerate => (Enumeration.ofTokens? body).map fun e => e.pairs.map (·.2)

end Capability

-- An accessor hands out references of a type to some fields, with the same cast behind each of them.
-- Its signature ends with a where clause, which may be empty.
def HandsOut (fields type cast clause : List Token) (c : Capability) (ts : List Token) : Prop :=
  ∃ (lines : List String) (body rest : List Token),
    ts = lines.flatMap Method.documentationTokens ++
      [.word "pub", .word "fn", .word c.accessor, .enclosed .paren c.inputs] ++ c.output type ++
      clause ++ [.enclosed .brace body] ∧
    body = c.annotation type fields.length ++ rest ∧
    c.references? body = some (fields.map fun field =>
      Token.operator "&" ++ [.word "self"] ++ Token.operator "." ++ [field] ++ cast)

namespace Method

variable (owner : String) (members : List Member) (v : Value) (c : Capability)

theorem head_of : (of owner members c).head v =
    (of owner members c).documentation.flatMap documentationTokens ++
      [.word "pub", .word "fn", .word c.accessor, .enclosed .paren c.inputs] ++
      c.output v.type ++ v.clause := by
  cases c <;> simp [of, head, lookupHead, enumerateHead, pairType, namedReference,
    Capability.accessor, Capability.inputs, Capability.output]

theorem exists_body_of : ∃ rest,
    (of owner members c).body v = c.annotation v.type members.length ++ rest := by
  cases c
  case byIndex => exact ⟨_, rfl⟩
  case byName => exact ⟨_, rfl⟩
  case enumerate =>
    refine ⟨Token.operator "=" ++ [.enclosed .bracket (separate (Token.operator ",")
      (members.map fun m => [pair m.name m.access v]))] ++ Token.operator ";" ++
      globalPath ["core", "iter", "IntoIterator", "into_iter"] ++
      [.enclosed .paren [.word "members"]], ?_⟩
    simp [of, body, enumerateBody, pairType, namedReference, Capability.annotation,
      Function.comp_def]

theorem results_of_ofKeys {α : Type} {tokens fallback : List Token} {scrutinee : String}
    {entries : List (α × List Token)} {literal : α → Token}
    (h : Match.ofTokens? tokens = some (.ofKeys scrutinee entries fallback literal)) :
    ((Match.ofTokens? tokens).map fun m => m.arms.dropLast.map (·.result)) =
      some (entries.map (·.2)) := by
  simp [h, Match.ofKeys, Function.comp_def]

theorem references?_body_of : c.references? ((of owner members c).body v) =
    some (members.map fun m => v.reference m.access) := by
  cases c
  case byIndex =>
    have h := Match.ofTokens?_lookupBody Token.number (fun _ => rfl) "index" (outOfRange owner)
      (members.map fun m => (m.position, m.access)) v
    exact (results_of_ofKeys h).trans (by simp)
  case byName =>
    have h := Match.ofTokens?_lookupBody Token.string (fun _ => rfl) "name" (notNamed owner)
      (members.map fun m => (m.name, m.access)) v
    exact (results_of_ofKeys h).trans (by simp)
  case enumerate =>
    have h := Enumeration.ofTokens?_enumerateBody members.length
      (members.map fun m => (m.name, m.access)) v
    rw [Capability.references?, of, body, h, Option.map_some]
    simp

theorem handsOut_of : HandsOut (members.map (·.access.token)) v.type v.cast v.clause c
    ((of owner members c).tokens v) := by
  obtain ⟨rest, hb⟩ := exists_body_of owner members v c
  refine ⟨(of owner members c).documentation, _, rest, ?_, ?_,
    (references?_body_of owner members v c).trans ?_⟩
  · rw [tokens, head_of]
  · rw [hb, length_map]
  · simp [Value.reference_eq, Value.referenceTo]

end Method

structure Chosen (members : List Member) (generics : Generics) (type cast clause : List Token) :
    Prop where
  common : SameTypes members →
    (∃ m ∈ members.head?, type = m.type) ∧ cast = [] ∧ clause = []
  any : ¬SameTypes members →
    type = Value.anyType ∧ cast = [.word "as"] ++ Token.operator "&" ++ Value.anyType
  unbounded : ¬SameTypes members → generics.items = [] ∨ members = [] → clause = []
  bounded : ¬SameTypes members → generics.items ≠ [] → members ≠ [] →
    ∃ firsts, Value.Firsts (members.map (·.type)) firsts ∧
      clause = .word "where" :: separate (Token.operator ",") (firsts.map Value.bound)

theorem Value.chosen_of (members : List Member) (generics : Generics) :
    Chosen members generics (of members generics).type (of members generics).cast
      (of members generics).clause := by
  by_cases h : SameTypes members
  case pos =>
    obtain ⟨m, hm, hv⟩ := of_sameTypes generics h
    rw [hv]
    exact ⟨fun _ => ⟨⟨m, hm, rfl⟩, rfl, rfl⟩, fun hn => absurd h hn, fun hn => absurd h hn,
      fun hn => absurd h hn⟩
  case neg =>
    rw [of_not_sameTypes h]
    refine ⟨fun hs => absurd hs h, fun _ => ⟨rfl, rfl⟩, fun _ hn => ?unbounded,
      fun _ hg hm => ?bounded⟩
    case unbounded =>
      have he : (if generics.items = [] then [] else distinct (members.map (·.type))) = [] := by
        rcases hn with hg | rfl
        · exact if_pos hg
        · exact ite_self []
      rw [he]
      rfl
    case bounded =>
      have hf := firsts_distinct (members.map (·.type))
      refine ⟨_, hf, ?_⟩
      obtain ⟨m, rest, rfl⟩ := exists_cons_of_ne_nil hm
      rw [if_neg hg, map_cons, distinct]
      rfl

end Accessors
