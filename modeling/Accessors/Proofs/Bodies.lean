import Accessors.Proofs.Arms

namespace Accessors

namespace Value

def cast : Value → List Token
  | common _ => []
  | erased _ => [.word "as"] ++ Token.operator "&" ++ anyType

def referenceTo (v : Value) (field : Token) : List Token :=
  Token.operator "&" ++ [.word "self"] ++ Token.operator "." ++ [field] ++ v.cast

theorem reference_eq (v : Value) (access : Access) :
    v.reference access = v.referenceTo access.token := by
  cases v
  case common => simp [reference, referenceTo, cast]
  case erased => simp [reference, referenceTo, cast]

theorem isComma_of_mem_reference {v : Value} {access : Access} :
    ∀ t ∈ v.reference access, t.isComma = false := by
  rw [reference_eq]
  cases v <;> cases access <;> simp [referenceTo, cast, Access.token, Token.operator, joinOperator,
    anyType, Token.word, Token.number, Token.isComma]

end Value

theorem mapM_map_eq_some {α β : Type} {f : α → β} {g : β → Option α} (h : ∀ x, g (f x) = some x)
    (xs : List α) : (xs.map f).mapM g = some xs := by
  induction xs
  case nil => rfl
  case cons x xs ih => rw [List.map_cons, List.mapM_cons, h, ih]; rfl

-- `pattern => result`
def Arm.tokens (arm : Arm) : List Token :=
  [arm.pattern] ++ Token.operator "=>" ++ arm.result

theorem Arm.ofTokens?_tokens (arm : Arm) : ofTokens? arm.tokens = some arm :=
  rfl

theorem Arm.isComma_of_mem_tokens {arm : Arm} (hp : arm.pattern.isComma = false)
    (hr : ∀ t ∈ arm.result, t.isComma = false) : ∀ t ∈ arm.tokens, t.isComma = false := by
  intro t ht
  rw [tokens, List.append_assoc, List.singleton_append, List.mem_cons, List.mem_append] at ht
  cases ht
  case inl ht => exact ht ▸ hp
  case inr ht =>
    cases ht
    case inl ht =>
      revert t
      decide
    case inr ht => exact hr t ht

theorem Method.isComma_of_mem_unreachable {message key : String} :
    ∀ t ∈ unreachable message key, t.isComma = false := by
  simp [unreachable, globalPath, Token.word, Token.operator, joinOperator, Token.enclosed,
    Token.isComma]

namespace Match

theorem ofTokens?_arms (key : String) {arms : List Arm}
    (h : ∀ arm ∈ arms, ∀ t ∈ arm.tokens, t.isComma = false) :
    ofTokens? [.word "match", .word key,
      .enclosed .brace (arms.flatMap fun arm => arm.tokens ++ Token.operator ",")] =
      some ⟨key, arms⟩ := by
  have hc : commaSeparated (arms.flatMap fun arm => arm.tokens ++ Token.operator ",") =
      arms.map Arm.tokens := by
    have := commaSeparated_terminated (List.forall_mem_map.mpr h) []
    simpa [List.flatMap_map, commaSeparated] using this
  have hm : (arms.map Arm.tokens).mapM Arm.ofTokens? = some arms :=
    mapM_map_eq_some Arm.ofTokens?_tokens arms
  simp [ofTokens?, Token.word, Token.enclosed, Ident.text, hc, hm]

theorem ofTokens?_lookupBody {α : Type} (literal : α → Token)
    (hl : ∀ x, (literal x).isComma = false) (key message : String)
    (entries : List (α × Access)) (v : Value) :
    ofTokens? (Method.lookupBody key message (entries.map fun (x, a) => (literal x, a)) v) =
      some (ofKeys key (entries.map fun (x, a) => (x, v.reference a))
        (Method.unreachable message key) literal) := by
  have h : ∀ arm ∈ (ofKeys key (entries.map fun (x, a) => (x, v.reference a))
      (Method.unreachable message key) literal).arms, ∀ t ∈ arm.tokens, t.isComma = false := by
    intro arm ha
    cases List.mem_append.mp ha
    case inl ha =>
      have ⟨_, he, ha⟩ := List.mem_map.mp ha
      have ⟨e, _, he⟩ := List.mem_map.mp he
      cases he
      cases ha
      exact Arm.isComma_of_mem_tokens (hl e.1) Value.isComma_of_mem_reference
    case inr ha =>
      rw [List.mem_singleton.mp ha]
      exact Arm.isComma_of_mem_tokens rfl Method.isComma_of_mem_unreachable
  have := ofTokens?_arms key h
  simpa [Method.lookupBody, ofKeys, Method.arm, Arm.tokens, List.flatMap_map] using this

end Match

-- What lists the fields: an array of pairs, and what is made of it.
structure Enumeration where
  array : String
  count : Nat
  pairs : List (String × List Token)
  result : List Token

namespace Enumeration

-- `("name", value)`
def pair? : List Token → Option (String × List Token)
  | [.group .paren _ _ (.literal name _ :: .punct ',' _ _ :: value)] =>
    (·, value) <$> Text.unquote? name
  | _ => none

-- `let array: [(…); count] = [pairs]; result`
def ofTokens? : List Token → Option Enumeration
  | .ident keyword :: .ident name :: .punct ':' _ _ ::
      .group .bracket _ _ [.group .paren _ _ _, .punct ';' _ _, .literal count _] ::
      .punct '=' _ _ :: .group .bracket _ _ elements :: .punct ';' _ _ :: result =>
    if keyword.text = "let" then do
      let count ← readNumber? count
      let pairs ← (commaSeparated elements).mapM pair?
      pure ⟨name.text, count, pairs, result⟩
    else none
  | _ => none

def pairTokens : String × List Token → List Token
  | (name, value) => [.enclosed .paren ([.string name] ++ Token.operator "," ++ value)]

theorem pair?_pairTokens (p : String × List Token) : pair? (pairTokens p) = some p := by
  simp [pair?, pairTokens, Token.enclosed, Token.string, Token.operator, joinOperator,
    Text.unquote?_quote]

theorem pairs_read (pairs : List (String × List Token)) :
    (commaSeparated (separate (Token.operator ",") (pairs.map pairTokens))).mapM pair? =
      some pairs := by
  have h : ∀ part ∈ pairs.map pairTokens, part ≠ [] ∧ ∀ t ∈ part, t.isComma = false := by
    intro part hp
    have ⟨_, _, hp⟩ := List.mem_map.mp hp
    cases hp
    refine ⟨List.cons_ne_nil _ _, ?_⟩
    intro t ht
    rw [List.mem_singleton.mp ht]
    rfl
  rw [commaSeparated_separate h]
  exact mapM_map_eq_some pair?_pairTokens pairs

theorem ofTokens?_enumerateBody (count : Nat) (pairs : List (String × Access)) (v : Value) :
    ofTokens? (Method.enumerateBody count pairs v) =
      some ⟨"members", count, pairs.map fun (name, a) => (name, v.reference a),
        Method.globalPath ["core", "iter", "IntoIterator", "into_iter"] ++
          [.enclosed .paren [.word "members"]]⟩ := by
  have hn : readNumber? count.repr = some count := readNumber?_toString count
  have hp : (commaSeparated (separate [.punct ',' .alone .unlocated]
      (pairs.map fun (name, a) => [Method.pair name a v]))).mapM pair? =
      some (pairs.map fun (name, a) => (name, v.reference a)) := by
    have := pairs_read (pairs.map fun (name, a) => (name, v.reference a))
    rwa [List.map_map] at this
  simp [ofTokens?, Method.enumerateBody, Method.pairType, Token.operator, joinOperator, Token.word,
    Token.enclosed, Token.number, Ident.text, hn, hp]

end Enumeration

end Accessors
