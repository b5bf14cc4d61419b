import Accessors.Fragment.Basic
import Accessors.Proofs.Commas

namespace Accessors

open List

def Ident.unlocated (i : Ident) : Ident :=
  { i with span := .unlocated }

mutual

def Token.unlocated : Token → Token
  | .ident i => .ident i.unlocated
  | .punct c spacing _ => .punct c spacing .unlocated
  | .literal text _ => .literal text .unlocated
  | .group d _ _ body => .group d .unlocated .unlocated (unlocatedAll body)

def unlocatedAll : List Token → List Token
  | [] => []
  | t :: rest => t.unlocated :: unlocatedAll rest

end

theorem unlocatedAll_eq_map (ts : List Token) : unlocatedAll ts = ts.map Token.unlocated := by
  induction ts
  case nil => rfl
  case cons t ts ih => rw [unlocatedAll, map_cons, ih]

theorem Token.gap_unlocated (t : Token) : t.unlocated.gap = t.gap := by
  cases t
  case punct c spacing span => cases spacing <;> rfl
  all_goals rfl

mutual

theorem Token.render_unlocated : ∀ t : Token, t.unlocated.render = t.render
  | .ident _ | .punct _ _ _ | .literal _ _ => rfl
  | .group d _ _ body => by
    have ih := renderTokens_unlocatedAll body
    rw [Token.unlocated, Token.render, Token.render, ih]

theorem renderTokens_unlocatedAll : ∀ ts : List Token,
    renderTokens (unlocatedAll ts) = renderTokens ts
  | [] => rfl
  | t :: rest => by
    have ih₁ := t.render_unlocated
    have ih₂ := renderTokens_unlocatedAll rest
    rw [unlocatedAll, renderTokens, renderTokens, ih₁, ih₂, t.gap_unlocated, unlocatedAll_eq_map,
      isEmpty_map]

end

theorem renderTokens_map_unlocated (ts : List Token) :
    renderTokens (ts.map Token.unlocated) = renderTokens ts := by
  rw [← unlocatedAll_eq_map, renderTokens_unlocatedAll]

theorem renderTokens_eq_of_map_unlocated {ts us : List Token}
    (h : ts.map Token.unlocated = us.map Token.unlocated) : renderTokens ts = renderTokens us := by
  rw [← renderTokens_map_unlocated, h, renderTokens_map_unlocated]

namespace Token

@[simp]
theorem unlocated_word (name : String) : (word name).unlocated = word name :=
  rfl

@[simp]
theorem unlocated_number (n : Nat) : (number n).unlocated = number n :=
  rfl

@[simp]
theorem unlocated_string (text : String) : (string text).unlocated = string text :=
  rfl

@[simp]
theorem unlocated_ident (i : Ident) : (ident i).unlocated = ident i.unlocated :=
  rfl

@[simp]
theorem unlocated_enclosed (d : Delimiter) (body : List Token) :
    (enclosed d body).unlocated = enclosed d (body.map unlocated) := by
  rw [enclosed, unlocated, unlocatedAll_eq_map, enclosed]

@[simp]
theorem map_unlocated_lifetime (name : String) : (lifetime name).map unlocated = lifetime name :=
  rfl

@[simp]
theorem map_unlocated_operator (s : String) : (operator s).map unlocated = operator s := by
  rw [operator]
  fun_induction joinOperator s.toList
  case case1 => rfl
  case case2 => rfl
  case case3 ih => rw [map_cons, ih]; rfl

end Token

theorem map_separate (f : Token → Token) (separator : List Token) (parts : List (List Token)) :
    (separate separator parts).map f = separate (separator.map f) (parts.map (map f)) := by
  fun_induction separate separator parts
  case case1 => rfl
  case case2 => rfl
  case case3 ts rest hr ih =>
    obtain ⟨us, rest, rfl⟩ := exists_cons_of_ne_nil hr
    rw [map_append, map_append, ih]
    rfl

theorem map_unlocated_withCommas (parts : List (List Token)) (trailing : Bool) :
    (withCommas parts trailing).map Token.unlocated =
      withCommas (parts.map (map Token.unlocated)) trailing := by
  rw [withCommas, withCommas, map_append, map_separate, Token.map_unlocated_operator]
  cases trailing <;> simp

def Path.unlocated (p : Path) : Path :=
  { p with segments := p.segments.map Ident.unlocated }

theorem Path.tokens_unlocated (p : Path) : p.unlocated.tokens = p.tokens.map Token.unlocated := by
  rw [Path.tokens, Path.tokens, map_append, map_separate, Token.map_unlocated_operator]
  cases hg : p.global <;> simp [Path.unlocated, hg, Function.comp_def]

-- The value of an attribute is kept as it is written.
def Arguments.unlocated : Arguments → Arguments
  | absent => .absent
  | list d _ _ body => .list d .unlocated .unlocated (body.map Token.unlocated)
  | value _ c => .value .unlocated (Code.ofTokens ((Code.tokens c).map Token.unlocated))

theorem Arguments.tokens_unlocated (a : Arguments) :
    a.unlocated.tokens = a.tokens.map Token.unlocated := by
  cases a
  case absent => rfl
  case list d _ _ body => exact congrArg ([·]) (Token.unlocated_enclosed d body).symm
  case value e c =>
    rw [unlocated, tokens, tokens, Code.tokens_ofTokens, map_cons]
    rfl

def Attribute.unlocated (a : Attribute) : Attribute :=
  ⟨a.inner, .unlocated, .unlocated, .unlocated, a.path.unlocated, a.arguments.unlocated⟩

theorem Attribute.tokens_unlocated (a : Attribute) :
    a.unlocated.tokens = a.tokens.map Token.unlocated := by
  rw [tokens_eq, tokens_eq, map_append, map_append]
  cases hi : a.inner <;>
    simp [Attribute.unlocated, hi, Path.tokens_unlocated, Arguments.tokens_unlocated,
      Token.unlocated, unlocatedAll_eq_map]

def Parameter.unlocated (p : Parameter) : Parameter where
  lifetime := p.lifetime
  attributes := p.attributes.map Attribute.unlocated
  introducer := p.introducer.map Token.unlocated
  name := p.name.map Token.unlocated
  bound := .ofTokens (p.bound.tokens.map Token.unlocated)
  default := .ofTokens (p.default.tokens.map Token.unlocated)

theorem Parameter.introduced_unlocated (p : Parameter) :
    p.unlocated.introduced.tokens = p.introduced.tokens.map Token.unlocated := by
  simp [introduced, unlocated, Code.tokens_append, Code.tokens_ofTokens, Attribute.tokens_code,
    map_flatMap, flatMap_map, Attribute.tokens_unlocated]

theorem Parameter.argument_unlocated (p : Parameter) :
    p.unlocated.argument.tokens = p.argument.tokens.map Token.unlocated := by
  rw [argument, argument, Code.tokens_ofTokens, Code.tokens_ofTokens]
  rfl

def Generics.unlocated (g : Generics) : Generics :=
  ⟨g.items.map Parameter.unlocated, g.trailing⟩

theorem Listed.writeLifetimesFirst_unlocated (l : Listed (Bool × List Token)) :
    writeLifetimesFirst ⟨l.items.map (Prod.map id (map Token.unlocated)), l.trailing⟩ =
      l.writeLifetimesFirst.map Token.unlocated := by
  have hl (ms : List ((Bool × List Token) × Bool)) :
      lifetimesFirst (ms.map (Prod.map (Prod.map id (map Token.unlocated)) id)) =
        (lifetimesFirst ms).map (Prod.map (Prod.map id (map Token.unlocated)) id) := by
    rw [lifetimesFirst, lifetimesFirst, filter_map, filter_map, map_append]
    rfl
  rw [writeLifetimesFirst_eq, writeLifetimesFirst_eq, marked_map, hl, map_unlocated_withCommas]
  simp [Option.any_map, Function.comp_def]

theorem Generics.write_unlocated {f : Parameter → Code}
    (hf : ∀ p, (f p.unlocated).tokens = (f p).tokens.map Token.unlocated) (g : Generics) :
    (g.unlocated.write f).tokens = (g.write f).tokens.map Token.unlocated := by
  by_cases hg : g.items = []
  case pos =>
    have he : g.isEmpty = true := isEmpty_iff.mpr hg
    have hu : g.unlocated.isEmpty = true := by rw [isEmpty, unlocated, hg]; rfl
    rw [write, write, if_pos he, if_pos hu]
    rfl
  case neg =>
    have hu : g.unlocated.items ≠ [] := by simpa [unlocated] using hg
    have hw := Listed.writeLifetimesFirst_unlocated
      ⟨g.items.map fun p => (p.lifetime, (f p).tokens), g.trailing⟩
    have hi : g.unlocated.items.map (fun p => (p.lifetime, (f p).tokens)) =
        (g.items.map fun p => (p.lifetime, (f p).tokens)).map
          (Prod.map id (map Token.unlocated)) := by
      rw [unlocated, map_map, map_map]
      exact map_congr_left fun p _ => congrArg (Prod.mk p.lifetime) (hf p)
    rw [tokens_write hg, tokens_write hu, hi, map_append, map_append, ← hw,
      Token.map_unlocated_operator, Token.map_unlocated_operator]
    rfl

def Access.unlocated : Access → Access
  | named name => .named name.unlocated
  | indexed index => .indexed index

@[simp]
theorem Access.token_unlocated (a : Access) : a.token.unlocated = a.unlocated.token := by
  cases a <;> rfl

def Member.unlocated (m : Member) : Member :=
  { m with access := m.access.unlocated, type := m.type.map Token.unlocated }

namespace Value

def unlocated : Value → Value
  | common type => common (type.map Token.unlocated)
  | erased types => erased (types.map (map Token.unlocated))

theorem sameType_unlocated (s t : List Token) :
    sameType (s.map Token.unlocated) (t.map Token.unlocated) = sameType s t := by
  rw [sameType, renderTokens_map_unlocated, renderTokens_map_unlocated, sameType]

theorem distinct_unlocated (types : List (List Token)) :
    distinct (types.map (map Token.unlocated)) = (distinct types).map (map Token.unlocated) := by
  induction types
  case nil => rfl
  case cons t types ih =>
    rw [map_cons, distinct, distinct, ih, filter_map, map_cons]
    simp only [Function.comp_def, sameType_unlocated]

theorem of_unlocated (members : List Member) (g : Generics) :
    of (members.map Member.unlocated) g.unlocated = (of members g).unlocated := by
  cases members
  case nil => rfl
  case cons m rest =>
    have he : g.unlocated.isEmpty = g.isEmpty := isEmpty_map
    have ha : ((rest.map Member.unlocated).all fun n => sameType n.type m.unlocated.type) =
        rest.all fun n => sameType n.type m.type := by
      rw [all_map]
      simp only [Function.comp_def, Member.unlocated, sameType_unlocated]
    have ht : ((m :: rest).map Member.unlocated).map (·.type) =
        ((m :: rest).map (·.type)).map (map Token.unlocated) := by
      simp [Member.unlocated]
    rw [of, map_cons, of, ha, he, ← map_cons, ht, distinct_unlocated]
    split
    case isTrue => rfl
    case isFalse => cases g.isEmpty <;> rfl

theorem map_unlocated_anyType : anyType.map Token.unlocated = anyType := by
  simp [anyType]

variable (v : Value)

@[simp]
theorem type_unlocated : v.unlocated.type = v.type.map Token.unlocated := by
  cases v
  case common => rfl
  case erased => exact map_unlocated_anyType.symm

@[simp]
theorem reference_unlocated (a : Access) :
    v.unlocated.reference a.unlocated = (v.reference a).map Token.unlocated := by
  cases v <;> simp [reference, unlocated, map_unlocated_anyType]

@[simp]
theorem clause_unlocated : v.unlocated.clause = v.clause.map Token.unlocated := by
  cases v
  case common => rfl
  case erased types =>
    cases types
    case nil => rfl
    case cons t types =>
      simp [clause, unlocated, map_separate, bound, Function.comp_def]

end Value

namespace Method

@[simp]
theorem map_unlocated_globalPath (names : List String) :
    (globalPath names).map Token.unlocated = globalPath names := by
  simp [globalPath, map_flatMap]

theorem documentationTokens_unlocated (line : String) :
    (documentationTokens line).map Token.unlocated = documentationTokens line := by
  simp [documentationTokens, Token.unlocated]

variable (owner : String) (members : List Member) (v : Value) (c : Capability)

theorem head_unlocated : (of owner (members.map Member.unlocated) c).head v.unlocated =
    ((of owner members c).head v).map Token.unlocated := by
  cases c <;>
    simp [of, head, documentation, documentationTokens_unlocated, lookupHead, enumerateHead,
      pairType]

theorem lookupBody_unlocated (key message : String) (arms : List (Token × Access)) :
    (lookupBody key message arms v).map Token.unlocated =
      lookupBody key message (arms.map (Prod.map Token.unlocated Access.unlocated)) v.unlocated := by
  simp [lookupBody, arm, unreachable, map_flatMap, flatMap_map]

theorem enumerateBody_unlocated (count : Nat) (pairs : List (String × Access)) :
    (enumerateBody count pairs v).map Token.unlocated =
      enumerateBody count (pairs.map (Prod.map id Access.unlocated)) v.unlocated := by
  simp [enumerateBody, pairType, pair, map_separate, Function.comp_def]

theorem body_unlocated : (of owner (members.map Member.unlocated) c).body v.unlocated =
    ((of owner members c).body v).map Token.unlocated := by
  cases c <;>
    simp [of, body, lookupBody_unlocated, enumerateBody_unlocated, Function.comp_def,
      Member.unlocated]

theorem tokens_unlocated : (of owner (members.map Member.unlocated) c).tokens v.unlocated =
    ((of owner members c).tokens v).map Token.unlocated := by
  rw [tokens, tokens, head_unlocated, body_unlocated]
  simp

end Method

end Accessors
