import Mathlib.Tactic.GCongr
import Accessors.Proofs.Rules

namespace Accessors

namespace Rule

attribute [refl] Below.rfl
attribute [gcongr] Below.bind Below.ite

variable {α β : Type}

inductive AllBelow : List (Rule Code) → List (Rule Code) → Prop
  | refl (ps : List (Rule Code)) : AllBelow ps ps
  | cons {p q : Rule Code} {ps qs : List (Rule Code)} (h : p.Below q) (hs : AllBelow ps qs) :
    AllBelow (p :: ps) (q :: qs)

attribute [refl] AllBelow.refl
attribute [gcongr] AllBelow.cons

def ChoiceBelow (x y : Ahead × Rule α) : Prop :=
  x.1 = y.1 ∧ x.2.Below y.2

@[gcongr]
theorem ChoiceBelow.mk {a : Ahead} {p q : Rule α} (h : p.Below q) : ChoiceBelow (a, p) (a, q) :=
  ⟨rfl, h⟩

inductive ChoicesBelow : List (Ahead × Rule α) → List (Ahead × Rule α) → Prop
  | refl (xs : List (Ahead × Rule α)) : ChoicesBelow xs xs
  | cons {x y : Ahead × Rule α} {xs ys : List (Ahead × Rule α)} (h : ChoiceBelow x y)
    (hs : ChoicesBelow xs ys) : ChoicesBelow (x :: xs) (y :: ys)

attribute [refl] ChoicesBelow.refl
attribute [gcongr] ChoicesBelow.cons

namespace Below

@[gcongr]
theorem cat {ps qs : List (Rule Code)} (h : AllBelow ps qs) : (cat ps).Below (cat qs) := by
  induction h
  case refl => exact .rfl
  case cons h _ ih => exact .bind h fun _ => .bind ih fun _ => .rfl

section Codes

variable {p q : Rule Code} (h : p.Below q)

include h

@[gcongr]
theorem maybe {a : Ahead} : (maybe a p).Below (maybe a q) := by
  unfold Rule.maybe
  gcongr

end Codes

variable {p q : Rule α} (h : p.Below q)

include h

@[gcongr]
theorem map {f : α → β} : (f <$> p).Below (f <$> q) := by
  rw [← bind_pure_comp, ← bind_pure_comp]
  gcongr

@[gcongr]
theorem verbatim : (verbatim p).Below (verbatim q) := by
  unfold Rule.verbatim
  gcongr

@[gcongr]
theorem asWritten : (asWritten p).Below (asWritten q) := by
  unfold Rule.asWritten
  gcongr

@[gcongr]
theorem lookAhead : (lookAhead p).Below (lookAhead q) := by
  unfold Rule.lookAhead
  gcongr

@[gcongr]
theorem inGroup {d : Delimiter} : (inGroup d p).Below (inGroup d q) := by
  rintro ts ⟨x, rest⟩ hp
  obtain ⟨o, c, body, hts, hp, hx⟩ := run_inGroup_eq_some.mp hp
  exact run_inGroup_eq_some.mpr ⟨o, c, body, hts, h _ _ hp, hx⟩

@[gcongr]
theorem inside {d : Delimiter} : (inside d p).Below (inside d q) := by
  unfold Rule.inside
  gcongr

@[gcongr]
theorem many {more : Ahead} : (many more p).Below (many more q) := by
  suffices hr : ∀ n, (many.rounds more p n).Below (many.rounds more q n) from
    .bind .rfl fun _ => hr _
  intro n
  induction n
  case zero => exact .rfl
  case succ n ih =>
    unfold many.rounds
    gcongr

@[gcongr]
theorem listed {closed : Bool} {stop : Ahead} {separator : String} :
    (listed closed stop separator p).Below (listed closed stop separator q) := by
  suffices hr : ∀ n, (listed.rounds closed stop separator p n).Below
      (listed.rounds closed stop separator q n) from
    .bind .rfl fun _ => hr _
  intro n
  induction n
  case zero => exact .rfl
  case succ n ih =>
    unfold listed.rounds
    gcongr

end Below

namespace Below

variable {p q : Rule Code} (h : p.Below q)

include h

@[gcongr]
theorem enclosed {d : Delimiter} : (enclosed d p).Below (enclosed d q) := by
  unfold Rule.enclosed
  gcongr

@[gcongr]
theorem manyCode {more : Ahead} : (manyCode more p).Below (manyCode more q) := by
  unfold Rule.manyCode
  gcongr

@[gcongr]
theorem listedCode {closed : Bool} {stop : Ahead} {separator : String} :
    (listedCode closed stop separator p).Below (listedCode closed stop separator q) := by
  unfold Rule.listedCode
  gcongr

@[gcongr]
theorem commaList : (commaList p).Below (commaList q) := by
  unfold Rule.commaList
  gcongr

end Below

end Rule

-- The second rules read all that the first ones read.
structure Rules.Below (rules rules' : Rules) : Prop where
  rule (n : Nonterminal) : (rules n).Below (rules' n)

namespace Grammar

open Rule

variable {self self' : Rules} (h : self.Below self')

include h

@[gcongr]
theorem below_typeCode : self.typeCode.Below self'.typeCode := by
  unfold Rules.typeCode
  gcongr
  exact h.rule _

@[gcongr]
theorem below_narrowType : self.narrowType.Below self'.narrowType := by
  unfold Rules.narrowType
  gcongr
  exact h.rule _

@[gcongr]
theorem below_boundCode : self.boundCode.Below self'.boundCode := by
  unfold Rules.boundCode
  gcongr
  exact h.rule _

@[gcongr]
theorem below_expressionCode : self.expressionCode.Below self'.expressionCode := by
  unfold Rules.expressionCode
  gcongr
  exact h.rule _

@[gcongr]
theorem below_patternCode : self.patternCode.Below self'.patternCode := by
  unfold Rules.patternCode
  gcongr
  exact h.rule _

@[gcongr]
theorem below_oneAttribute (inner : Bool) :
    (oneAttribute self inner).Below (oneAttribute self' inner) := by
  unfold oneAttribute attributeArguments attributeValue
  dsimp only
  gcongr

@[gcongr]
theorem below_outerAttributes : (outerAttributes self).Below (outerAttributes self') := by
  unfold outerAttributes
  gcongr

@[gcongr]
theorem below_outerAttributesCode :
    (outerAttributesCode self).Below (outerAttributesCode self') := by
  unfold outerAttributesCode
  gcongr

@[gcongr]
theorem below_innerAttributes : (innerAttributes self).Below (innerAttributes self') := by
  unfold innerAttributes
  gcongr

@[gcongr]
theorem below_block : (block self).Below (block self') := by
  unfold block
  gcongr
  exact h.rule _

@[gcongr]
theorem below_innerAttributesCode :
    (innerAttributesCode self).Below (innerAttributesCode self') := by
  unfold innerAttributesCode
  gcongr

@[gcongr]
theorem below_headed {head : Code} {p q : Rule Code} (hp : p.Below q) :
    (headed self head p).Below (headed self' head q) := by
  unfold headed
  dsimp only
  gcongr

@[gcongr]
theorem below_attributedBlock : (attributedBlock self).Below (attributedBlock self') := by
  unfold attributedBlock
  gcongr
  exact h.rule _

@[gcongr]
theorem below_constArgument : (constArgument self).Below (constArgument self') := by
  unfold constArgument
  gcongr

@[gcongr]
theorem below_angleArguments : (angleArguments self).Below (angleArguments self') := by
  unfold angleArguments genericArgument
  dsimp only
  gcongr
  exact h.rule _

@[gcongr]
theorem below_returnType (plus : Bool) : (returnType self plus).Below (returnType self' plus) := by
  unfold returnType
  gcongr
  exact h.rule _

@[gcongr]
theorem below_roundArguments : (roundArguments self).Below (roundArguments self') := by
  unfold roundArguments
  gcongr

@[gcongr]
theorem below_segment (expression : Bool) :
    (segment self expression).Below (segment self' expression) := by
  unfold segment
  dsimp only
  gcongr

@[gcongr]
theorem below_furtherSegments (expression : Bool) :
    (furtherSegments self expression).Below (furtherSegments self' expression) := by
  unfold furtherSegments
  gcongr

@[gcongr]
theorem below_route (expression : Bool) :
    (route self expression).Below (route self' expression) := by
  unfold route
  gcongr

@[gcongr]
theorem below_qualifiedRoute (expression : Bool) :
    (qualifiedRoute self expression).Below (qualifiedRoute self' expression) := by
  unfold qualifiedRoute
  gcongr

@[gcongr]
theorem below_typeRoute : (typeRoute self).Below (typeRoute self') := by
  suffices he : ∀ n r, (typeRoute.extend self n r).Below (typeRoute.extend self' n r) from
    .bind (below_qualifiedRoute h _) fun _ => .bind .rfl fun _ => he _ _
  intro n
  induction n
  case zero => exact fun _ => .rfl
  case succ n ih =>
    intro r
    unfold typeRoute.extend
    gcongr
    dsimp only
    gcongr
    all_goals exact ih _

@[gcongr]
theorem below_boundRoute : (boundRoute self).Below (boundRoute self') := by
  unfold boundRoute
  gcongr

omit h in
@[gcongr]
theorem below_optionalBounds {stop : Ahead} {p q : Rule Code} (hp : p.Below q) :
    (parameterBody.optionalBounds stop p).Below (parameterBody.optionalBounds stop q) := by
  unfold parameterBody.optionalBounds
  gcongr

@[gcongr]
theorem below_parameter (blank : Bool) :
    (parameter self blank).Below (parameter self' blank) := by
  unfold parameter parameterBody
  gcongr

@[gcongr]
theorem below_generics : (generics self).Below (generics self') := by
  unfold generics
  gcongr

@[gcongr]
theorem below_binder : (binder self).Below (binder self') := by
  unfold binder
  gcongr

@[gcongr]
theorem below_traitBound (conditional : Bool) :
    (traitBound self conditional).Below (traitBound self' conditional) := by
  unfold traitBound
  dsimp only
  gcongr

@[gcongr]
theorem below_bound (captures conditional : Bool) :
    (bound self captures conditional).Below (bound self' captures conditional) := by
  unfold bound
  dsimp only
  gcongr

@[gcongr]
theorem below_boundList (plus captures conditional : Bool) :
    (boundList self plus captures conditional).Below
      (boundList self' plus captures conditional) := by
  suffices hr : ∀ n, (boundList.rounds self plus captures conditional n).Below
      (boundList.rounds self' plus captures conditional n) from .bind .rfl fun _ => hr _
  intro n
  induction n
  case zero => exact .rfl
  case succ n ih =>
    unfold boundList.rounds
    gcongr
    exact h.rule _

@[gcongr]
theorem below_objectBounds (plus captures conditional : Bool) :
    (objectBounds self plus captures conditional).Below
      (objectBounds self' plus captures conditional) := by
  unfold objectBounds
  gcongr

@[gcongr]
theorem below_whereClause : (whereClause self).Below (whereClause self') := by
  unfold whereClause wherePredicate
  dsimp only
  gcongr

@[gcongr]
theorem below_whereCode : (whereCode self).Below (whereCode self') := by
  unfold whereCode
  gcongr

@[gcongr]
theorem below_returnCode (plus : Bool) : (returnCode self plus).Below (returnCode self' plus) := by
  unfold returnCode
  gcongr

@[gcongr]
theorem below_functionArguments : (functionArguments self).Below (functionArguments self') := by
  suffices hr : ∀ n first, (functionArguments.rounds self first n).Below
      (functionArguments.rounds self' first n) from .bind .rfl fun _ => hr _ _
  intro n
  induction n
  case zero => exact fun _ => .rfl
  case succ n ih =>
    intro first
    unfold functionArguments.rounds functionArgument
    dsimp only
    gcongr
    all_goals exact ih _

@[gcongr]
theorem below_furtherBounds : (furtherBounds self).Below (furtherBounds self') := by
  unfold furtherBounds
  gcongr
  exact h.rule _

@[gcongr]
theorem below_lifetimeObject : (lifetimeObject self).Below (lifetimeObject self') := by
  unfold lifetimeObject
  gcongr

@[gcongr]
theorem below_parenthesisedContent :
    (parenthesisedType.content self).Below (parenthesisedType.content self') := by
  unfold parenthesisedType.content
  dsimp only
  gcongr
  exact h.rule _

@[gcongr]
theorem below_parenthesisedType (plus : Bool) :
    (parenthesisedType self plus).Below (parenthesisedType self' plus) := by
  unfold parenthesisedType
  refine .bind (.inGroup (below_parenthesisedContent h)) ?_
  rintro ⟨⟨_, form⟩, _, _⟩
  cases form
  all_goals
    dsimp only
    gcongr

@[gcongr]
theorem below_pathType (plus : Bool) (lifetimes : Code) :
    (pathType self plus lifetimes).Below (pathType self' plus lifetimes) := by
  unfold pathType
  dsimp only
  gcongr

@[gcongr]
theorem below_type (plus : Bool) : (type self plus).Below (type self' plus) := by
  unfold type functionType objectType bracketedType
  dsimp only
  gcongr

@[gcongr]
theorem below_alternativesCode : (alternativesCode self).Below (alternativesCode self') := by
  unfold alternativesCode alternatives
  gcongr
  exact h.rule _

@[gcongr]
theorem below_rangeBound : (rangeBound self).Below (rangeBound self') := by
  unfold rangeBound
  gcongr

@[gcongr]
theorem below_rangeRest (start : Code) :
    (rangeRest self start).Below (rangeRest self' start) := by
  unfold rangeRest
  gcongr
  dsimp only
  gcongr

@[gcongr]
theorem below_fieldPattern : (fieldPattern self).Below (fieldPattern self') := by
  unfold fieldPattern
  dsimp only
  gcongr

@[gcongr]
theorem below_fieldPatterns : (fieldPatterns self).Below (fieldPatterns self') := by
  suffices hr : ∀ n, (fieldPatterns.rounds self n).Below (fieldPatterns.rounds self' n) from
    .bind .rfl fun _ => hr _
  intro n
  induction n
  case zero => exact .rfl
  case succ n ih =>
    unfold fieldPatterns.rounds
    gcongr

@[gcongr]
theorem below_pathPattern : (pathPattern self).Below (pathPattern self') := by
  unfold pathPattern
  gcongr

@[gcongr]
theorem below_sliceElement : (sliceElement self).Below (sliceElement self') := by
  unfold sliceElement alternatives
  gcongr
  exact h.rule _

@[gcongr]
theorem below_pattern : (pattern self).Below (pattern self') := by
  unfold pattern identPattern
  gcongr
  rename_i start
  cases start
  case none => rfl
  case some =>
    dsimp only
    gcongr

@[gcongr]
theorem below_rangeEnd (structs : Bool) :
    (rangeEnd self structs).Below (rangeEnd self' structs) := by
  unfold rangeEnd
  dsimp only
  gcongr
  all_goals exact h.rule _

@[gcongr]
theorem below_operators (structs : Bool) (base : Precedence) (left : Expression) :
    (operators self structs base left).Below (operators self' structs base left) := by
  suffices hr : ∀ n left, (operators.rounds self structs base n left).Below
      (operators.rounds self' structs base n left) from .bind .rfl fun _ => hr _ _
  intro n
  induction n
  case zero => exact fun _ => .rfl
  case succ n ih =>
    intro left
    unfold operators.rounds
    dsimp only
    gcongr
    rename_i ts
    rcases binaryOperator? ts with _ | ⟨s, precedence⟩
    all_goals
      dsimp only
      gcongr
      all_goals first | exact ih _ | exact h.rule _

@[gcongr]
theorem below_operand (structs : Bool) (precedence : Precedence) :
    (operand self structs precedence).Below (operand self' structs precedence) := by
  suffices hr : ∀ n right, (operand.rounds self structs precedence n right).Below
      (operand.rounds self' structs precedence n right) from
    .bind .rfl fun _ => .bind (h.rule _) fun _ => hr _ _
  intro n
  induction n
  case zero => exact fun _ => .rfl
  case succ n ih =>
    intro right
    unfold operand.rounds
    dsimp only
    gcongr
    exact ih _

@[gcongr]
theorem below_condition : (condition self).Below (condition self') := by
  unfold condition
  gcongr
  exact h.rule _

@[gcongr]
theorem below_conditional : (conditional self).Below (conditional self') := by
  suffices hr : ∀ n, (conditional.rounds self n).Below (conditional.rounds self' n) from
    .bind .rfl fun _ => hr _
  intro n
  induction n
  case zero => exact .rfl
  case succ n ih =>
    unfold conditional.rounds
    dsimp only
    gcongr

@[gcongr]
theorem below_whileLoop : (whileLoop self).Below (whileLoop self') := by
  unfold whileLoop
  gcongr
  exact h.rule _

@[gcongr]
theorem below_forLoop : (forLoop self).Below (forLoop self') := by
  unfold forLoop
  gcongr
  exact h.rule _

@[gcongr]
theorem below_endlessLoop : (endlessLoop self).Below (endlessLoop self') := by
  unfold endlessLoop
  gcongr

@[gcongr]
theorem below_choice : (choice self).Below (choice self') := by
  unfold choice matchArm
  dsimp only
  gcongr
  exact h.rule _

@[gcongr]
theorem below_labelled : (labelled self).Below (labelled self') := by
  unfold labelled
  dsimp only
  gcongr

@[gcongr]
theorem below_closure (structs : Bool) :
    (closure self structs).Below (closure self' structs) := by
  unfold closure closureArgument
  gcongr
  exact h.rule _

@[gcongr]
theorem below_fieldValues : (fieldValues self).Below (fieldValues self') := by
  suffices hr : ∀ n, (fieldValues.rounds self n).Below (fieldValues.rounds self' n) from
    .bind .rfl fun _ => hr _
  intro n
  induction n
  case zero => exact .rfl
  case succ n ih =>
    unfold fieldValues.rounds fieldValue
    dsimp only
    gcongr

@[gcongr]
theorem below_pathExpression (structs : Bool) :
    (pathExpression self structs).Below (pathExpression self' structs) := by
  unfold pathExpression
  dsimp only
  gcongr

@[gcongr]
theorem below_arrayContent : (arrayContent self).Below (arrayContent self') := by
  unfold arrayContent
  gcongr

@[gcongr]
theorem below_breakExpression (structs : Bool) :
    (breakExpression self structs).Below (breakExpression self' structs) := by
  unfold breakExpression
  dsimp only
  gcongr
  all_goals exact h.rule _

@[gcongr]
theorem below_letExpression (structs : Bool) :
    (letExpression self structs).Below (letExpression self' structs) := by
  unfold letExpression
  gcongr
  exact h.rule _

omit h in
@[gcongr]
theorem below_firstOf {α : Type} {xs ys : List (Ahead × Rule α)} {p q : Rule α}
    (hx : ChoicesBelow xs ys) (hp : p.Below q) :
    (firstOf xs p).Below (firstOf ys q) := by
  refine .bind .rfl fun ts => ?_
  induction hx
  case refl xs =>
    generalize List.find? _ xs = found
    cases found
    case none => exact hp
    case some => exact .rfl
  case cons x y xs ys h _ ih =>
    obtain ⟨a, p⟩ := x
    obtain ⟨b, q⟩ := y
    obtain ⟨rfl, h⟩ := h
    simp only [List.find?_cons]
    cases a ts
    case true => exact h
    case false => exact ih

@[gcongr]
theorem below_blockExpression {p q : Rule Expression} (hp : p.Below q) :
    (blockExpression self p).Below (blockExpression self' q) := by
  unfold blockExpression blockLike
  simp only [List.map]
  gcongr

@[gcongr]
theorem below_atom (structs : Bool) : (atom self structs).Below (atom self' structs) := by
  unfold atom
  gcongr

@[gcongr]
theorem below_named : (selection.named self).Below (selection.named self') := by
  unfold selection.named
  dsimp only
  gcongr

@[gcongr]
theorem below_selection : (selection self).Below (selection self') := by
  unfold selection
  gcongr
  rename_i ts
  rcases ts with _ | ⟨_ | _ | ⟨text, span⟩ | _, rest⟩
  case cons.literal =>
    dsimp only
    gcongr
    cases indexChain span (if text.endsWith "." then (text.dropEnd 1).toString else text)
    case none => exact .rfl
    case some =>
      dsimp only
      gcongr
  all_goals
    dsimp only
    gcongr

@[gcongr]
theorem below_trailers (start : Expression) :
    (trailers self start).Below (trailers self' start) := by
  suffices hr : ∀ n e, (trailers.rounds self n e).Below (trailers.rounds self' n e) from
    .bind .rfl fun _ => hr _ _
  intro n
  induction n
  case zero => exact fun _ => .rfl
  case succ n ih =>
    intro e
    unfold trailers.rounds
    gcongr
    all_goals exact ih _

@[gcongr]
theorem below_attributedAtom (structs : Bool) :
    (attributedAtom self structs).Below (attributedAtom self' structs) := by
  unfold attributedAtom
  gcongr

@[gcongr]
theorem below_unary (structs : Bool) : (unary self structs).Below (unary self' structs) := by
  unfold unary
  dsimp only
  gcongr
  all_goals exact h.rule _

@[gcongr]
theorem below_expression (structs : Bool) :
    (expression self structs).Below (expression self' structs) := by
  unfold expression
  gcongr
  exact h.rule _

@[gcongr]
theorem below_statementExpression :
    (statementExpression self).Below (statementExpression self') := by
  unfold statementExpression
  dsimp only
  gcongr
  exact h.rule _

@[gcongr]
theorem below_statementKind : (statementKind self).Below (statementKind self') := by
  unfold statementKind
  dsimp only
  gcongr

@[gcongr]
theorem below_bindingStatement : (bindingStatement self).Below (bindingStatement self') := by
  unfold bindingStatement
  dsimp only
  gcongr

@[gcongr]
theorem below_statement : (statement self).Below (statement self') := by
  unfold statement
  refine .bind (below_statementKind h) fun kind => ?_
  cases kind
  all_goals
    dsimp only
    gcongr
    all_goals exact h.rule _

@[gcongr]
theorem below_statements : (statements self).Below (statements self') := by
  suffices hr : ∀ n, (statements.rounds self n).Below (statements.rounds self' n) from
    .bind .rfl fun _ => hr _
  intro n
  induction n
  case zero => exact .rfl
  case succ n ih =>
    unfold statements.rounds
    dsimp only
    gcongr

@[gcongr]
theorem below_namedField : (namedField self).Below (namedField self') := by
  unfold namedField namedField.nested
  dsimp only
  gcongr

@[gcongr]
theorem below_tupleField : (tupleField self).Below (tupleField self') := by
  unfold tupleField
  gcongr

@[gcongr]
theorem below_namedFields : (namedFields self).Below (namedFields self') := by
  unfold namedFields
  gcongr

@[gcongr]
theorem below_tupleFields : (tupleFields self).Below (tupleFields self') := by
  unfold tupleFields
  gcongr

@[gcongr]
theorem below_variant : (variant self).Below (variant self') := by
  unfold variant
  dsimp only
  gcongr

@[gcongr]
theorem below_shape (kind : Kind) : (shape self kind).Below (shape self' kind) := by
  unfold shape structRest
  cases kind
  all_goals
    dsimp only
    gcongr

@[gcongr]
theorem below_declarationBody (attributes : List Attribute) :
    (declarationBody self attributes).Below (declarationBody self' attributes) := by
  unfold declarationBody
  gcongr

@[gcongr]
theorem below_genericsCode : (genericsCode self).Below (genericsCode self') := by
  unfold genericsCode
  gcongr

@[gcongr]
theorem below_constrained {p q : Rule Code} (hp : p.Below q) :
    (constrained self p).Below (constrained self' q) := by
  unfold constrained
  gcongr

@[gcongr]
theorem below_receiver : (receiver self).Below (receiver self') := by
  unfold receiver
  dsimp only
  gcongr

@[gcongr]
theorem below_constant : (constant self).Below (constant self') := by
  unfold constant
  dsimp only
  gcongr

@[gcongr]
theorem below_typeAlias (before after : Bool) :
    (typeAlias self before after).Below (typeAlias self' before after) := by
  unfold typeAlias
  dsimp only
  gcongr

omit h in
@[gcongr]
theorem below_orVerbatim {p q : Rule (Option Code)} (hp : p.Below q) :
    (orVerbatim p).Below (orVerbatim q) := by
  unfold orVerbatim
  gcongr

@[gcongr]
theorem below_useTree (crateRoot : Bool) :
    (useTree self crateRoot).Below (useTree self' crateRoot) := by
  unfold useTree
  dsimp only
  gcongr
  all_goals exact h.rule _

@[gcongr]
theorem below_moduleBody (attributes : List Attribute) :
    (moduleBody self attributes).Below (moduleBody self' attributes) := by
  unfold moduleBody
  dsimp only
  gcongr
  all_goals exact h.rule _

end Grammar

end Accessors
