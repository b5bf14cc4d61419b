import Accessors.Fragment.Basic
import Accessors.Marker.Resolution
import Accessors.Problem

namespace Accessors

namespace Registry

-- Whether a declaration that no module holds keeps an attribute, given all those that it has. Its
-- markers are out of reach, unless they belong to the derive macro.
def keeps (r : Registry) (as : List Attribute) (a : Attribute) : Bool :=
  derivesAccessors as || !r.isMarker a

def outOfReach? (r : Registry) (name : Ident) (as : List Attribute) : Option Problem :=
  if derivesAccessors as then none
  else (as.find? r.isMarker).map fun marker => .outOfReach name marker.span

mutual

-- Goes through all declarations in a piece of code. A declaration comes before those inside it, and
-- before those in the values of the attributes that it keeps.
def sweepPiece (r : Registry) : Piece → Piece × List Problem
  | .token t => (.token t, [])
  | .group d o c body =>
    let (body, problems) := sweep r body
    (.group d o c body, problems)
  | .attr a =>
    let (a, problems) := sweepAttribute r a
    (.attr a, problems)
  | .lifetimesFirst items trailing =>
    let (items, problems) := sweepItems r items
    (.lifetimesFirst items trailing, problems)
  | .constrained subject clause =>
    let (clause, first) := sweep r clause
    let (subject, second) := sweep r subject
    (.constrained subject clause, first ++ second)
  | .headed head o c inner body =>
    let (inner, first) := sweep r inner
    let (head, second) := sweep r head
    let (body, third) := sweep r body
    (.headed head o c inner body, first ++ second ++ third)
  | .declaration attributes head name body =>
    let first := (r.outOfReach? name attributes).toList
    let (kept, second) := sweepAttributes r (r.keeps attributes) attributes
    let (body, third) := sweep r body
    (.declaration kept head name body, first ++ second ++ third)

def sweep (r : Registry) : Code → Code × List Problem
  | [] => ([], [])
  | p :: rest =>
    let (p, first) := sweepPiece r p
    let (rest, second) := sweep r rest
    (p :: rest, first ++ second)

def sweepItems (r : Registry) : List (Bool × Code) → List (Bool × Code) × List Problem
  | [] => ([], [])
  | (isLifetime, c) :: rest =>
    let (c, first) := sweep r c
    let (rest, second) := sweepItems r rest
    ((isLifetime, c) :: rest, first ++ second)

def sweepAttribute (r : Registry) : Attribute → Attribute × List Problem
  | ⟨inner, hash, opened, closed, path, arguments⟩ =>
    let (arguments, problems) := sweepArguments r arguments
    (⟨inner, hash, opened, closed, path, arguments⟩, problems)

def sweepAttributes (r : Registry) (kept : Attribute → Bool) :
    List Attribute → List Attribute × List Problem
  | [] => ([], [])
  | a :: rest =>
    let (rest, second) := sweepAttributes r kept rest
    if kept a then
      let (a, first) := sweepAttribute r a
      (a :: rest, first ++ second)
    else (rest, second)

def sweepArguments (r : Registry) : Arguments → Arguments × List Problem
  | .absent => (.absent, [])
  | .list d o c body => (.list d o c body, [])
  | .value equals value =>
    let (value, problems) := sweep r value
    (.value equals value, problems)

end

def fragmentsIn (fragments : List Fragment) (modules : List String) : List Item :=
  (fragments.filter (·.modules = modules)).map fun f => .verbatim f.tokens

mutual

def weaveItem (r : Registry) (fragments : List Fragment) (modules : List String) :
    Item → Item × List Problem
  | .declaration d => (.declaration { d with attributes := r.strip d.attributes }, [])
  | .inline head items =>
    let (items, problems) := weaveItems r fragments (modules ++ [head.name.name]) items
    (.inline head (items ++ fragmentsIn fragments (modules ++ [head.name.name])), problems)
  | .outOfLine head => (.outOfLine head, [])
  | .code code =>
    let (code, problems) := r.sweep code
    (.code code, problems)
  | .verbatim tokens => (.verbatim tokens, [])

def weaveItems (r : Registry) (fragments : List Fragment) (modules : List String) :
    List Item → List Item × List Problem
  | [] => ([], [])
  | i :: rest =>
    let (i, first) := weaveItem r fragments modules i
    let (rest, second) := weaveItems r fragments modules rest
    (i :: rest, first ++ second)

end

def weave (r : Registry) (fragments : List Fragment) (m : Module) : Module × List Problem :=
  match m.items with
  | none => (m, [])
  | some items =>
    let (woven, problems) := weaveItems r fragments [m.head.name.name] items
    ({ m with items := some (woven ++ fragmentsIn fragments [m.head.name.name]) }, problems)

theorem weaveItems_eq_map (r : Registry) (fragments : List Fragment) (modules : List String)
    (is : List Item) :
    (r.weaveItems fragments modules is).1 =
      is.map fun i => (r.weaveItem fragments modules i).1 := by
  induction is
  case nil => rfl
  case cons i is ih => simp [weaveItems, ih]

theorem weave_item (r : Registry) (fragments : List Fragment) (m : Module) :
    (r.weave fragments m).1.item = (r.weaveItem fragments [] m.item).1 ∧
      (r.weave fragments m).2 = (r.weaveItem fragments [] m.item).2 := by
  obtain ⟨head, items⟩ := m
  cases items <;> exact ⟨rfl, rfl⟩

end Registry

end Accessors
