import Accessors.Candidate

namespace Accessors

-- A walk knows the names of the modules that it is in, outermost first, and what it has found.
structure Walk where
  modules : List String
  found : List Candidate

namespace Walk

def enter (w : Walk) (name : String) : Walk :=
  { w with modules := w.modules ++ [name] }

def leave (w : Walk) : Walk :=
  { w with modules := w.modules.dropLast }

def find (w : Walk) (cs : List Candidate) : Walk :=
  { w with found := w.found ++ cs }

def meet (w : Walk) (d : Declaration) : Walk :=
  if d.attributes.isEmpty then w else w.find [⟨w.modules, d⟩]

end Walk

mutual

def Item.scan : Item → StateM Walk Unit
  | .declaration d => modify (·.meet d)
  | .inline head items => do
    modify (·.enter head.name.name)
    Item.scanAll items
    modify (·.leave)
  | .outOfLine _ => pure ()
  | .code _ => pure ()
  | .verbatim _ => pure ()

def Item.scanAll : List Item → StateM Walk Unit
  | [] => pure ()
  | i :: rest => do
    i.scan
    Item.scanAll rest

end

def Module.scan (m : Module) : List Candidate :=
  match m.items with
  | some items => ((Item.scanAll items).run ⟨[m.head.name.name], []⟩).2.found
  | none => []

mutual

-- The candidates in an item that is inside of some modules, in the order in which they are written:
-- the declarations with an attribute, down through the modules that have their items in place.
def Item.candidates (modules : List String) : Item → List Candidate
  | .declaration d => if d.attributes.isEmpty then [] else [⟨modules, d⟩]
  | .inline head items => Item.candidatesOf (modules ++ [head.name.name]) items
  | .outOfLine _ => []
  | .code _ => []
  | .verbatim _ => []

def Item.candidatesOf (modules : List String) : List Item → List Candidate
  | [] => []
  | i :: rest => i.candidates modules ++ Item.candidatesOf modules rest

end

def Module.candidates (m : Module) : List Candidate :=
  m.item.candidates []

end Accessors
