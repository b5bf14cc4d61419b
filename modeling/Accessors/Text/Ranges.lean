namespace Accessors.Text

-- A set of characters, given by the first and the last code point of each of its runs.
abbrev Ranges := List (Nat × Nat)

def Ranges.contains (ranges : Ranges) (c : Char) : Bool :=
  ranges.any fun (first, last) => first ≤ c.toNat && c.toNat ≤ last

end Accessors.Text
