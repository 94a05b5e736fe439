/-! # Spans of characters

A property of characters is given by a table: the spans of code points that have it, in rising
order, both ends included. The tables of this library follow version 14 of the Unicode standard. -/

namespace GraphQLTree.Text

/-- The spans of code points that have a property. -/
abbrev Spans := List (Nat × Nat)

/-- Whether a character lies in one of the spans. -/
def Spans.has (spans : Spans) (c : Char) : Bool :=
  spans.any fun span => span.1 ≤ c.toNat && c.toNat ≤ span.2

end GraphQLTree.Text
