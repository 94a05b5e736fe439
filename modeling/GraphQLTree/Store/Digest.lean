import GraphQLTree.Store.Basic

/-! # Digests of simple values

The digests of texts, bytes and numbers, and of all values that are not in the store. Numbers of
all types that are equal have the same digest; so have a text and bytes that are kept in the same
way, and an operation type and its name. -/

namespace GraphQLTree

/-- A character in `width` bytes, the lowest first. -/
def charBytes (width : Nat) (c : Char) : List Nat :=
  (List.range width).map fun i => c.toNat / Nat.pow 256 i % 256

/-- The bytes of a text: one, two or four for each character, as the widest one needs. -/
def textBytes (s : String) : List Nat :=
  let widest := s.toList.foldl (fun n c => max n c.toNat) 0
  let width := if widest < 0x100 then 1 else if widest < 0x10000 then 2 else 4
  s.toList.flatMap (charBytes width)

/-- The digest of bytes; no bytes at all have the digest of zero. -/
def bytesDigest (bs : List Nat) : Digest :=
  if bs.isEmpty then .atom (.number 0) else .atom (.bytes bs)

/-- The digest of a text. -/
def textDigest (s : String) : Digest :=
  bytesDigest (textBytes s)

/-- The digest of a number that is a digest itself: numbers of more than 64 bits are taken as
quantities. -/
def ownDigest (n : Int) : Digest :=
  if n.natAbs < Nat.pow 2 63 || n = -(Nat.pow 2 63 : Nat) then .atom (.number (avoidMinusOne n))
  else .atom (.number (Quantity.ofInt n).digest)

/-- The number that a digest is shown as: that of a number, and zero for all others. -/
def Digest.toInt : Digest → Int
  | atom (.number n) => n
  | _ => 0

namespace Value

/-- The real and the imaginary part of a number; truth values count as one and zero. -/
def quantities? : Value → Option (Quantity × Quantity)
  | bool b => some (.ofInt (if b then 1 else 0), .units 0)
  | int n => some (.ofInt n, .units 0)
  | float x _ => some (x.quantity, .units 0)
  | complex re im _ => some (re.quantity, im.quantity)
  | _ => none

/-- The whole number that a value is. -/
def whole? : Value → Option Int
  | int n => some n
  | bool b => some (if b then 1 else 0)
  | _ => none

/-- The digest of a floating-point number or a complex one. -/
def numberDigest (v : Value) (re im : Quantity) : Digest :=
  if re = .undefined || im = .undefined then .atom (.self v)
  else .atom (.number (combineDigests re.digest im.digest))

/-- The digest of a value that is not in the store. -/
def atomDigest (v : Value) : Digest :=
  match v with
  | null => .atom .null
  | bool b => .atom (.number (if b then 1 else 0))
  | int n => .atom (.number (Quantity.ofInt n).digest)
  | text t => textDigest t
  | float x _ => numberDigest v x.quantity (.units 0)
  | complex re im _ => numberDigest v re.quantity im.quantity
  | bytes bs => bytesDigest (bs.map UInt8.toNat)
  | operation op => textDigest op.name
  | skip => textDigest "SKIP"
  | v => .atom (.self v)

end Value
end GraphQLTree
