import GraphQLTree.Text.Quoted

/-! # Encodings

How the characters of a text are written as bytes. Not every text can be written in every encoding,
and not all bytes are those of a text: a fault tells where they are wrong and why. What is wrong can
also be left out, replaced or written in other words. Encodings with several bytes for a unit come
in both orders of bytes; a mark at the start can tell the order. -/

namespace GraphQLTree.Text

/-- A way to write characters as bytes. -/
inductive Encoding
  | utf8
  | ascii
  | latin1
  | utf16 (largestFirst : Bool)
  | utf32 (largestFirst : Bool)
  deriving DecidableEq, Repr

/-- A way to write texts as bytes. -/
structure Coding where
  encoding : Encoding
  /-- Whether a mark comes first. -/
  marked : Bool
  deriving DecidableEq, Repr

/-- What is wrong with a text or with bytes: the part from `start` to before `stop`. -/
structure CodingFault where
  start : Nat
  stop : Nat
  reason : String
  deriving Repr

/-- What is done with what is wrong. -/
inductive Remedy
  | refuse
  | leaveOut
  | replace
  /-- Writes the number of a character or a byte in base 16. -/
  | escape
  /-- Writes the number of a character in base 10. -/
  | refer
  deriving DecidableEq, Repr

/-- What stands for a character that cannot be written; none if it is refused. -/
def Remedy.forChar? (c : Char) : Remedy → Option (List Char)
  | .refuse => none
  | .leaveOut => some []
  | .replace => some ['?']
  | .escape => some (codeEscape c.toNat)
  | .refer => some ('&' :: '#' :: (toString c.toNat).toList ++ [';'])

/-- What stands for bytes that cannot be read; none if they are refused. -/
def Remedy.forBytes? (bs : List Nat) : Remedy → Option (List Char)
  | .refuse | .refer => none
  | .leaveOut => some []
  | .replace => some [Char.ofNat 0xFFFD]
  | .escape => some (bs.flatMap fun b => '\\' :: 'x' :: hexDigits 2 b)

namespace Encoding

/-- The name of an encoding in messages. -/
def name : Encoding → String
  | utf8 => "utf-8"
  | ascii => "ascii"
  | latin1 => "latin-1"
  | utf16 largestFirst => if largestFirst then "utf-16-be" else "utf-16-le"
  | utf32 largestFirst => if largestFirst then "utf-32-be" else "utf-32-le"

/-- The number of characters that an encoding can write. -/
def size : Encoding → Nat
  | ascii => 128
  | latin1 => 256
  | _ => 0x110000

/-- The reason why a character or a byte is wrong in an encoding with one byte for each. -/
def outside (e : Encoding) : String :=
  "ordinal not in range(" ++ toString e.size ++ ")"

/-! ### Writing -/

/-- The bytes of a unit that consists of several. -/
def unitBytes (largestFirst : Bool) (count n : Nat) : List UInt8 :=
  let bs := (List.range count).map fun i => UInt8.ofNat (n / Nat.pow 256 i % 256)
  if largestFirst then bs.reverse else bs

/-- The bytes of a character. -/
def encodeChar (e : Encoding) (c : Char) : List UInt8 :=
  let n := c.toNat
  match e with
  | utf8 => (String.singleton c).toUTF8.data.toList
  | ascii | latin1 => [UInt8.ofNat n]
  | utf16 largestFirst =>
    if n < 0x10000 then unitBytes largestFirst 2 n
    else
      unitBytes largestFirst 2 (0xD800 + (n - 0x10000) / 0x400) ++
        unitBytes largestFirst 2 (0xDC00 + (n - 0x10000) % 0x400)
  | utf32 largestFirst => unitBytes largestFirst 4 n

/-- The bytes of a text that starts at a place. -/
def encodeFrom (e : Encoding) (remedy : Remedy) (place : Nat) :
    List Char → Except CodingFault (List UInt8)
  | [] => .ok []
  | c :: rest => do
    if c.toNat < e.size then return e.encodeChar c ++ (← encodeFrom e remedy (place + 1) rest)
    else match remedy.forChar? c with
      | none =>
        let more := (rest.takeWhile fun d => e.size ≤ d.toNat).length
        throw ⟨place, place + 1 + more, e.outside⟩
      | some cs => return cs.flatMap e.encodeChar ++ (← encodeFrom e remedy (place + 1) rest)

/-! ### Reading -/

/-- The number of bytes that follow the first byte of a character, and between which bounds the
first of them lies. -/
def followers? (b : Nat) : Option (Nat × Nat × Nat) :=
  if 0xC2 ≤ b && b ≤ 0xDF then some (1, 0x80, 0xBF)
  else if b = 0xE0 then some (2, 0xA0, 0xBF)
  else if b = 0xED then some (2, 0x80, 0x9F)
  else if 0xE1 ≤ b && b ≤ 0xEF then some (2, 0x80, 0xBF)
  else if b = 0xF0 then some (3, 0x90, 0xBF)
  else if 0xF1 ≤ b && b ≤ 0xF3 then some (3, 0x80, 0xBF)
  else if b = 0xF4 then some (3, 0x80, 0x8F)
  else none

/-- How many of the first `count` bytes can follow the first byte of a character. -/
def followersAmong (low high : Nat) : (count : Nat) → List Nat → Nat
  | 0, _ => 0
  | _ + 1, [] => 0
  | count + 1, b :: rest =>
    if low ≤ b && b ≤ high then 1 + followersAmong 0x80 0xBF count rest else 0

/-- The first character of bytes in which characters have one to four bytes. -/
def firstOfUtf8 (b : Nat) (rest : List Nat) : Except (Nat × String) (Char × Nat) :=
  if b < 0x80 then .ok (Char.ofNat b, 0)
  else match followers? b with
    | none => .error (1, "invalid start byte")
    | some (count, low, high) =>
      let good := followersAmong low high count rest
      if good = count then
        let lead := b % (if count = 1 then 32 else if count = 2 then 16 else 8)
        .ok (Char.ofNat ((rest.take count).foldl (fun n b => 64 * n + b % 64) lead), count)
      else if good = rest.length then .error (1 + good, "unexpected end of data")
      else .error (1 + good, "invalid continuation byte")

/-- The number that bytes of a unit stand for. -/
def unitValue (largestFirst : Bool) (bs : List Nat) : Nat :=
  (if largestFirst then bs else bs.reverse).foldl (fun n b => 256 * n + b) 0

/-- The first character of bytes in which characters have one or two units of two bytes. -/
def firstOfUtf16 (largestFirst : Bool) (b : Nat) (rest : List Nat) :
    Except (Nat × String) (Char × Nat) :=
  let unit := unitValue largestFirst (b :: rest.take 1)
  if rest.isEmpty then .error (1, "truncated data")
  else if unit < 0xD800 || 0xDFFF < unit then .ok (Char.ofNat unit, 1)
  else if 0xDC00 ≤ unit then .error (2, "illegal encoding")
  else if rest.length < 3 then .error (1 + rest.length, "unexpected end of data")
  else
    let next := unitValue largestFirst ((rest.drop 1).take 2)
    if 0xDC00 ≤ next && next ≤ 0xDFFF then
      .ok (Char.ofNat (0x10000 + (unit - 0xD800) * 0x400 + (next - 0xDC00)), 3)
    else .error (2, "illegal UTF-16 surrogate")

/-- The first character of bytes in which characters have four bytes. -/
def firstOfUtf32 (largestFirst : Bool) (b : Nat) (rest : List Nat) :
    Except (Nat × String) (Char × Nat) :=
  let unit := unitValue largestFirst (b :: rest.take 3)
  if rest.length < 3 then .error (1 + rest.length, "truncated data")
  else if 0x110000 ≤ unit then .error (4, "code point not in range(0x110000)")
  else if 0xD800 ≤ unit && unit < 0xE000 then
    .error (4, "code point in surrogate code point range(0xd800, 0xe000)")
  else .ok (Char.ofNat unit, 3)

/-- The first character of bytes and the number of bytes behind the first one that it takes, or how
many of the bytes are wrong and why. -/
def firstChar (e : Encoding) (b : Nat) (rest : List Nat) : Except (Nat × String) (Char × Nat) :=
  match e with
  | utf8 => firstOfUtf8 b rest
  | utf16 largestFirst => firstOfUtf16 largestFirst b rest
  | utf32 largestFirst => firstOfUtf32 largestFirst b rest
  | e => if b < e.size then .ok (Char.ofNat b, 0) else .error (1, e.outside)

/-- The text of bytes that start at a place; `skip` of them were read already. -/
def decodeFrom (e : Encoding) (remedy : Remedy) : (place skip : Nat) → List Nat →
    Except CodingFault (List Char)
  | _, _, [] => .ok []
  | place, skip + 1, _ :: rest => decodeFrom e remedy (place + 1) skip rest
  | place, 0, b :: rest => do
    match e.firstChar b rest with
    | .ok (c, more) => return c :: (← decodeFrom e remedy (place + 1) more rest)
    | .error (size, reason) =>
      match remedy.forBytes? (b :: rest.take (size - 1)) with
      | none => throw ⟨place, place + size, reason⟩
      | some cs => return cs ++ (← decodeFrom e remedy (place + 1) (size - 1) rest)

end Encoding

namespace Coding

/-- The names under which ways to write texts are known. -/
def names : List (Coding × List String) :=
  [(⟨.utf8, false⟩, ["utf-8", "utf8", "u8", "utf", "cp65001"]),
   (⟨.utf8, true⟩, ["utf-8-sig"]),
   (⟨.ascii, false⟩, ["ascii", "us-ascii", "646"]),
   (⟨.latin1, false⟩,
    ["latin-1", "latin1", "latin", "iso-8859-1", "iso8859-1", "8859", "l1", "cp819"]),
   (⟨.utf16 false, true⟩, ["utf-16", "utf16", "u16"]),
   (⟨.utf16 false, false⟩, ["utf-16-le", "utf-16le"]),
   (⟨.utf16 true, false⟩, ["utf-16-be", "utf-16be"]),
   (⟨.utf32 false, true⟩, ["utf-32", "utf32", "u32"]),
   (⟨.utf32 false, false⟩, ["utf-32-le", "utf-32le"]),
   (⟨.utf32 true, false⟩, ["utf-32-be", "utf-32be"])]

/-- The way to write texts of a name; case and the kind of dashes do not matter. -/
def ofName? (name : String) : Option Coding :=
  let name := name.toLower.map fun c => if c = '_' || c = ' ' then '-' else c
  (names.find? fun (_, known) => known.contains name).map Prod.fst

/-- The character that marks the order of bytes. -/
def mark : Char := Char.ofNat 0xFEFF

/-- The bytes of a text. -/
def encode (c : Coding) (remedy : Remedy) (cs : List Char) : Except CodingFault (List UInt8) := do
  return (if c.marked then c.encoding.encodeChar mark else []) ++
    (← c.encoding.encodeFrom remedy 0 cs)

/-- The encoding of bytes by their mark, if there is one. -/
def markedEncoding? (c : Coding) (bs : List Nat) : Option Encoding :=
  let orders : List Encoding := match c.encoding with
    | .utf16 _ => [.utf16 false, .utf16 true]
    | .utf32 _ => [.utf32 false, .utf32 true]
    | e => [e]
  if c.marked then
    orders.find? fun e => ((e.encodeChar mark).map UInt8.toNat).isPrefixOf bs
  else none

/-- The encoding that bytes are read in. -/
def encodingFor (c : Coding) (bs : List Nat) : Encoding :=
  (c.markedEncoding? bs).getD c.encoding

/-- The bytes in which places are counted: if a unit has one byte, those behind a mark. -/
def counted (c : Coding) (bs : List Nat) : List Nat :=
  match c.markedEncoding? bs with
  | some .utf8 => bs.drop (Encoding.utf8.encodeChar mark).length
  | _ => bs

/-- The text of bytes. -/
def decode (c : Coding) (remedy : Remedy) (bs : List Nat) : Except CodingFault (List Char) :=
  match c.markedEncoding? bs with
  | none | some .utf8 => c.encoding.decodeFrom remedy 0 0 (c.counted bs)
  | some e =>
    let size := (e.encodeChar mark).length
    e.decodeFrom remedy size 0 (bs.drop size)

end Coding

/-- The part of a text or of bytes that is wrong, and why. -/
def CodingFault.place (fault : CodingFault) (one several : String) : String :=
  (if fault.stop - fault.start = 1 then one ++ " in position " ++ toString fault.start
   else several ++ " in position " ++ toString fault.start ++ "-" ++ toString (fault.stop - 1)) ++
    ": " ++ fault.reason

end GraphQLTree.Text
