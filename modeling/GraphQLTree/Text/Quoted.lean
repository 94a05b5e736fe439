import GraphQLTree.Text.Printable

/-! # Quoted text

Text is quoted with apostrophes, or with double quotes if it holds an apostrophe and no double
quote. The quote itself and the backslash are escaped, so are line ends and tabs, and every
character that is not printable is written by its code point in two, four or eight hexadecimal
digits. -/

namespace GraphQLTree.Text

def apostrophe : Char := '\x27'
def doubleQuote : Char := '\x22'

/-- The quote chosen for a text. -/
def quoteFor (s : List Char) : Char :=
  if s.contains apostrophe && !s.contains doubleQuote then doubleQuote else apostrophe

/-- The `width` last hexadecimal digits of a number. -/
def hexDigits (width n : Nat) : List Char :=
  match width with
  | 0 => []
  | width + 1 => hexDigits width (n / 16) ++ [Nat.digitChar (n % 16)]

/-- Escapes with a letter of their own. -/
def letterEscape? (c : Char) : Option Char :=
  if c = '\n' then some 'n' else if c = '\r' then some 'r' else if c = '\t' then some 't' else none

/-- An escape by code point, as short as the code point allows. -/
def codeEscape (n : Nat) : List Char :=
  if n < 0x100 then '\\' :: 'x' :: hexDigits 2 n
  else if n < 0x10000 then '\\' :: 'u' :: hexDigits 4 n
  else '\\' :: 'U' :: hexDigits 8 n

/-- A character inside text quoted by `quote`. -/
def escapeChar (quote c : Char) : List Char :=
  if c = quote || c = '\\' then ['\\', c]
  else match letterEscape? c with
    | some letter => ['\\', letter]
    | none => if isPrintable c then [c] else codeEscape c.toNat

/-- The quoted form of a text. -/
def quoteChars (s : List Char) : List Char :=
  let quote := quoteFor s
  quote :: s.flatMap (escapeChar quote) ++ [quote]

/-- The quoted form of a text. -/
def quote (s : String) : String :=
  String.ofList (quoteChars s.toList)

/-! ### Bytes

Bytes are quoted like text of ASCII characters, after the letter `b`. -/

/-- Whether a byte is escaped by its number: it is no visible ASCII character and no space. -/
def isRawByte (c : Char) : Bool :=
  c.toNat < 0x20 || 0x7F ≤ c.toNat

/-- A byte inside bytes in which the characters `marks` are escaped by a backslash. -/
def escapeByte (marks : List Char) (c : Char) : List Char :=
  if marks.contains c then ['\\', c]
  else match letterEscape? c with
    | some letter => ['\\', letter]
    | none => if isRawByte c then codeEscape c.toNat else [c]

/-- The quoted form of bytes. -/
def quoteBytes (bytes : List UInt8) : String :=
  let s := bytes.map fun b => Char.ofNat b.toNat
  let quote := quoteFor s
  String.ofList ('b' :: quote :: s.flatMap (escapeByte [quote, '\\']) ++ [quote])

/-- The quoted form of a buffer of bytes, in which the apostrophe is escaped whatever the quote. -/
def quoteBuffer (bytes : List UInt8) : String :=
  let s := bytes.map fun b => Char.ofNat b.toNat
  let quote := quoteFor s
  "bytearray(" ++
    String.ofList ('b' :: quote :: s.flatMap (escapeByte [apostrophe, '\\']) ++ [quote]) ++ ")"

end GraphQLTree.Text
