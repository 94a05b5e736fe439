import GraphQLTree.Text.DecimalDigit

/-! # Versions

A version has three numbers, a release level and a serial number. It is written as
`major.minor.micro`, followed by the first letter of the level and the serial number unless the
level is `final`. Reading accepts decimal digits of any script and any lower-case word for the
level; the word is known by its first letter, and an unknown word stands for a final release. -/

namespace GraphQLTree

/-- A version. Its level is a text; reading gives `alpha`, `beta`, `candidate` or `final`. -/
structure Version where
  major : Int
  minor : Int
  micro : Int
  level : String
  serial : Int
  deriving DecidableEq, Repr

namespace Version

/-- The written form of a version. -/
def write (v : Version) : String :=
  let numbers := toString v.major ++ "." ++ toString v.minor ++ "." ++ toString v.micro
  if v.level = "final" then numbers
  else numbers ++ String.ofList (v.level.toList.take 1) ++ toString v.serial

/-- The release level meant by a word. -/
def levelOf : List Char → String
  | 'a' :: _ => "alpha"
  | 'b' :: _ => "beta"
  | 'c' :: _ => "candidate"
  | 'r' :: _ => "candidate"
  | _ => "final"

/-- The decimal digits at the start of a text, at least one, and what follows them. -/
def scanNumber? (s : List Char) : Option (List Char × List Char) :=
  match s.takeWhile Text.isDecimalDigit with
  | [] => none
  | digits => some (digits, s.dropWhile Text.isDecimalDigit)

/-- What follows a dot. -/
def readDot? : List Char → Option (List Char)
  | '.' :: s => some s
  | _ => none

/-- The end of a version: of the text, or of its last line. -/
def atEnd (s : List Char) : Bool :=
  s = [] || s = ['\n']

/-- The level and the digits of the serial number at the end of a version. A final release has no
serial number. -/
def scanSuffix? (s : List Char) : Option (String × List Char) :=
  if atEnd s then some ("final", [])
  else
    match s.takeWhile Char.isLower, scanNumber? (s.dropWhile Char.isLower) with
    | [], _ => none
    | _, none => none
    | word, some (serial, rest) =>
      if atEnd rest then
        let level := levelOf word
        some (level, if level = "final" then [] else serial)
      else none

/-- The parts of a version as they are written: its numbers by their digits. -/
structure Parts where
  major : List Char
  minor : List Char
  micro : List Char
  level : String
  serial : List Char
  deriving DecidableEq, Repr

/-- The parts of the version written by a text. -/
def scan? (s : String) : Option Parts := do
  let (major, s) ← scanNumber? s.toList
  let s ← readDot? s
  let (minor, s) ← scanNumber? s
  let s ← readDot? s
  let (micro, s) ← scanNumber? s
  let (level, serial) ← scanSuffix? s
  return ⟨major, minor, micro, level, serial⟩

/-- The version with the given parts. -/
def Parts.version (p : Parts) : Version :=
  ⟨Text.digitsValue p.major, Text.digitsValue p.minor, Text.digitsValue p.micro, p.level,
    Text.digitsValue p.serial⟩

/-- The version written by a text. -/
def read? (s : String) : Option Version :=
  (scan? s).map Parts.version

/-- How many digits a number may have to be read. -/
def digitLimit : Nat := 4300

/-- The size of the first number that has too many digits. -/
def Parts.tooLong? (p : Parts) : Option Nat :=
  ([p.major, p.minor, p.micro, p.serial].map List.length).find? (digitLimit < ·)

/-- The version of this library. -/
def current : Version := ⟨1, 0, 0, "final", 0⟩

end Version
end GraphQLTree
