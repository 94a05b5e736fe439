import GraphQLTree.Text.DecimalDigit
import GraphQLTree.Text.Padding

/-! # Fields

How a value is shown in a field: its alignment and what fills the field up, the sign of a number,
the width, the precision, and a letter for the form. Such a specification is a text, which is read
from left to right; all its parts can be left out. -/

namespace GraphQLTree.Text

/-- Where a value stands in its field. -/
inductive Placement
  | left
  | right
  | center
  /-- At the right, but with the sign at the left. -/
  | afterSign
  deriving DecidableEq, Repr

/-- The placement of a character. -/
def Placement.ofChar? : Char → Option Placement
  | '<' => some left
  | '>' => some right
  | '^' => some center
  | '=' => some afterSign
  | _ => none

/-- How a value is shown in a field. -/
structure FieldSpec where
  fill : Char
  placement : Placement
  sign? : Option Char
  /-- Whether a negative zero is shown as a positive one. -/
  plainZero : Bool
  /-- Whether the alternative form is used. -/
  alternative : Bool
  width : Nat
  /-- What stands between groups of digits. -/
  separator? : Option Char
  precision? : Option Nat
  code? : Option Char
  deriving Repr

namespace FieldSpec

/-- The largest number that a specification can have. -/
def largest : Nat := 0x7FFFFFFFFFFFFFFF

/-- The number at the start of a text, if there is one, and what follows it. -/
def scanNumber (s : List Char) : Except String (Option Nat × List Char) :=
  let digits := s.takeWhile isDecimalDigit
  let n := digitsValue digits
  if digits.isEmpty then .ok (none, s)
  else if largest < n then .error "Too many decimal digits in format string"
  else .ok (some n, s.drop digits.length)

/-- A character at the start of a text, if it is there, and what follows it. -/
def scanChar (is : Char → Bool) : List Char → Option Char × List Char
  | [] => (none, [])
  | c :: s => if is c then (some c, s) else (none, c :: s)

/-- The fill character and the placement at the start of a specification. -/
def scanPlacement : List Char → Option Char × Option Placement × List Char
  | [] => (none, none, [])
  | [c] =>
    match Placement.ofChar? c with
    | some p => (none, some p, [])
    | none => (none, none, [c])
  | c :: d :: s =>
    match Placement.ofChar? d, Placement.ofChar? c with
    | some p, _ => (some c, some p, s)
    | none, some p => (none, some p, d :: s)
    | none, none => (none, none, c :: d :: s)

/-- The separator of groups of digits at the start of a text. -/
def scanSeparator (s : List Char) : Except String (Option Char × List Char) := do
  let both := "Cannot specify both ',' and '_'."
  match s with
  | ',' :: '_' :: _ => throw both
  | '_' :: ',' :: _ => throw both
  | ',' :: s => return (some ',', s)
  | '_' :: s => return (some '_', s)
  | s => return (none, s)

/-- The precision at the start of a text. -/
def scanPrecision : List Char → Except String (Option Nat × List Char)
  | '.' :: s => do
    match ← scanNumber s with
    | (none, _) => throw "Format specifier missing precision"
    | found => return found
  | s => return (none, s)

/-- Checks that groups of digits can be separated in a form. -/
def checkSeparator (separator? : Option Char) (code? : Option Char) : Except String Unit :=
  match separator?, code? with
  | none, _ => .ok ()
  | some _, none => .ok ()
  | some separator, some code =>
    if "defgEG%F".contains code || (separator = '_' && "boxX".contains code) then .ok ()
    else .error ("Cannot specify '" ++ String.singleton separator ++ "' with '" ++
      String.singleton code ++ "'.")

/-- Reads a specification for values of a type; `code?` is the form that is used if there is no
letter. Numbers stand at the right and other values at the left. -/
def read (type : String) (isNumber : Bool) (code? : Option Char) (text : String) :
    Except String FieldSpec := do
  let (fill?, placement?, s) := scanPlacement text.toList
  let (sign?, s) := scanChar (fun c => c = ' ' || c = '+' || c = '-') s
  let (zero?, s) := scanChar (· = 'z') s
  let (alternative?, s) := scanChar (· = '#') s
  let (zeros?, s) := if fill?.isNone then scanChar (· = '0') s else (none, s)
  let (width?, s) ← scanNumber s
  let (separator?, s) ← scanSeparator s
  let (precision?, s) ← scanPrecision s
  let code? ← match s with
    | [] => pure code?
    | [c] => pure (some c)
    | _ =>
      throw ("Invalid format specifier '" ++ text ++ "' for object of type '" ++ type ++ "'")
  checkSeparator separator? code?
  let usual := if !isNumber then .left else if zeros?.isSome then .afterSign else .right
  return {
    fill := fill?.getD (if zeros?.isSome then '0' else ' ')
    placement := placement?.getD usual
    sign?
    plainZero := zero?.isSome
    alternative := alternative?.isSome
    width := width?.getD 0
    separator?
    precision?
    code? }

/-- The text that reports a form that a type does not have. -/
def unknownCode (type : String) (code : Char) : String :=
  "Unknown format code '" ++ String.singleton code ++ "' for object of type '" ++ type ++ "'"

/-! ### Texts -/

/-- A text in its field. -/
def showText (spec : FieldSpec) (s : List Char) : List Char :=
  let s := match spec.precision? with
    | some n => s.take n
    | none => s
  let missing := spec.width - s.length
  match spec.placement with
  | .left => padBy spec.fill 0 missing s
  | .center => padBy spec.fill (missing / 2) (missing - missing / 2) s
  | .right | .afterSign => padBy spec.fill missing 0 s

/-- What forbids a specification for a text. -/
def textFault? (spec : FieldSpec) : Option String :=
  if spec.code? ≠ some 's' then spec.code?.map (unknownCode "str")
  else if spec.sign? = some ' ' then some "Space not allowed in string format specifier"
  else if spec.sign?.isSome then some "Sign not allowed in string format specifier"
  else if spec.plainZero then
    some "Negative zero coercion (z) not allowed in string format specifier"
  else if spec.alternative then
    some "Alternate form (#) not allowed in string format specifier"
  else if spec.placement = .afterSign then
    some "'=' alignment not allowed in string format specifier"
  else none

/-! ### Numbers -/

/-- Digits in groups, from the last to the first, with zeros up to a width. The digits are given and
returned in reverse order. -/
def groupFrom (size : Nat) (separator : Char) : (fuel : Nat) → List Char → Int → List Char
  | 0, digits, _ => digits
  | fuel + 1, digits, width =>
    let count := min size (max (max (digits.length : Int) width) 1).toNat
    let group := digits.take count ++ List.replicate (count - digits.length) '0'
    let rest := digits.drop count
    let width := width - count
    if rest.isEmpty && width ≤ 0 then group
    else group ++ separator :: groupFrom size separator fuel rest (width - 1)

/-- The digits of a number in its field: the sign, a mark for the base, the digits in groups, and
what follows them. -/
def showNumber (spec : FieldSpec) (negative : Bool) (mark digits rest : List Char) : List Char :=
  let sign := if negative then ['-'] else
    match spec.sign? with
    | some '+' => ['+']
    | some ' ' => [' ']
    | _ => []
  let fixed := sign.length + mark.length + rest.length
  let zeros := spec.fill = '0' && spec.placement = .afterSign
  let width : Int := if zeros then (spec.width : Int) - fixed else 0
  let digits := match spec.separator?, digits with
    | _, [] => []
    | none, digits => digits
    | some separator, digits =>
      let size := if (spec.code?.map fun c => "boxX".contains c).getD false then 4 else 3
      (groupFrom size separator (digits.length + spec.width + 1) digits.reverse width).reverse
  let missing := spec.width - (fixed + digits.length)
  let shown := digits ++ rest
  let gap := List.replicate missing spec.fill
  match spec.placement with
  | .left => sign ++ mark ++ shown ++ gap
  | .right => gap ++ sign ++ mark ++ shown
  | .afterSign => sign ++ mark ++ gap ++ shown
  | .center => padBy spec.fill (missing / 2) (missing - missing / 2) (sign ++ mark ++ shown)

end FieldSpec
end GraphQLTree.Text
