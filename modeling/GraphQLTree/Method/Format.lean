import GraphQLTree.Method.Number
import GraphQLTree.Method.Text
import GraphQLTree.Number.Display
import GraphQLTree.Text.Template

/-! # Formatting

Values are shown in fields, by templates with braces, and by templates with percent signs. Numbers
and texts know how they are shown by a specification; other values are shown by their texts and take
no specification. -/

namespace GraphQLTree.Action

/-- The outcome of reading a specification or a template; what is wrong is a bad value. -/
def orBadValue {α : Type} : Except String α → Action α
  | .ok a => return a
  | .error text => fail (.other .badValue text)

/-- The written form of a value in ASCII. -/
def asciiForm (v : Value) : Action String := do
  return String.ofList ((← written v).toList.flatMap fun c =>
    if c.toNat < 128 then [c] else Text.codeEscape c.toNat)

/-! ### Fields -/

/-- How a number is shown for a letter: the style, whether in capitals, whether in hundredths. -/
def styleOf? : Char → Option (Double.Style × Bool × Bool)
  | 'e' => some (.exponent, false, false)
  | 'E' => some (.exponent, true, false)
  | 'f' => some (.fixed, false, false)
  | 'F' => some (.fixed, true, false)
  | 'g' | 'n' => some (.general, false, false)
  | 'G' => some (.general, true, false)
  | '%' => some (.fixed, false, true)
  | _ => none

/-- Letters in capitals, if it is asked for. -/
def inCapitals (capitals : Bool) (cs : List Char) : List Char :=
  if capitals then cs.map Char.toUpper else cs

/-- A floating-point number in a field. -/
def showReal (type : String) (spec : Text.FieldSpec) (x : Double) : Action String := do
  let plain := if spec.precision?.isSome then Double.Style.general else .shortest
  let (style, capitals, percent) ← match spec.code? with
    | none => pure (plain, false, false)
    | some code =>
      match styleOf? code with
      | some found => pure found
      | none => fail (.other .badValue (Text.FieldSpec.unknownCode type code))
  let x := if percent then x.mul (.ofInt 100) else x
  let body := x.writeSize style (spec.precision?.getD 6) spec.alternative spec.code?.isNone
  let isZero := (body.takeWhile (· ≠ 'e')).all fun c => c = '0' || c = '.'
  let negative := x.isNegative && !(spec.plainZero && isZero)
  let body := inCapitals capitals body
  let digits := body.takeWhile Char.isDigit
  let rest := body.drop digits.length ++ (if percent then ['%'] else [])
  return String.ofList (spec.showNumber negative [] digits rest)

/-- The base for a letter, and the mark for it. -/
def baseOf? : Char → Option (Nat × List Char)
  | 'd' | 'n' => some (10, [])
  | 'b' => some (2, ['0', 'b'])
  | 'o' => some (8, ['0', 'o'])
  | 'x' => some (16, ['0', 'x'])
  | 'X' => some (16, ['0', 'X'])
  | _ => none

/-- The character of a number in a field. -/
def showCharacter (spec : Text.FieldSpec) (n : Int) : Action String := do
  if spec.sign?.isSome then
    fail (.other .badValue "Sign not allowed with integer format specifier 'c'")
  if spec.alternative then
    fail (.other .badValue "Alternate form (#) not allowed with integer format specifier 'c'")
  if isHuge n then
    fail (.other .overflow "Python int too large to convert to C long")
  if n < 0 || 0x110000 ≤ n then fail (.other .overflow "%c arg not in range(0x110000)")
  return String.ofList (spec.showNumber false [] [] [Char.ofNat n.toNat])

/-- A whole number in a field. -/
def showWhole (type : String) (spec : Text.FieldSpec) (n : Int) : Action String := do
  let code := spec.code?.getD 'd'
  let checked : Action Unit := do
    if spec.precision?.isSome then
      fail (.other .badValue "Precision not allowed in integer format specifier")
    if spec.plainZero then
      fail (.other .badValue
        "Negative zero coercion (z) not allowed in integer format specifier")
  match baseOf? code with
  | some (base, mark) =>
    checked
    let digits := inCapitals (code = 'X') (Nat.toDigits base n.natAbs)
    let mark := if spec.alternative then mark else []
    return String.ofList (spec.showNumber (n < 0) mark digits [])
  | none =>
    if code = 'c' then
      checked
      showCharacter spec n
    else if (styleOf? code).isSome then showReal type spec (← toDouble n)
    else fail (.other .badValue (Text.FieldSpec.unknownCode type code))

/-- A text in a field. -/
def showText (t spec : String) : Action String := do
  let spec ← orBadValue (Text.FieldSpec.read "str" false (some 's') spec)
  match spec.textFault? with
  | some text => fail (.other .badValue text)
  | none => return String.ofList (spec.showText t.toList)

/-- A complex number in a field: both parts are shown in the same way. -/
def showComplex (spec : Text.FieldSpec) (re im : Double) : Action String := do
  if spec.fill = '0' then
    fail (.other .badValue "Zero padding is not allowed in complex format specifier")
  if spec.placement = .afterSign then
    fail (.other .badValue "'=' alignment flag is not allowed in complex format specifier")
  let type := BasicType.complex.name
  if spec.code? = some '%' then fail (.other .badValue (Text.FieldSpec.unknownCode type '%'))
  let style := if spec.code?.isNone && spec.precision?.isSome then some 'g' else spec.code?
  let part := { spec with width := 0, placement := .right }
  let unmarked := fun (x : Double) (spec : Text.FieldSpec) => do
    if style.isNone then
      let digits := x.writeSize .shortest 0 false false
      let whole := digits.takeWhile Char.isDigit
      return String.ofList (spec.showNumber x.isNegative [] whole (digits.drop whole.length))
    else showReal type { spec with code? := style } x
  let alone := spec.code?.isNone && re.isZero && !re.isNegative
  let body ← if alone then pure ((← unmarked im part) ++ "j")
    else
      let first ← unmarked re part
      let second ← unmarked im { part with sign? := some '+' }
      pure (if spec.code?.isNone then "(" ++ first ++ second ++ "j)" else first ++ second ++ "j")
  return String.ofList ({ spec with precision? := none }.showText body.toList)

/-- The specification of a field for a number of a type. -/
def fieldSpec (type : String) (code? : Option Char) (spec : String) : Action Text.FieldSpec :=
  orBadValue (Text.FieldSpec.read type true code? spec)

/-- A value in a field with a specification. -/
def formatValue (v : Value) (spec : String) : Action String := do
  match ← special? v "__format__" with
  | some f =>
    match ← callSpecial f v [.text spec] with
    | .text t => return t
    | x => failNaming "__format__ must return a str, not " x 200 ""
  | none =>
    let type := (← get).typeName v
    match v, v.whole? with
    | .operation _, _ | .skip, _ => showText (← text v) spec
    | _, _ =>
      if spec = "" then text v
      else match v, v.whole? with
        | .text t, _ => showText t spec
        | _, some n => do showWhole type (← fieldSpec type (some 'd') spec) n
        | .float x _, _ => do showReal type (← fieldSpec type none spec) x
        | .complex re im _, _ => do showComplex (← fieldSpec type none spec) re im
        | _, _ => failNaming "unsupported format string passed to " v 200 ".__format__"

/-- What the method for formatting does. -/
def formatMethod (v spec : Value) : Action Value := do
  match spec with
  | .text spec => return .text (← formatValue v spec)
  | _ =>
    fail (.other .badType ("__format__() argument must be str, not " ++ (← argumentType spec)))

/-! ### Templates with braces -/

/-- Where the values for a template come from. -/
structure Supply where
  /-- The values by number, if there are some. -/
  numbered? : Option (List Value)
  /-- The values by name, if there are some. -/
  named? : Option Value

/-- How the fields of a template without names are numbered. -/
inductive Numbering
  | unset
  | automatic (next : Nat)
  | manual
  deriving DecidableEq, Repr

/-- The number of a field, and how the next ones are numbered. -/
def Numbering.use (numbering : Numbering) (given? : Option Nat) :
    Except String (Nat × Numbering) :=
  match numbering, given? with
  | .unset, none => .ok (0, .automatic 1)
  | .automatic n, none => .ok (n, .automatic (n + 1))
  | .manual, none =>
    .error "cannot switch from manual field specification to automatic field numbering"
  | .automatic _, some _ =>
    .error "cannot switch from automatic field numbering to manual field specification"
  | _, some n => .ok (n, .manual)

/-- The value with a number. -/
def numberedValue (supply : Supply) (n : Nat) : Action Value := do
  match supply.numbered? with
  | none => fail (.other .badValue "Format string contains positional fields")
  | some values =>
    match values[n]? with
    | some v => return v
    | none =>
      fail (.other .badIndex ("Replacement index " ++ toString n ++
        " out of range for positional args tuple"))

/-- The value that a field starts from. -/
def startValue (supply : Supply) (numbering : Numbering) :
    Text.FieldStart → Action (Value × Numbering)
  | .name name => do
    match supply.named? with
    | some v => return (← item v (.text name), numbering)
    | none => fail (.missingKey (.text name))
  | .next => do
    let (n, numbering) ← orBadValue (numbering.use none)
    return (← numberedValue supply n, numbering)
  | .number n => do
    let (n, numbering) ← orBadValue (numbering.use (some n))
    return (← numberedValue supply n, numbering)

/-- The value at the end of the steps of a field. -/
def followSteps : (fuel : Nat) → Value → List Char → Action Value
  | 0, v, _ => return v
  | fuel + 1, v, s => do
    match ← orBadValue (Text.Template.nextStep? s) with
    | none => return v
    | some (.attr name, rest) => followSteps fuel (← attr v name) rest
    | some (.item name, rest) => followSteps fuel (← item v (.text name)) rest
    | some (.place n, rest) => followSteps fuel (← item v (.int n)) rest

/-- A value after a conversion. -/
def convertedBy (conversion? : Option Char) (v : Value) : Action Value := do
  match conversion? with
  | none => return v
  | some 'r' => return .text (← written v)
  | some 's' => return .text (← text v)
  | some 'a' => return .text (← asciiForm v)
  | some c =>
    let shown := if 32 < c.toNat && c.toNat < 127 then String.singleton c
      else "\\x" ++ String.ofList (Nat.toDigits 16 c.toNat)
    fail (.other .badValue ("Unknown conversion specifier " ++ shown))

/-- The text of a template, where `inner` fills the templates in specifications. -/
def fillPieces (inner : Numbering → List Char → Action (List Char × Numbering)) (supply : Supply) :
    (fuel : Nat) → Numbering → List Char → Action (List Char × Numbering)
  | 0, numbering, _ => return ([], numbering)
  | fuel + 1, numbering, s => do
    match ← orBadValue (Text.Template.nextPiece? s) with
    | none => return ([], numbering)
    | some (.literal cs, rest) =>
      let (more, numbering) ← fillPieces inner supply fuel numbering rest
      return (cs ++ more, numbering)
    | some (.field field, rest) =>
      let (start, steps) ← orBadValue (Text.Template.start field.name)
      let (v, numbering) ← startValue supply numbering start
      let v ← followSteps (steps.length + 1) v steps
      let v ← convertedBy field.conversion? v
      let (spec, numbering) ← if field.spec.contains '{' then inner numbering field.spec
        else pure (field.spec, numbering)
      let shown ← formatValue v (String.ofList spec)
      let (more, numbering) ← fillPieces inner supply fuel numbering rest
      return (shown.toList ++ more, numbering)

/-- The text of a template in which templates are nested to a depth. -/
def fillAt (supply : Supply) : (depth : Nat) → Numbering → List Char →
    Action (List Char × Numbering)
  | 0, _, _ => fail (.other .badValue "Max string recursion exceeded")
  | depth + 1, numbering, s =>
    fillPieces (fillAt supply depth) supply (s.length + 1) numbering s

/-- The text of a template. -/
def fillTemplate (supply : Supply) (s : List Char) : Action Value := do
  let (cs, _) ← fillAt supply 2 .unset s
  return .text (String.ofList cs)

/-! ### Templates with percent signs -/

/-- How a value is shown behind a percent sign. -/
structure Directive where
  atLeft : Bool
  plus : Bool
  blank : Bool
  alternative : Bool
  zeros : Bool
  width : Nat
  precision? : Option Nat
  code : Char
  deriving Repr

/-- The values that are left, and the value that others are looked up in. -/
structure Arguments.Left where
  values : List Value
  mapping? : Option Value

/-- The next value. -/
def nextValue (left : Arguments.Left) : Action (Value × Arguments.Left) :=
  match left.values with
  | v :: rest => return (v, { left with values := rest })
  | [] => fail (.other .badType "not enough arguments for format string")

/-- The name in parentheses, and what follows it; `depth` more parentheses are open. -/
def scanKey : (depth : Nat) → List Char → Option (List Char × List Char)
  | _, [] => none
  | depth, c :: s =>
    match c, depth with
    | ')', 0 => some ([], s)
    | ')', depth + 1 => (scanKey depth s).map fun (key, rest) => (c :: key, rest)
    | '(', depth => (scanKey (depth + 1) s).map fun (key, rest) => (c :: key, rest)
    | _, depth => (scanKey depth s).map fun (key, rest) => (c :: key, rest)

/-- The value that a name in parentheses asks for. -/
def lookUpKey (form : TextForm) (left : Arguments.Left) (s : List Char) :
    Action (Arguments.Left × List Char) := do
  match s with
  | '(' :: s =>
    match left.mapping? with
    | none => fail (.other .badType "format requires a mapping")
    | some mapping =>
      match scanKey 0 s with
      | none => fail (.other .badValue "incomplete format key")
      | some (key, rest) =>
        let v ← item mapping (← form.make key)
        return ({ left with values := [v] }, rest)
  | s => return (left, s)

/-- A number in a directive, which may be a value: none if there is no number. -/
def directiveNumber (what : String) (left : Arguments.Left) (s : List Char) :
    Action (Option Int × Arguments.Left × List Char) := do
  match s with
  | '*' :: s =>
    let (v, left) ← nextValue left
    match v.whole? with
    | some n => return (some n, left, s)
    | none => fail (.other .badType "* wants int")
  | s =>
    let digits := s.takeWhile Char.isDigit
    let n := Text.digitsValue digits
    if digits.isEmpty then return (none, left, s)
    else if 0x7FFFFFFF < n then fail (.other .badValue (what ++ " too big"))
    else return (some n, left, s.drop digits.length)

/-- The directive behind a percent sign, and what follows it. -/
def scanDirective (form : TextForm) (left : Arguments.Left) (s : List Char) :
    Action (Directive × Arguments.Left × List Char) := do
  let (left, s) ← lookUpKey form left s
  let flags := s.takeWhile fun c => "-+ #0".contains c
  let (width?, left, s) ← directiveNumber "width" left (s.drop flags.length)
  let (precision?, left, s) ← match s with
    | '.' :: s => do
      let (n?, left, s) ← directiveNumber "precision" left s
      pure (some ((n?.getD 0).toNat), left, s)
    | s => pure (none, left, s)
  match s.dropWhile fun c => "hlL".contains c with
  | [] => fail (.other .badValue "incomplete format")
  | code :: rest =>
    let width := width?.getD 0
    return ({
      atLeft := flags.contains '-' || width < 0
      plus := flags.contains '+'
      blank := flags.contains ' '
      alternative := flags.contains '#'
      zeros := flags.contains '0'
      width := width.natAbs
      precision?
      code }, left, rest)

/-- A number with its sign, in the field of a directive. -/
def placeInField (d : Directive) (negative : Bool) (mark digits : List Char) : List Char :=
  let spec : Text.FieldSpec := {
    fill := if d.zeros && !d.atLeft then '0' else ' '
    placement := if d.atLeft then .left else if d.zeros then .afterSign else .right
    sign? := if d.plus then some '+' else if d.blank then some ' ' else none
    plainZero := false
    alternative := d.alternative
    width := d.width
    separator? := none
    precision? := none
    code? := none }
  spec.showNumber negative mark [] digits

/-- A text in the field of a directive. -/
def placeText (d : Directive) (cs : List Char) : List Char :=
  let cs := match d.precision? with
    | some n => cs.take n
    | none => cs
  Text.pad (if d.atLeft then .left else .right) ' ' d.width cs

/-- The whole number that a directive asks for. -/
def directiveWhole (d : Directive) (v : Value) : Action Int := do
  let wrong {α : Type} (kind : String) : Action α :=
    failNaming ("%" ++ String.singleton d.code ++ " format: " ++ kind ++ " is required, not ")
      v 200 ""
  match v, v.whole? with
  | _, some n => return n
  | .float x _, none =>
    if "xXo".contains d.code then wrong "an integer"
    else match ← wholeBy truncateInt x with
      | .int n => return n
      | _ => return 0
  | _, none => wrong (if "xXo".contains d.code then "an integer" else "a real number")

/-- A value shown by a directive for whole numbers. -/
def showWholeDirective (d : Directive) (v : Value) : Action (List Char) := do
  let n ← directiveWhole d v
  let code := if d.code = 'i' || d.code = 'u' then 'd' else d.code
  let (base, mark) := (baseOf? code).getD (10, [])
  let digits := inCapitals (code = 'X') (Nat.toDigits base n.natAbs)
  let digits := List.replicate (d.precision?.getD 0 - digits.length) '0' ++ digits
  return placeInField d (n < 0) (if d.alternative then mark else []) digits

/-- A value shown by a directive for floating-point numbers. -/
def showRealDirective (d : Directive) (v : Value) (style : Double.Style) (capitals : Bool) :
    Action (List Char) := do
  let x ← match v, v.whole? with
    | .float x _, _ => pure x
    | _, some n => toDouble n
    | _, none => failNaming "must be real number, not " v 50 ""
  let body := x.writeSize style (d.precision?.getD 6) d.alternative false
  return placeInField d x.isNegative [] (inCapitals capitals body)

/-- A value shown by a directive for characters. -/
def showCharDirective (d : Directive) (v : Value) : Action (List Char) := do
  match v, v.whole? with
  | _, some n =>
    if n < 0 || 0x110000 ≤ n then fail (.other .overflow "%c arg not in range(0x110000)")
    else return placeText d [Char.ofNat n.toNat]
  | .text t, _ =>
    if t.length = 1 then return placeText d t.toList
    else fail (.other .badType "%c requires int or char")
  | _, _ => fail (.other .badType "%c requires int or char")

/-- The bytes that stand for a value among bytes. -/
def bytesShown (v : Value) : Action (List Char) := do
  match bytes? (← get) v with
  | some bs => return bytesChars bs
  | none =>
    failNaming
      "%b requires a bytes-like object, or an object that implements __bytes__, not '" v 100 "'"

/-- A value shown by a directive; `place` is where its letter stands. -/
def showDirective (form : TextForm) (d : Directive) (place : Nat) (v : Value) :
    Action (List Char) := do
  let style? := if d.code = 'n' || d.code = '%' then none else styleOf? d.code
  match d.code, style? with
  | _, some (style, capitals, _) => showRealDirective d v style capitals
  | 's', _ =>
    if form = .text then return placeText d (← text v).toList
    else return placeText d (← bytesShown v)
  | 'r', _ =>
    return placeText d (← if form = .text then written v else asciiForm v).toList
  | 'a', _ => return placeText d (← asciiForm v).toList
  | 'c', _ => showCharDirective d v
  | code, _ =>
    if "diuxXo".contains code then showWholeDirective d v
    else if code = 'b' && form ≠ .text then return placeText d (← bytesShown v)
    else
      let shown := if 31 ≤ code.toNat && code.toNat ≤ 126 then code else '?'
      fail (.other .badValue ("unsupported format character '" ++ String.singleton shown ++
        "' (0x" ++ String.ofList (Nat.toDigits 16 code.toNat) ++ ") at index " ++ toString place))

/-- The text of a template with percent signs that has `size` characters. -/
def fillPercents (form : TextForm) (size : Nat) : (fuel : Nat) → Arguments.Left → List Char →
    Action (List Char × Arguments.Left)
  | 0, left, _ => return ([], left)
  | fuel + 1, left, s => do
    match s with
    | [] => return ([], left)
    | '%' :: '%' :: rest =>
      let (more, left) ← fillPercents form size fuel left rest
      return ('%' :: more, left)
    | '%' :: rest =>
      let (d, left, rest) ← scanDirective form left rest
      let (v, left) ← nextValue left
      let shown ← showDirective form d (size - rest.length - 1) v
      let (more, left) ← fillPercents form size fuel left rest
      return (shown ++ more, left)
    | c :: rest =>
      let (more, left) ← fillPercents form size fuel left rest
      return (c :: more, left)

/-- Whether values for a template of a form can be looked up in a value. -/
def isMapping (form : TextForm) (v : Value) : Action Bool := do
  let own ← special? v "__getitem__"
  match v, (← get).cell? v with
  | .bytes _, _ | _, some (.buffer _) => return form = .text
  | _, some (.list _) | _, some (.dict _) => return true
  | _, some (.view form _) => return form = .membersView
  | .type t, _ => return Store.metaType t = .enumType
  | _, _ => return own.isSome

/-- The text of a template with percent signs. -/
def fillByPercent (form : TextForm) (s : List Char) (args : Value) : Action Value := do
  let isMapping ← isMapping form args
  let values := match (← get).cell? args with
    | some (.tuple _ items _) => items
    | _ => [args]
  let left := ⟨values, if isMapping then some args else none⟩
  let (cs, left) ← fillPercents form s.length (s.length + 1) left s
  if !left.values.isEmpty && left.mapping?.isNone then
    let kind := if form = .text then "string" else "bytes"
    fail (.other .badType ("not all arguments converted during " ++ kind ++ " formatting"))
  else form.make cs

/-- What the operator for templates with percent signs does with a text and a value. -/
def percentOperator (form : TextForm) (name : String) (v x : Value) : Action Value := do
  let s ← get
  let (template, args) := if name = "__mod__" then (v, x) else (x, v)
  match form, template, s.cell? template with
  | .text, .text t, _ => fillByPercent form t.toList args
  | .bytes, .bytes bs, _ | .buffer, _, some (.buffer bs) =>
    fillByPercent form (bytesChars bs) args
  | _, _, _ => return .undecided

end GraphQLTree.Action
