import GraphQLTree.Behaviour.Arguments
import GraphQLTree.Behaviour.Sum
import GraphQLTree.Behaviour.Written
import GraphQLTree.Text.Encoding
import GraphQLTree.Text.Padding
import GraphQLTree.Text.Pieces

/-! # Methods of texts, bytes and buffers

Texts, bytes and buffers share most of their methods. They differ in what counts as a letter or a
blank, in which arguments they take for a piece of them, and in what they answer with; so each
method is given once, for a form of texts. A byte counts as the character of its number. -/

namespace GraphQLTree

/-- What a text is kept in. -/
inductive TextForm
  | text
  | bytes
  | buffer
  deriving DecidableEq, Repr

namespace TextForm

/-- How the characters of a form are classed. -/
def script : TextForm → Text.Script
  | text => .unicode
  | _ => .ascii

/-- A value of a form. -/
def make (form : TextForm) (cs : List Char) : Effect Value :=
  let bs := cs.map fun c => UInt8.ofNat c.toNat
  match form with
  | text => return .text (String.ofList cs)
  | bytes => return .bytes bs
  | buffer => Effect.alloc (.buffer bs)

end TextForm

namespace Action

/-! ### Arguments -/

/-- The characters of bytes. -/
def bytesChars (bs : List UInt8) : List Char :=
  bs.map fun b => Char.ofNat b.toNat

/-- The characters of a value of a form, if it is one; for bytes, those of a buffer too. -/
def charsOf? (s : Store) (form : TextForm) (v : Value) : Option (List Char) :=
  match form, v with
  | .text, .text t => some t.toList
  | .text, _ => none
  | _, _ => (bytes? s v).map bytesChars

/-- The characters of an argument; `refuse` tells what is wrong with one that is no text. -/
def pieceOr (refuse : Value → Action (List Char)) (form : TextForm) (v : Value) :
    Action (List Char) := do
  match charsOf? (← get) form v with
  | some cs => return cs
  | none => if form = .text then refuse v else failOn .notBytes v

/-- An argument by its name in messages. -/
def namedPiece (form : TextForm) (argument : String) (v : Value) : Action (List Char) :=
  pieceOr (fun v => do
    fail (.other .badType (argument ++ " must be str, not " ++ (← argumentType v)))) form v

/-- An argument that is told by the kind of text that it must be. -/
def plainPiece (form : TextForm) (kind : String) (v : Value) : Action (List Char) :=
  pieceOr (fun v => failNaming ("must be " ++ kind ++ ", not ") v 100 "") form v

/-- The characters to look for; in bytes a number is a single one. -/
def searchedPiece (form : TextForm) (v : Value) : Action (List Char) := do
  match form, v.whole?, bytes? (← get) v with
  | .text, _, _ => plainPiece form "str" v
  | _, some _, _ => return bytesChars [← byteOf v]
  | _, none, some bs => return bytesChars bs
  | _, none, none =>
    failNaming "argument should be integer or bytes-like object, not '" v 200 "'"

/-- A separator that must not be empty. -/
def checkSeparator (separator : List Char) : Action Unit :=
  if separator.isEmpty then fail (.other .badValue "empty separator") else return ()

/-- A number that fits into 32 binary digits. -/
def smallNumber (v : Value) : Action Int := do
  match v.whole? with
  | none => failOn .notInteger v
  | some n =>
    if n ≥ 0x80000000 || n < -0x80000000 then
      fail (.other .overflow "Python int too large to convert to C int")
    else return n

/-- How many times something is done in a text: a negative number stands for all. -/
def timesFor (cs : List Char) : List Value → Action Nat
  | [] => return cs.length + 1
  | v :: _ => do
    let n ← wholeArgument v
    return if n < 0 then cs.length + 1 else n.toNat

/-- The part of a sequence between two bounds, if the first is not behind the second; the first may
lie behind the end. -/
def window? (length : Nat) (bounds : List Value) : Action (Option (Nat × Nat)) := do
  let start := (← bound? (bounds[0]?.getD .null)).getD 0
  let stop := (← bound? (bounds[1]?.getD .null)).getD length
  let first := if start < 0 then position length start else start.toNat
  let last := position length stop
  return if first ≤ last then some (first, last) else none

/-! ### Looking for pieces -/

/-- The place of a piece between bounds. -/
def searchIn (form : TextForm) (find : List Char → List Char → Option Nat) (cs : List Char)
    (args : List Value) : Action (Option Nat) := do
  let window ← window? cs.length args.tail
  let part ← searchedPiece form (args.head?.getD .null)
  return window.bind fun (first, last) =>
    (find part ((cs.take last).drop first)).map (· + first)

/-- The place of a piece between bounds; fails if there is none. -/
def indexIn (form : TextForm) (find : List Char → List Char → Option Nat) (cs : List Char)
    (args : List Value) : Action Value := do
  match ← searchIn form find cs args with
  | some i => return .int i
  | none =>
    fail (.notFound (if form = .text then "substring not found" else "subsection not found"))

/-- How often a piece occurs between bounds. -/
def countIn (form : TextForm) (cs : List Char) (args : List Value) : Action Value := do
  let window ← window? cs.length args.tail
  let part ← searchedPiece form (args.head?.getD .null)
  match window with
  | none => return .int 0
  | some (first, last) => return .int (Text.countPieces part ((cs.take last).drop first))

/-- Whether one of several pieces stands at an end, as `stands` tells. -/
def anyStands (form : TextForm) (method : String) (stands : List Char → Bool) :
    List Value → Action Bool
  | [] => return false
  | v :: rest => do
    let part ← pieceOr (fun v =>
      failNaming ("tuple for " ++ method ++ " must only contain str, not ") v 100 "") form v
    if stands part then return true else anyStands form method stands rest

/-- Whether a piece, or one of several, stands at an end of a text between bounds. -/
def standsAt (form : TextForm) (method : String) (atStart : Bool) (cs : List Char)
    (args : List Value) : Action Value := do
  let window ← window? cs.length args.tail
  let stands := fun (part : List Char) =>
    match window with
    | none => false
    | some (first, last) =>
      let inside := (cs.take last).drop first
      if atStart then part.isPrefixOf inside else part.isSuffixOf inside
  let v := args.head?.getD .null
  let s ← get
  match s.cell? v, charsOf? s form v with
  | some (.tuple _ items _), _ => return .bool (← anyStands form method stands items)
  | _, some part => return .bool (stands part)
  | _, none =>
    let kind := if form = .text then "str" else "bytes"
    failNaming (method ++ " first arg must be " ++ kind ++ " or a tuple of " ++ kind ++ ", not ")
      v 100 ""

/-! ### Parts -/

/-- A new list of values of a form. -/
def listOf (form : TextForm) (parts : List (List Char)) : Action Value := do
  Effect.list (← parts.mapM fun part => (form.make part : Effect Value))

/-- The parts of a text around a separator, or its words. -/
def splitText (form : TextForm) (fromStart : Bool) (cs : List Char) (args : List Value) :
    Action Value := do
  let count ← timesFor cs args.tail
  match args.head?.getD .null with
  | .null =>
    let isBlank := form.script.isBlank
    listOf form (if fromStart then Text.words isBlank count cs
      else Text.lastWords isBlank count cs)
  | v =>
    let separator ← plainPiece form "str or None" v
    checkSeparator separator
    listOf form (if fromStart then Text.splitFirst separator count cs
      else Text.splitLast separator count cs)

/-- What stands before a separator, the separator, and what stands behind it. -/
def partitionText (form : TextForm) (fromStart : Bool) (cs : List Char) (v : Value) :
    Action Value := do
  let separator ← plainPiece form "str" v
  checkSeparator separator
  let make : List Char → Action Value := fun part => form.make part
  let found := if fromStart then Text.divide? separator cs else Text.divideLast? separator cs
  match found with
  | some (before, behind) =>
    let middle ← if form = .bytes then pure v else make separator
    Effect.tuple [← make before, middle, ← make behind]
  | none => Effect.tuple (← (if fromStart then [cs, [], []] else [[], [], cs]).mapM make)

/-- A text without some characters at its ends. -/
def stripText (form : TextForm) (method : String) (left right : Bool) (cs : List Char)
    (args : List Value) : Action Value := do
  let skip ← match args with
    | [] | .null :: _ => pure form.script.isBlank
    | v :: _ => do
      let chars ← pieceOr (fun _ =>
        fail (.other .badType (method ++ " arg must be None or str"))) form v
      pure chars.contains
  let cs := if left then Text.trimLeft skip cs else cs
  form.make (if right then Text.trimRight skip cs else cs)

/-- A text with places of a piece replaced. -/
def replaceText (form : TextForm) (cs : List Char) (args : List Value) : Action Value := do
  let old ← namedPiece form "replace() argument 1" (args[0]?.getD .null)
  let new ← namedPiece form "replace() argument 2" (args[1]?.getD .null)
  form.make (Text.replaceFirst old new (← timesFor cs (args.drop 2)) cs)

/-- The items of a value, joined by a text. -/
def joinItems (form : TextForm) (separator : List Char) (v : Value) : Action Value := do
  match ← items? v with
  | none => fail (.other .badType "can only join an iterable")
  | some items =>
    if form = .text then return .text (← joinTexts (String.ofList separator) items)
    else
      let s ← get
      let parts ← items.zipIdx.mapM fun (v, i) =>
        match bytes? s v with
        | some bs => return bytesChars bs
        | none =>
          failNaming ("sequence item " ++ toString i ++ ": expected a bytes-like object, ") v 80
            " found"
      form.make (separator.intercalate parts)

/-! ### Padding -/

/-- The character that a text is filled up with. -/
def fillArgument (form : TextForm) (method : String) (v : Value) : Action Char := do
  match form, charsOf? (← get) form v with
  | _, some [c] => return c
  | .text, some _ =>
    fail (.other .badType "The fill character must be exactly one character long")
  | .text, none => failNaming "The fill character must be a unicode character, not " v 100 ""
  | _, _ =>
    fail (.other .badType (method ++ "() argument 2 must be a byte string of length 1, not " ++
      (← argumentType v)))

/-- A width; one that is too large cannot be kept. -/
def widthArgument (v : Value) : Action Nat := do
  let n ← wholeArgument v
  if isTooMany n then failTooMany else return n.toNat

/-- A text that is filled up to a width. -/
def padText (form : TextForm) (method : String) (alignment : Text.Alignment) (cs : List Char)
    (args : List Value) : Action Value := do
  let width ← widthArgument (args.head?.getD .null)
  let fill ← match args.tail with
    | [] => pure ' '
    | v :: _ => fillArgument form method v
  form.make (Text.pad alignment fill width cs)

/-! ### Replacing characters -/

/-- What a table has in the place of a character. -/
def mapped (table : Value) (c : Char) : Action (List Char) := do
  let answer ← handling .lookUp (some <$> item table (.int c.toNat)) fun _ => return none
  match answer with
  | none => return [c]
  | some .null => return []
  | some (.text t) => return t.toList
  | some v =>
    match v.whole? with
    | none => fail (.other .badType "character mapping must return integer, None or str")
    | some n =>
      if 0 ≤ n && n < 0x110000 then return [Char.ofNat n.toNat]
      else fail (.other .badValue "character mapping must be in range(0x110000)")

/-- Bytes in which some are left out and the others are replaced by those of a table. -/
def translateBytes (form : TextForm) (cs : List Char) (args : List Value) : Action Value := do
  ofExcept ((Arity.parsed 0 2).check "translate" "translate" args.length)
  ofExcept ((Arity.positional 1 2).check "translate" "translate" args.length)
  let table ← match args.head?.getD .null with
    | .null => pure none
    | v => some <$> pieceOr (fun _ => return []) form v
  if (table.map List.length).getD 256 ≠ 256 then
    fail (.other .badValue "translation table must be 256 characters long")
  let dropped ← match args.tail with
    | [] => pure []
    | v :: _ => pieceOr (fun _ => return []) form v
  form.make ((cs.filter (!dropped.contains ·)).map fun c =>
    ((table.bind fun t => t[c.toNat]?).getD c))

/-! ### Encodings -/

/-- An argument that must be a text, by its name. -/
def optionArgument (method name : String) (v : Value) : Action String := do
  match v with
  | .text t =>
    if t.contains (Char.ofNat 0) then fail (.other .badValue "embedded null character")
    else return t
  | _ =>
    fail (.other .badType (method ++ "() argument '" ++ name ++ "' must be str, not " ++
      (← argumentType v)))

/-- The way to write texts of a name. -/
def codingOf (name : String) : Action Text.Coding :=
  match Text.Coding.ofName? name with
  | some c => return c
  | none => fail (.other .lookUp ("unknown encoding: " ++ name))

/-- What is done with what is wrong, by its name. -/
def remedyOf? (name : String) : Option Text.Remedy :=
  match name with
  | "strict" | "surrogateescape" | "surrogatepass" => some .refuse
  | "ignore" => some .leaveOut
  | "replace" => some .replace
  | "backslashreplace" => some .escape
  | "xmlcharrefreplace" => some .refer
  | _ => none

/-- The outcome of a conversion; that something is wrong can be reported in a known way only. -/
def converted {α : Type} (cls : ErrorClass) (errors : String)
    (message : Text.CodingFault → String)
    (convert : Text.Remedy → Except Text.CodingFault α) : Action α := do
  match convert ((remedyOf? errors).getD .refuse), remedyOf? errors with
  | .ok a, _ => return a
  | .error fault, some .refuse => fail (.other cls (message fault))
  | .error _, some _ =>
    fail (.other .badType ("don't know how to handle " ++ cls.name ++ " in error callback"))
  | .error _, none => fail (.other .lookUp ("unknown error handler name '" ++ errors ++ "'"))

/-- The bytes of a text in an encoding. -/
def encodeText (cs : List Char) (encoding errors : String) : Action Value := do
  let coding ← codingOf encoding
  let message := fun (fault : Text.CodingFault) =>
    let c := (cs[fault.start]?.getD ' ').toNat
    "'" ++ coding.encoding.name ++ "' codec can't encode " ++
      fault.place ("character '" ++ String.ofList (Text.codeEscape c) ++ "'") "characters"
  return .bytes (← converted .badEncoding errors message fun r => coding.encode r cs)

/-- The text of bytes in an encoding. -/
def decodeBytes (bs : List UInt8) (encoding errors : String) : Action Value := do
  if bs.isEmpty then return .text ""
  let coding ← codingOf encoding
  let ns := bs.map UInt8.toNat
  let e := coding.encodingFor ns
  let message := fun (fault : Text.CodingFault) =>
    let b := (coding.counted ns)[fault.start]?.getD 0
    "'" ++ e.name ++ "' codec can't decode " ++
      fault.place ("byte 0x" ++ String.ofList (Text.hexDigits 2 b)) "bytes"
  let cs ← converted .badDecoding errors message fun r => coding.decode r ns
  return .text (String.ofList cs)

/-- The names of an encoding and of what is done with what is wrong. -/
def codingArguments (method : String) (args : List Value) : Action (String × String) := do
  let encoding ← match args[0]? with
    | some v => optionArgument method "encoding" v
    | none => pure "utf-8"
  let errors ← match args[1]? with
    | some v => optionArgument method "errors" v
    | none => pure "strict"
  return (encoding, errors)

/-- Bytes in base 16, in groups that are counted from the end, or from the start if `size` is
negative. -/
def hexGroups (bs : List UInt8) (separator : List Char) (size : Int) : List Char :=
  let n := size.natAbs
  let digits := bs.map fun b => Text.hexDigits 2 b.toNat
  let places := digits.zipIdx.map fun (d, i) =>
    let counted := if 0 < size then bs.length - i else i
    if i ≠ 0 && n ≠ 0 && counted % n = 0 then separator ++ d else d
  places.flatten

/-- Bytes in base 16. -/
def hexText (bs : List UInt8) (args : List Value) : Action Value := do
  match args with
  | [] => return .text (String.ofList (hexGroups bs [] 0))
  | v :: rest =>
    let size ← match rest with
      | [] => pure 1
      | n :: _ => smallNumber n
    if (← length v) ≠ 1 then fail (.other .badValue "sep must be length 1.")
    let separator ← match v with
      | .text t => pure t.toList
      | .bytes cs => pure (bytesChars cs)
      | _ => fail (.other .badType "sep must be str or bytes.")
    if separator.any fun c => 128 ≤ c.toNat then fail (.other .badValue "sep must be ASCII.")
    return .text (String.ofList (hexGroups bs separator size))

/-! ### All methods -/

/-- The number of arguments that a method of a text, of bytes or of a buffer takes. -/
def textArity (form : TextForm) (name : String) : Arity :=
  match name with
  | "join" | "partition" | "rpartition" | "removeprefix" | "removesuffix" | "zfill" | "format_map"
  | "append" | "extend" | "remove" | "__format__" => .one
  | "translate" => if form = .text then .one else .any
  | "center" | "ljust" | "rjust" => .between 1 2
  | "count" | "endswith" | "find" | "index" | "rfind" | "rindex" | "startswith" => .parsed 1 3
  | "encode" | "decode" | "hex" | "split" | "rsplit" => .parsed 0 2
  | "expandtabs" | "splitlines" => .parsed 0 1
  | "strip" | "lstrip" | "rstrip" | "pop" => .between 0 1
  | "replace" => .between 2 3
  | "insert" => .between 2 2
  | "format" => .any
  | _ => .none

/-- Whether a text is of a kind; none if the name is not that of such a question. -/
def classOfText? (script : Text.Script) (name : String) (cs : List Char) : Option Bool :=
  let all := fun is => some (Text.Script.allOf is cs)
  match name with
  | "isalnum" => all script.isWordPart
  | "isalpha" => all script.isLetter
  | "isascii" => some (cs.all fun c => c.toNat < 128)
  | "isdecimal" => all Text.isDecimalDigit
  | "isdigit" => all script.isDigit
  | "isidentifier" => some (Text.isIdentifier (String.ofList cs))
  | "islower" => some (script.allSmall cs)
  | "isnumeric" => all Text.isNumeral
  | "isprintable" => some (cs.all Text.isPrintable)
  | "isspace" => all script.isBlank
  | "istitle" => some (script.isTitled cs)
  | "isupper" => some (script.allCapital cs)
  | _ => none

/-- A text in other letters; none if the name is not that of such a change. -/
def lettersOf? (script : Text.Script) (name : String) (cs : List Char) : Option (List Char) :=
  match name with
  | "capitalize" => some (script.capitalized cs)
  | "casefold" => some (cs.flatMap Text.foldChar)
  | "lower" => some (script.allLower [] cs)
  | "swapcase" => some (script.swapped [] cs)
  | "title" => some (script.titled [] cs)
  | "upper" => some (script.allUpper cs)
  | _ => none

/-- What a method that takes a text apart or looks into it does. -/
def searchMethod (form : TextForm) (cs : List Char) (name : String) (args : List Value) :
    Action Value := do
  let orMinusOne := fun (place : Option Nat) => Value.int ((place.map Int.ofNat).getD (-1))
  match name, args with
  | "find", _ => return orMinusOne (← searchIn form Text.placeOf? cs args)
  | "rfind", _ => return orMinusOne (← searchIn form Text.lastPlaceOf? cs args)
  | "index", _ => indexIn form Text.placeOf? cs args
  | "rindex", _ => indexIn form Text.lastPlaceOf? cs args
  | "count", _ => countIn form cs args
  | "startswith", _ => standsAt form name true cs args
  | "endswith", _ => standsAt form name false cs args
  | "split", _ => splitText form true cs args
  | "rsplit", _ => splitText form false cs args
  | "partition", [v] => partitionText form true cs v
  | "rpartition", [v] => partitionText form false cs v
  | "splitlines", _ =>
    let keep ← match args with
      | [] => pure 0
      | v :: _ => smallNumber v
    listOf form (Text.lines form.script.isLineBreak (keep ≠ 0) cs)
  | _, _ => return .null

/-- What a method that texts, bytes and buffers share does. -/
def textMethod (form : TextForm) (cs : List Char) (name : String) (args : List Value) :
    Action Value := do
  match classOfText? form.script name cs, lettersOf? form.script name cs, name, args with
  | some answer, _, _, _ => return .bool answer
  | none, some cs, _, _ => form.make cs
  | none, none, "strip", _ => stripText form name true true cs args
  | none, none, "lstrip", _ => stripText form name true false cs args
  | none, none, "rstrip", _ => stripText form name false true cs args
  | none, none, "removeprefix", [v] =>
    let part ← namedPiece form (name ++ "() argument") v
    form.make (if part.isPrefixOf cs then cs.drop part.length else cs)
  | none, none, "removesuffix", [v] =>
    let part ← namedPiece form (name ++ "() argument") v
    form.make (if part.isSuffixOf cs then cs.take (cs.length - part.length) else cs)
  | none, none, "replace", _ => replaceText form cs args
  | none, none, "join", [v] => joinItems form cs v
  | none, none, "center", _ => padText form name .center cs args
  | none, none, "ljust", _ => padText form name .left cs args
  | none, none, "rjust", _ => padText form name .right cs args
  | none, none, "zfill", [v] => do form.make (Text.padZeros (← widthArgument v) cs)
  | none, none, "expandtabs", _ =>
    let size ← match args with
      | [] => pure 8
      | v :: _ => smallNumber v
    form.make (Text.expandFrom size.toNat 0 cs)
  | none, none, "translate", _ =>
    if form = .text then form.make (← cs.mapM (mapped (args.head?.getD .null))).flatten
    else translateBytes form cs args
  | none, none, "encode", _ =>
    let (encoding, errors) ← codingArguments name args
    encodeText cs encoding errors
  | none, none, "decode", _ =>
    let (encoding, errors) ← codingArguments name args
    decodeBytes (cs.map fun c => UInt8.ofNat c.toNat) encoding errors
  | none, none, "hex", _ => hexText (cs.map fun c => UInt8.ofNat c.toNat) args
  | none, none, "__getnewargs__", _ => do Effect.tuple [← form.make cs]
  | none, none, "__bytes__", _ => form.make cs
  | none, none, _, _ => searchMethod form cs name args

/-! ### Buffers -/

/-- Takes a byte out of a buffer. -/
def popByte (r : Ref) (bs : List UInt8) (place : Int) : Action Value := do
  if bs.isEmpty then fail (.other .badIndex "pop from empty bytearray")
  else match (fromStart? bs.length place).bind (bs[·]?), fromStart? bs.length place with
    | some b, some n =>
      Effect.put r (.buffer (bs.eraseIdx n))
      return .int b.toNat
    | _, _ => fail (.outOfRange "pop index")

/-- The bytes that a buffer is extended by. -/
def bytesOfItems (v : Value) : Action (List UInt8) := do
  match bytes? (← get) v with
  | some bs => return bs
  | none =>
    match ← items? v with
    | some items => items.mapM byteOf
    | none => failNaming "can't extend bytearray with " v 100 ""

/-- What a method of a buffer does. -/
def bufferMethod (r : Ref) (bs : List UInt8) (name : String) (args : List Value) :
    Action Value := do
  match name, args with
  | "append", [x] => Effect.put r (.buffer (bs ++ [← byteOf x])); return .null
  | "extend", [x] => Effect.put r (.buffer (bs ++ (← bytesOfItems x))); return .null
  | "insert", [i, x] =>
    let n := position bs.length (← wholeArgument i)
    let b ← byteOf x
    Effect.put r (.buffer (bs.take n ++ b :: bs.drop n))
    return .null
  | "pop", [] => popByte r bs (-1)
  | "pop", [i] => popByte r bs (← wholeArgument i)
  | "remove", [x] =>
    match bs.idxOf? (← byteOf x) with
    | some n => Effect.put r (.buffer (bs.eraseIdx n)); return .null
    | none => fail (.notFound "value not found in bytearray")
  | "reverse", _ => Effect.put r (.buffer bs.reverse); return .null
  | "clear", _ => Effect.put r (.buffer []); return .null
  | "copy", _ => Effect.alloc (.buffer bs)
  | _, _ => textMethod .buffer (bytesChars bs) name args

end Action
end GraphQLTree
