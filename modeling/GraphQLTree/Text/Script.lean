import GraphQLTree.Text.DecimalDigit
import GraphQLTree.Text.Identifier
import GraphQLTree.Text.LetterCase

/-! # Classes of characters

Letters, digits, capitals and small letters, in two scripts: all characters of the Unicode standard,
and ASCII, where no other character belongs to a class. What a text is as a whole follows from its
characters in the same way in both. -/

namespace GraphQLTree.Text

/-! ### Tables -/

/-- The letters that cannot start an identifier. -/
def extraLetterSpans : Spans :=
  [(0x37A, 0x37A), (0xE33, 0xE33), (0xEB3, 0xEB3), (0x2E2F, 0x2E2F), (0xFC5E, 0xFC63),
   (0xFDFA, 0xFDFB), (0xFE70, 0xFE70), (0xFE72, 0xFE72), (0xFE74, 0xFE74), (0xFE76, 0xFE76),
   (0xFE78, 0xFE78), (0xFE7A, 0xFE7A), (0xFE7C, 0xFE7C), (0xFE7E, 0xFE7E), (0xFF9E, 0xFF9F)]

/-- What can start an identifier and is no letter. -/
def nonLetterSpans : Spans :=
  [(0x5F, 0x5F), (0x16EE, 0x16F0), (0x1885, 0x1886), (0x2118, 0x2118), (0x212E, 0x212E),
   (0x2160, 0x2182), (0x2185, 0x2188), (0x3007, 0x3007), (0x3021, 0x3029), (0x3038, 0x303A),
   (0xA6E6, 0xA6EF), (0x10140, 0x10174), (0x10341, 0x10341), (0x1034A, 0x1034A),
   (0x103D1, 0x103D5), (0x12400, 0x1246E)]

/-- The letters that are made of a capital and a small letter. -/
def titleSpans : Spans :=
  [(0x1C5, 0x1C5), (0x1C8, 0x1C8), (0x1CB, 0x1CB), (0x1F2, 0x1F2), (0x1F88, 0x1F8F),
   (0x1F98, 0x1F9F), (0x1FA8, 0x1FAF), (0x1FBC, 0x1FBC), (0x1FCC, 0x1FCC), (0x1FFC, 0x1FFC)]

/-- The capitals without a small letter. -/
def singleCapitalSpans : Spans :=
  [(0x3D2, 0x3D4), (0x2102, 0x2102), (0x2107, 0x2107), (0x210B, 0x210D), (0x2110, 0x2112),
   (0x2115, 0x2115), (0x2119, 0x211D), (0x2124, 0x2124), (0x2128, 0x2128), (0x212C, 0x212D),
   (0x2130, 0x2131), (0x2133, 0x2133), (0x213E, 0x213F), (0x2145, 0x2145), (0x1D400, 0x1D419),
   (0x1D434, 0x1D44D), (0x1D468, 0x1D481), (0x1D49C, 0x1D49C), (0x1D49E, 0x1D49F),
   (0x1D4A2, 0x1D4A2), (0x1D4A5, 0x1D4A6), (0x1D4A9, 0x1D4AC), (0x1D4AE, 0x1D4B5),
   (0x1D4D0, 0x1D4E9), (0x1D504, 0x1D505), (0x1D507, 0x1D50A), (0x1D50D, 0x1D514),
   (0x1D516, 0x1D51C), (0x1D538, 0x1D539), (0x1D53B, 0x1D53E), (0x1D540, 0x1D544),
   (0x1D546, 0x1D546), (0x1D54A, 0x1D550), (0x1D56C, 0x1D585), (0x1D5A0, 0x1D5B9),
   (0x1D5D4, 0x1D5ED), (0x1D608, 0x1D621), (0x1D63C, 0x1D655), (0x1D670, 0x1D689),
   (0x1D6A8, 0x1D6C0), (0x1D6E2, 0x1D6FA), (0x1D71C, 0x1D734), (0x1D756, 0x1D76E),
   (0x1D790, 0x1D7A8), (0x1D7CA, 0x1D7CA), (0x1F130, 0x1F149), (0x1F150, 0x1F169),
   (0x1F170, 0x1F189)]

/-- The small letters without a capital. -/
def singleSmallSpans : Spans :=
  [(0xAA, 0xAA), (0xBA, 0xBA), (0x138, 0x138), (0x18D, 0x18D), (0x19B, 0x19B), (0x1AA, 0x1AB),
   (0x1BA, 0x1BA), (0x1BE, 0x1BE), (0x221, 0x221), (0x234, 0x239), (0x255, 0x255), (0x258, 0x258),
   (0x25A, 0x25A), (0x25D, 0x25F), (0x262, 0x262), (0x264, 0x264), (0x267, 0x267), (0x26D, 0x26E),
   (0x270, 0x270), (0x273, 0x274), (0x276, 0x27C), (0x27E, 0x27F), (0x281, 0x281), (0x284, 0x286),
   (0x28D, 0x291), (0x293, 0x293), (0x295, 0x29C), (0x29F, 0x2B8), (0x2C0, 0x2C1), (0x2E0, 0x2E4),
   (0x37A, 0x37A), (0x3FC, 0x3FC), (0x560, 0x560), (0x588, 0x588), (0x1D00, 0x1D78),
   (0x1D7A, 0x1D7C), (0x1D7E, 0x1D8D), (0x1D8F, 0x1DBF), (0x1E9C, 0x1E9D), (0x1E9F, 0x1E9F),
   (0x2071, 0x2071), (0x207F, 0x207F), (0x2090, 0x209C), (0x210A, 0x210A), (0x210E, 0x210F),
   (0x2113, 0x2113), (0x212F, 0x212F), (0x2134, 0x2134), (0x2139, 0x2139), (0x213C, 0x213D),
   (0x2146, 0x2149), (0x2C71, 0x2C71), (0x2C74, 0x2C74), (0x2C77, 0x2C7D), (0x2CE4, 0x2CE4),
   (0xA69C, 0xA69D), (0xA730, 0xA731), (0xA770, 0xA778), (0xA78E, 0xA78E), (0xA795, 0xA795),
   (0xA7AF, 0xA7AF), (0xA7D3, 0xA7D3), (0xA7D5, 0xA7D5), (0xA7F8, 0xA7FA), (0xAB30, 0xAB52),
   (0xAB54, 0xAB5A), (0xAB5C, 0xAB68), (0x10780, 0x10780), (0x10783, 0x10785), (0x10787, 0x107B0),
   (0x107B2, 0x107BA), (0x1D41A, 0x1D433), (0x1D44E, 0x1D454), (0x1D456, 0x1D467),
   (0x1D482, 0x1D49B), (0x1D4B6, 0x1D4B9), (0x1D4BB, 0x1D4BB), (0x1D4BD, 0x1D4C3),
   (0x1D4C5, 0x1D4CF), (0x1D4EA, 0x1D503), (0x1D51E, 0x1D537), (0x1D552, 0x1D56B),
   (0x1D586, 0x1D59F), (0x1D5BA, 0x1D5D3), (0x1D5EE, 0x1D607), (0x1D622, 0x1D63B),
   (0x1D656, 0x1D66F), (0x1D68A, 0x1D6A5), (0x1D6C2, 0x1D6DA), (0x1D6DC, 0x1D6E1),
   (0x1D6FC, 0x1D714), (0x1D716, 0x1D71B), (0x1D736, 0x1D74E), (0x1D750, 0x1D755),
   (0x1D770, 0x1D788), (0x1D78A, 0x1D78F), (0x1D7AA, 0x1D7C2), (0x1D7C4, 0x1D7C9),
   (0x1D7CB, 0x1D7CB), (0x1DF00, 0x1DF09), (0x1DF0B, 0x1DF1E)]

/-- The digits that are not used in decimal numbers. -/
def digitSpans : Spans :=
  [(0xB2, 0xB3), (0xB9, 0xB9), (0x1369, 0x1371), (0x19DA, 0x19DA), (0x2070, 0x2070),
   (0x2074, 0x2079), (0x2080, 0x2089), (0x2460, 0x2468), (0x2474, 0x247C), (0x2488, 0x2490),
   (0x24EA, 0x24EA), (0x24F5, 0x24FD), (0x24FF, 0x24FF), (0x2776, 0x277E), (0x2780, 0x2788),
   (0x278A, 0x2792), (0x10A40, 0x10A43), (0x10E60, 0x10E68), (0x11052, 0x1105A),
   (0x1F100, 0x1F10A)]

/-- The characters for numbers that are no digits. -/
def numeralSpans : Spans :=
  [(0xBC, 0xBE), (0x9F4, 0x9F9), (0xB72, 0xB77), (0xBF0, 0xBF2), (0xC78, 0xC7E), (0xD58, 0xD5E),
   (0xD70, 0xD78), (0xF2A, 0xF33), (0x1372, 0x137C), (0x16EE, 0x16F0), (0x17F0, 0x17F9),
   (0x2150, 0x2182), (0x2185, 0x2189), (0x2469, 0x2473), (0x247D, 0x2487), (0x2491, 0x249B),
   (0x24EB, 0x24F4), (0x24FE, 0x24FE), (0x277F, 0x277F), (0x2789, 0x2789), (0x2793, 0x2793),
   (0x2CFD, 0x2CFD), (0x3007, 0x3007), (0x3021, 0x3029), (0x3038, 0x303A), (0x3192, 0x3195),
   (0x3220, 0x3229), (0x3248, 0x324F), (0x3251, 0x325F), (0x3280, 0x3289), (0x32B1, 0x32BF),
   (0x3405, 0x3405), (0x3483, 0x3483), (0x382A, 0x382A), (0x3B4D, 0x3B4D), (0x4E00, 0x4E00),
   (0x4E03, 0x4E03), (0x4E07, 0x4E07), (0x4E09, 0x4E09), (0x4E5D, 0x4E5D), (0x4E8C, 0x4E8C),
   (0x4E94, 0x4E94), (0x4E96, 0x4E96), (0x4EBF, 0x4EC0), (0x4EDF, 0x4EDF), (0x4EE8, 0x4EE8),
   (0x4F0D, 0x4F0D), (0x4F70, 0x4F70), (0x5104, 0x5104), (0x5146, 0x5146), (0x5169, 0x5169),
   (0x516B, 0x516B), (0x516D, 0x516D), (0x5341, 0x5341), (0x5343, 0x5345), (0x534C, 0x534C),
   (0x53C1, 0x53C4), (0x56DB, 0x56DB), (0x58F1, 0x58F1), (0x58F9, 0x58F9), (0x5E7A, 0x5E7A),
   (0x5EFE, 0x5EFF), (0x5F0C, 0x5F0E), (0x5F10, 0x5F10), (0x62FE, 0x62FE), (0x634C, 0x634C),
   (0x67D2, 0x67D2), (0x6F06, 0x6F06), (0x7396, 0x7396), (0x767E, 0x767E), (0x8086, 0x8086),
   (0x842C, 0x842C), (0x8CAE, 0x8CAE), (0x8CB3, 0x8CB3), (0x8D30, 0x8D30), (0x9621, 0x9621),
   (0x9646, 0x9646), (0x964C, 0x964C), (0x9678, 0x9678), (0x96F6, 0x96F6), (0xA6E6, 0xA6EF),
   (0xA830, 0xA835), (0xF96B, 0xF96B), (0xF973, 0xF973), (0xF978, 0xF978), (0xF9B2, 0xF9B2),
   (0xF9D1, 0xF9D1), (0xF9D3, 0xF9D3), (0xF9FD, 0xF9FD), (0x10107, 0x10133), (0x10140, 0x10178),
   (0x1018A, 0x1018B), (0x102E1, 0x102FB), (0x10320, 0x10323), (0x10341, 0x10341),
   (0x1034A, 0x1034A), (0x103D1, 0x103D5), (0x10858, 0x1085F), (0x10879, 0x1087F),
   (0x108A7, 0x108AF), (0x108FB, 0x108FF), (0x10916, 0x1091B), (0x109BC, 0x109BD),
   (0x109C0, 0x109CF), (0x109D2, 0x109FF), (0x10A44, 0x10A48), (0x10A7D, 0x10A7E),
   (0x10A9D, 0x10A9F), (0x10AEB, 0x10AEF), (0x10B58, 0x10B5F), (0x10B78, 0x10B7F),
   (0x10BA9, 0x10BAF), (0x10CFA, 0x10CFF), (0x10E69, 0x10E7E), (0x10F1D, 0x10F26),
   (0x10F51, 0x10F54), (0x10FC5, 0x10FCB), (0x1105B, 0x11065), (0x111E1, 0x111F4),
   (0x1173A, 0x1173B), (0x118EA, 0x118F2), (0x11C5A, 0x11C6C), (0x11FC0, 0x11FD4),
   (0x12400, 0x1246E), (0x16B5B, 0x16B61), (0x16E80, 0x16E96), (0x1D2E0, 0x1D2F3),
   (0x1D360, 0x1D378), (0x1E8C7, 0x1E8CF), (0x1EC71, 0x1ECAB), (0x1ECAD, 0x1ECAF),
   (0x1ECB1, 0x1ECB4), (0x1ED01, 0x1ED2D), (0x1ED2F, 0x1ED3D), (0x1F10B, 0x1F10C),
   (0x20001, 0x20001), (0x20064, 0x20064), (0x200E2, 0x200E2), (0x20121, 0x20121),
   (0x2092A, 0x2092A), (0x20983, 0x20983), (0x2098C, 0x2098C), (0x2099C, 0x2099C),
   (0x20AEA, 0x20AEA), (0x20AFD, 0x20AFD), (0x20B19, 0x20B19), (0x22390, 0x22390),
   (0x22998, 0x22998), (0x23B1B, 0x23B1B), (0x2626D, 0x2626D), (0x2F890, 0x2F890)]

/-- The letters whose capital at the start of a word is none of those that the rules give. -/
def titleLong : List (Nat × List Nat) :=
  [(0x149, [0x2BC, 0x4E]), (0x1FB2, [0x1FBA, 0x345]), (0x1FB3, [0x1FBC]), (0x1FB4, [0x386, 0x345]),
   (0x1FB7, [0x391, 0x342, 0x345]), (0x1FBC, [0x1FBC]), (0x1FC2, [0x1FCA, 0x345]),
   (0x1FC3, [0x1FCC]), (0x1FC4, [0x389, 0x345]), (0x1FC7, [0x397, 0x342, 0x345]),
   (0x1FCC, [0x1FCC]), (0x1FF2, [0x1FFA, 0x345]), (0x1FF3, [0x1FFC]), (0x1FF4, [0x38F, 0x345]),
   (0x1FF7, [0x3A9, 0x342, 0x345]), (0x1FFC, [0x1FFC])]

/-! ### Characters -/

/-- Whether a character is a blank. -/
def isBlank (c : Char) : Bool :=
  let n := c.toNat
  (9 ≤ n && n ≤ 13) || (28 ≤ n && n ≤ 32) || (0x2000 ≤ n && n ≤ 0x200A) ||
    [0x85, 0xA0, 0x1680, 0x2028, 0x2029, 0x202F, 0x205F, 0x3000].contains n

/-- Whether a character ends a line. -/
def isLineBreak (c : Char) : Bool :=
  let n := c.toNat
  (10 ≤ n && n ≤ 13) || (28 ≤ n && n ≤ 30) || [0x85, 0x2028, 0x2029].contains n

/-- Whether a character is a letter. -/
def isLetter (c : Char) : Bool :=
  c.isAlpha || extraLetterSpans.has c || (identifierStartSpans.has c && !nonLetterSpans.has c)

/-- Whether a character is made of a capital and a small letter. -/
def isTitle (c : Char) : Bool :=
  titleSpans.has c

/-- Whether a character is a capital. -/
def isCapital (c : Char) : Bool :=
  c.isUpper || (0x80 ≤ c.toNat &&
    ((lowerChar c != [c] && !isTitle c) || singleCapitalSpans.has c))

/-- Whether a character is a small letter. -/
def isSmall (c : Char) : Bool :=
  c.isLower || (0x80 ≤ c.toNat && ((upperChar c != [c] && !isTitle c) || singleSmallSpans.has c))

/-- Whether a character is a digit. -/
def isDigit (c : Char) : Bool :=
  isDecimalDigit c || digitSpans.has c

/-- Whether a character stands for a number. -/
def isNumeral (c : Char) : Bool :=
  isDigit c || numeralSpans.has c

/-- The capital of a letter at the start of a word. -/
def titleChar (c : Char) : List Char :=
  let n := c.toNat
  match titleLong.lookup n with
  | some image => image.map Char.ofNat
  | none =>
    if 0x1C4 ≤ n && n ≤ 0x1CC then [Char.ofNat (0x1C5 + 3 * ((n - 0x1C4) / 3))]
    else if 0x1F1 ≤ n && n ≤ 0x1F3 then [Char.ofNat 0x1F2]
    else if 0x10D0 ≤ n && n ≤ 0x10FF then [c]
    else if 0x1F80 ≤ n && n ≤ 0x1FAF then [Char.ofNat (n ||| 8)]
    else match upperChar c with
      | [] => []
      | first :: rest => first :: rest.flatMap lowerChar

/-- A character without a case: letters that differ in case only become the same. -/
def foldChar (c : Char) : List Char :=
  let n := c.toNat
  if n = 0x131 then [c]
  else if n = 0x1E9E then ['s', 's']
  else if (0x13A0 ≤ n && n ≤ 0x13FD) || (0xAB70 ≤ n && n ≤ 0xABBF) then upperChar c
  else (upperChar c).flatMap lowerChar

/-- The small letter of a character between two texts, the first in reverse order. -/
def lowerBetween (before : List Char) (c : Char) (rest : List Char) : List Char :=
  if c = 'Σ' then (if meetsCased before && !meetsCased rest then ['ς'] else ['σ'])
  else lowerChar c

/-! ### Scripts -/

/-- How the characters of a script are classed and how their cases are changed. -/
structure Script where
  isBlank : Char → Bool
  isLineBreak : Char → Bool
  isLetter : Char → Bool
  /-- Whether a character is a digit. -/
  isDigit : Char → Bool
  /-- Whether a character stands for a number, or is a letter. -/
  isWordPart : Char → Bool
  isCapital : Char → Bool
  isSmall : Char → Bool
  isTitle : Char → Bool
  isCased : Char → Bool
  upper : Char → List Char
  /-- The capital at the start of a word. -/
  title : Char → List Char
  /-- The small letter between two texts, the first in reverse order. -/
  lower : List Char → Char → List Char → List Char

/-- All characters. -/
def Script.unicode : Script where
  isBlank := Text.isBlank
  isLineBreak := Text.isLineBreak
  isLetter := Text.isLetter
  isDigit := Text.isDigit
  isWordPart c := Text.isLetter c || isNumeral c
  isCapital := Text.isCapital
  isSmall := Text.isSmall
  isTitle := Text.isTitle
  isCased c := casedSpans.has c || c.isAlpha
  upper := upperChar
  title := titleChar
  lower := lowerBetween

/-- ASCII; other characters are of no class. -/
def Script.ascii : Script where
  isBlank c := c = ' ' || (9 ≤ c.toNat && c.toNat ≤ 13)
  isLineBreak c := c = '\n' || c = '\r'
  isLetter := Char.isAlpha
  isDigit := Char.isDigit
  isWordPart := Char.isAlphanum
  isCapital := Char.isUpper
  isSmall := Char.isLower
  isTitle _ := false
  isCased := Char.isAlpha
  upper c := [c.toUpper]
  title c := [c.toUpper]
  lower _ c _ := [c.toLower]

namespace Script

/-- Whether a text is not empty and all its characters are of a class. -/
def allOf (is : Char → Bool) (s : List Char) : Bool :=
  !s.isEmpty && s.all is

/-- Whether a text has letters with a case and all of them are capitals. -/
def allCapital (script : Script) (s : List Char) : Bool :=
  s.any script.isCapital && !s.any fun c => script.isSmall c || script.isTitle c

/-- Whether a text has letters with a case and all of them are small. -/
def allSmall (script : Script) (s : List Char) : Bool :=
  s.any script.isSmall && !s.any fun c => script.isCapital c || script.isTitle c

/-- Whether the words of a text, which goes on with `inWord` set, start with capitals and go on with
small letters. -/
def capitalsLead (script : Script) : (inWord : Bool) → List Char → Bool
  | _, [] => true
  | inWord, c :: rest =>
    if script.isCapital c || script.isTitle c then !inWord && capitalsLead script true rest
    else if script.isSmall c then inWord && capitalsLead script true rest
    else capitalsLead script false rest

/-- Whether a text has words, and all of them start with capitals and go on with small letters. -/
def isTitled (script : Script) (s : List Char) : Bool :=
  capitalsLead script false s &&
    s.any fun c => script.isCapital c || script.isTitle c || script.isSmall c

/-- A text in capitals. -/
def allUpper (script : Script) (s : List Char) : List Char :=
  s.flatMap script.upper

/-- A text in small letters, after the characters `before` in reverse order. -/
def allLower (script : Script) (before : List Char) : List Char → List Char
  | [] => []
  | c :: rest => script.lower before c rest ++ allLower script (c :: before) rest

/-- A text whose first letter is a capital and whose others are small. -/
def capitalized (script : Script) : List Char → List Char
  | [] => []
  | c :: rest => script.title c ++ allLower script [c] rest

/-- A text whose words start with capitals and go on with small letters. -/
def titled (script : Script) (before : List Char) : List Char → List Char
  | [] => []
  | c :: rest =>
    let inWord := (before.head?.map script.isCased).getD false
    (if inWord then script.lower before c rest else script.title c) ++
      titled script (c :: before) rest

/-- A text with capitals for small letters and small letters for capitals. -/
def swapped (script : Script) (before : List Char) : List Char → List Char
  | [] => []
  | c :: rest =>
    (if script.isCapital c then script.lower before c rest
     else if script.isSmall c then script.upper c else [c]) ++ swapped script (c :: before) rest

end Script
end GraphQLTree.Text
