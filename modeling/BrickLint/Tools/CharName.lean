import BrickLint.Text.After
import BrickLint.Tools.CharName.Alias
import BrickLint.Tools.CharName.Alphabets
import BrickLint.Tools.CharName.Ancient
import BrickLint.Tools.CharName.EastAsian
import BrickLint.Tools.CharName.Forms
import BrickLint.Tools.CharName.Pictographs
import BrickLint.Tools.CharName.Symbols
import BrickLint.Text.Interval

/-!
# Names of characters

Every character has a name. Most names are listed in tables, from which a name is looked up without
regard to case. The names of ideographs end in their code point, and the names of Korean syllables
spell them, so these are not listed.

In a table a name starts with a small letter, which tells how many words it shares with the name
before it, and goes on with its other words. Its code point follows that of the name before it,
unless it is given in front of the name. The rows of a table are read one after the other.
-/

namespace BrickLint.Text

/-- The tables of names. -/
def nameTables : List (List String) :=
  [alphabetNames, symbolNames, eastAsianNames, formNames, ancientNames, pictographNames,
    furtherNames]

/-- The mark in front of a code point. -/
def codeMark : Char :=
  '@'

/-- The value of a hexadecimal digit with a capital letter. -/
def capitalHexValue? (c : Char) : Option Nat :=
  if c.isDigit then some (c.toNat - '0'.toNat)
  else if 'A' ≤ c ∧ c ≤ 'F' then some (c.toNat - 'A'.toNat + 10)
  else none

/-- The number that hexadecimal digits with capital letters spell. -/
def capitalHex? (digits : List Char) : Option Nat :=
  if digits.isEmpty then none
  else digits.foldlM (fun value c => (capitalHexValue? c).map (16 * value + ·)) 0

/-- How far a table has been read. -/
structure NameReader where
  /-- The code point of the current name. -/
  code : Nat := 0
  /-- The words of the current name except the last one. -/
  words : List (List Char) := []
  /-- The letters of the last word, latest first. -/
  letters : List Char := []
  /-- Whether a code point is being read, so that there is no current name. -/
  inCode : Bool := true

namespace NameReader

/-- The words of the current name. -/
def name (r : NameReader) : List (List Char) :=
  if r.letters.isEmpty then r.words else r.words ++ [r.letters.reverse]

/-- Reads the next character of a table. -/
def next (r : NameReader) (c : Char) : NameReader :=
  if c = codeMark then { code := 0, words := r.name }
  else if c.isLower then
    { code := if r.inCode then r.code else r.code + 1
      words := r.name.take (c.toNat - 'a'.toNat)
      inCode := false }
  else if r.inCode then { r with code := 16 * r.code + (capitalHexValue? c).getD 0 }
  else if c = ' ' then { r with words := r.name, letters := [] }
  else { r with letters := c :: r.letters }

/-- The code point of a name in the rest of a table. -/
def find? (r : NameReader) (name : List (List Char)) : List Char → Option Nat
  | [] => if r.name = name then some r.code else none
  | c :: cs =>
    if (c = codeMark ∨ c.isLower) ∧ !r.inCode ∧ r.name = name then some r.code
    else (r.next c).find? name cs

end NameReader

/-- The code point of a listed name, which is given in capital letters. -/
def listedName? (name : List Char) : Option Nat :=
  nameTables.findSome? fun rows =>
    NameReader.find? {} (name.splitOn ' ') (rows.flatMap String.toList)

/-- The starts of names that end in their code point, and the code points that have them. -/
def codedNames : List (String × List (Nat × Nat)) :=
  [("CJK COMPATIBILITY IDEOGRAPH-", [(0xf900, 0xfa6d), (0xfa70, 0xfad9), (0x2f800, 0x2fa1d)]),
    ("KHITAN SMALL SCRIPT CHARACTER-", [(0x18b00, 0x18cd5)]),
    ("NUSHU CHARACTER-", [(0x1b170, 0x1b2fb)])]

/-- The code point of a name that ends in it, which is given in capital letters. The digits do not
start with zero. -/
def codedName? (name : List Char) : Option Nat :=
  codedNames.findSome? fun (start, codes) => do
    let digits ← afterWord? [start] name
    let code ← capitalHex? digits
    if digits.head? ≠ some '0' ∧ inIntervals codes code then some code else none

/-- The start of the names of unified ideographs. -/
def ideographStart : String :=
  "CJK UNIFIED IDEOGRAPH-"

/-- The code points of the unified ideographs. -/
def ideographIntervals : List (Nat × Nat) :=
  [(0x3400, 0x4dbf), (0x4e00, 0x9fff), (0x20000, 0x2a6df), (0x2a700, 0x2b738), (0x2b740, 0x2b81d),
    (0x2b820, 0x2cea1), (0x2ceb0, 0x2ebe0), (0x30000, 0x3134a)]

/-- The code point of a unified ideograph with four or five digits. -/
def ideograph? (digits : List Char) : Option Nat := do
  let code ← capitalHex? digits
  if (digits.length = 4 ∨ digits.length = 5) ∧ inIntervals ideographIntervals code then some code
  else none

/-- The start of the names of Korean syllables. -/
def syllableStart : String :=
  "HANGUL SYLLABLE "

/-- The sounds at the start of a Korean syllable. -/
def leadingSounds : List String :=
  ["G", "GG", "N", "D", "DD", "R", "M", "B", "BB", "S", "SS", "", "J", "JJ", "C", "K", "T", "P",
    "H"]

/-- The vowels of a Korean syllable. -/
def vowelSounds : List String :=
  ["A", "AE", "YA", "YAE", "EO", "E", "YEO", "YE", "O", "WA", "WAE", "OE", "YO", "U", "WEO", "WE",
    "WI", "YU", "EU", "YI", "I"]

/-- The sounds at the end of a Korean syllable. -/
def trailingSounds : List String :=
  ["", "G", "GG", "GS", "N", "NJ", "NH", "D", "L", "LG", "LM", "LB", "LS", "LT", "LP", "LH", "M",
    "B", "BS", "S", "SS", "NG", "J", "C", "K", "T", "P", "H"]

/-- The longest sound at the start of a text, as its place in a list, and the rest of the text. -/
def longestSound? (sounds : List String) (cs : List Char) : Option (Nat × List Char) :=
  sounds.zipIdx.foldl (fun best (sound, index) =>
    match sound.toList.isPrefixOf? cs with
    | none => best
    | some rest => if best.all fun b => rest.length < b.2.length then some (index, rest) else best)
    none

/-- The first of the Korean syllables. -/
def firstSyllable : Nat :=
  0xac00

/-- The code point of the Korean syllable that sounds spell. -/
def syllable? (sounds : List Char) : Option Nat := do
  let (leading, rest) ← longestSound? leadingSounds sounds
  let (vowel, rest) ← longestSound? vowelSounds rest
  let (trailing, rest) ← longestSound? trailingSounds rest
  let place := (leading * vowelSounds.length + vowel) * trailingSounds.length + trailing
  if rest.isEmpty then some (firstSyllable + place) else none

/-- The code point of the character with a name. Case does not matter, except in the names of
unified ideographs and Korean syllables. -/
def charNamed? (name : List Char) : Option Nat :=
  match afterWord? [syllableStart] name, afterWord? [ideographStart] name with
  | some sounds, _ => syllable? sounds
  | none, some digits => ideograph? digits
  | none, none =>
    let capitals := name.map Char.toUpper
    (codedName? capitals).orElse fun _ => listedName? capitals

end BrickLint.Text
