/-!
# UTF-8

Texts are written as UTF-8 and read back with a replacement character for what is not UTF-8: one
for each longest sequence of bytes that starts a character and cannot be continued, and one for
each byte that starts none.
-/

namespace BrickLint.Text

/-- The UTF-8 bytes of a text. -/
def encodeUtf8 (text : List Char) : List UInt8 :=
  text.flatMap String.utf8EncodeChar

/-- A character of which some bytes have been read. -/
structure PartialChar where
  /-- How many bytes are still missing. -/
  missing : Nat
  /-- The bits read so far. -/
  bits : Nat
  /-- The least value that the next byte may have. -/
  low : Nat
  /-- The greatest value that the next byte may have. -/
  high : Nat

/-- Where the decoder stands: the characters read so far, latest first, and the open one. -/
structure Utf8State where
  /-- The characters read so far, latest first. -/
  read : List Char
  /-- The character that has been started and not finished. -/
  pending : Option PartialChar

/-- The replacement character, which stands for bytes that are not UTF-8. -/
def replacementChar : Char :=
  Char.ofNat 0xfffd

/-- What the first byte of a character of several bytes promises. The bounds on the second byte
exclude overlong forms, surrogates and code points above the last one. -/
def PartialChar.ofFirst? (byte : Nat) : Option PartialChar :=
  if 0xc2 ≤ byte ∧ byte ≤ 0xdf then some ⟨1, byte - 0xc0, 0x80, 0xbf⟩
  else if byte = 0xe0 then some ⟨2, 0, 0xa0, 0xbf⟩
  else if byte = 0xed then some ⟨2, 0xd, 0x80, 0x9f⟩
  else if 0xe1 ≤ byte ∧ byte ≤ 0xef then some ⟨2, byte - 0xe0, 0x80, 0xbf⟩
  else if byte = 0xf0 then some ⟨3, 0, 0x90, 0xbf⟩
  else if 0xf1 ≤ byte ∧ byte ≤ 0xf3 then some ⟨3, byte - 0xf0, 0x80, 0xbf⟩
  else if byte = 0xf4 then some ⟨3, 4, 0x80, 0x8f⟩
  else none

/-- Reads a byte between two characters. -/
def startChar (read : List Char) (byte : Nat) : Utf8State :=
  if byte < 0x80 then ⟨Char.ofNat byte :: read, none⟩
  else
    match PartialChar.ofFirst? byte with
    | some p => ⟨read, some p⟩
    | none => ⟨replacementChar :: read, none⟩

/-- Reads one byte. A byte that cannot continue the open character closes it with a replacement
character and is read as a first byte. -/
def Utf8State.step (s : Utf8State) (byte : UInt8) : Utf8State :=
  match s.pending with
  | none => startChar s.read byte.toNat
  | some p =>
    if p.low ≤ byte.toNat ∧ byte.toNat ≤ p.high then
      let bits := p.bits * 64 + (byte.toNat - 0x80)
      if p.missing ≤ 1 then ⟨Char.ofNat bits :: s.read, none⟩
      else ⟨s.read, some ⟨p.missing - 1, bits, 0x80, 0xbf⟩⟩
    else startChar (replacementChar :: s.read) byte.toNat

/-- The characters read, an open character at the end of the input being replaced. -/
def Utf8State.finish (s : Utf8State) : List Char :=
  (if s.pending.isSome then replacementChar :: s.read else s.read).reverse

/-- The text that UTF-8 bytes stand for. -/
def decodeUtf8 (bytes : List UInt8) : List Char :=
  (bytes.foldl Utf8State.step ⟨[], none⟩).finish

end BrickLint.Text
