import BrickLint.Text.Utf8
import Mathlib.Data.List.Basic

/-!
# UTF-8 is read back

Reading the UTF-8 bytes of a text gives the text. The decoder reads the bytes of one character
without a replacement and stands between two characters again: the first byte of a character says
how many bytes follow, and its bounds on the second byte leave room for every character that is
written with that first byte.
-/

namespace BrickLint.Text

/-- A small number is a byte. -/
theorem toNat_ofNat_of_lt {n : Nat} (h : n < 256) : (UInt8.ofNat n).toNat = n := by
  simpa using Nat.mod_eq_of_lt h

variable {read : List Char} {p : PartialChar} {byte : UInt8}

/-- A byte within the bounds is added to the open character. -/
theorem step_of_missing (hmissing : 1 < p.missing) (hlow : p.low ≤ byte.toNat)
    (hhigh : byte.toNat ≤ p.high) :
    Utf8State.step ⟨read, some p⟩ byte =
      ⟨read, some ⟨p.missing - 1, p.bits * 64 + (byte.toNat - 0x80), 0x80, 0xbf⟩⟩ := by
  have hopen : ¬p.missing ≤ 1 := by omega
  simp [Utf8State.step, hlow, hhigh, hopen]

/-- The last byte within the bounds finishes the open character. -/
theorem step_of_last (hmissing : p.missing = 1) (hlow : p.low ≤ byte.toNat)
    (hhigh : byte.toNat ≤ p.high) :
    Utf8State.step ⟨read, some p⟩ byte =
      ⟨Char.ofNat (p.bits * 64 + (byte.toNat - 0x80)) :: read, none⟩ := by
  simp [Utf8State.step, hlow, hhigh, hmissing]

/-- A first byte that promises more bytes opens a character. -/
theorem step_of_first (hbyte : 0x80 ≤ byte.toNat)
    (hfirst : PartialChar.ofFirst? byte.toNat = some p) :
    Utf8State.step ⟨read, none⟩ byte = ⟨read, some p⟩ := by
  have hwide : ¬byte.toNat < 0x80 := by omega
  simp [Utf8State.step, startChar, hwide, hfirst]

/-- The first byte of a code point of three bytes allows the second one. -/
theorem ofFirst?_three {v : Nat} (hlow : 0x800 ≤ v) (hhigh : v < 0x10000)
    (hscalar : v < 0xd800 ∨ 0xdfff < v) :
    ∃ low high, PartialChar.ofFirst? (v / 4096 % 16 + 224) = some ⟨2, v / 4096, low, high⟩ ∧
      low ≤ v / 64 % 64 + 128 ∧ v / 64 % 64 + 128 ≤ high := by
  have hmod : v / 4096 % 16 = v / 4096 := Nat.mod_eq_of_lt (by omega)
  rw [hmod]
  by_cases hleast : v / 4096 = 0
  · -- Shorter forms of the same code point are excluded.
    exact ⟨0xa0, 0xbf, by simp [PartialChar.ofFirst?, hleast], by omega, by omega⟩
  · by_cases hsurrogate : v / 4096 = 0xd
    · exact ⟨0x80, 0x9f, by simp [PartialChar.ofFirst?, hsurrogate], by omega, by omega⟩
    · refine ⟨0x80, 0xbf, ?_, by omega, by omega⟩
      have htwo : ¬(0xc2 ≤ v / 4096 + 224 ∧ v / 4096 + 224 ≤ 0xdf) := by omega
      have he0 : v / 4096 + 224 ≠ 0xe0 := by omega
      have hed : v / 4096 + 224 ≠ 0xed := by omega
      have hthree : 0xe1 ≤ v / 4096 + 224 ∧ v / 4096 + 224 ≤ 0xef := by omega
      rw [PartialChar.ofFirst?, if_neg htwo, if_neg he0, if_neg hed, if_pos hthree,
        Nat.add_sub_cancel]

/-- The first byte of a code point of four bytes allows the second one. -/
theorem ofFirst?_four {v : Nat} (hlow : 0x10000 ≤ v) (hhigh : v < 0x110000) :
    ∃ low high, PartialChar.ofFirst? (v / 262144 % 8 + 240) = some ⟨3, v / 262144, low, high⟩ ∧
      low ≤ v / 4096 % 64 + 128 ∧ v / 4096 % 64 + 128 ≤ high := by
  have hmod : v / 262144 % 8 = v / 262144 := Nat.mod_eq_of_lt (by omega)
  rw [hmod]
  by_cases hleast : v / 262144 = 0
  · exact ⟨0x90, 0xbf, by simp [PartialChar.ofFirst?, hleast], by omega, by omega⟩
  · by_cases hlast : v / 262144 = 4
    · exact ⟨0x80, 0x8f, by simp [PartialChar.ofFirst?, hlast], by omega, by omega⟩
    · refine ⟨0x80, 0xbf, ?_, by omega, by omega⟩
      have hcases : v / 262144 = 1 ∨ v / 262144 = 2 ∨ v / 262144 = 3 := by omega
      rcases hcases with h | h | h <;> simp [PartialChar.ofFirst?, h]

/-- A code point is no surrogate and not above the last one. -/
theorem toNat_scalar (c : Char) :
    c.toNat < 0x110000 ∧ (c.toNat < 0xd800 ∨ 0xdfff < c.toNat) := by
  rcases c.valid with h | ⟨hlow, hhigh⟩
  · have hc : c.toNat < 0xd800 := h
    exact ⟨by omega, Or.inl hc⟩
  · exact ⟨hhigh, Or.inr hlow⟩

/-- A byte that continues a character, with the six bits that it carries. -/
theorem toNat_continuation (n : Nat) : (UInt8.ofNat (n % 64 + 128)).toNat = n % 64 + 128 :=
  toNat_ofNat_of_lt (by omega)

/-- A code point of two bytes is read. -/
theorem foldl_step_two (read : List Char) {v : Nat} (hlow : 0x80 ≤ v) (hhigh : v < 0x800) :
    [UInt8.ofNat (v / 64 % 32 + 192), UInt8.ofNat (v % 64 + 128)].foldl Utf8State.step
      ⟨read, none⟩ = ⟨Char.ofNat v :: read, none⟩ := by
  have hfirst : (UInt8.ofNat (v / 64 % 32 + 192)).toNat = v / 64 + 192 := by
    rw [toNat_ofNat_of_lt (by omega)]
    omega
  have hopen : PartialChar.ofFirst? (v / 64 + 192) = some ⟨1, v / 64, 0x80, 0xbf⟩ := by
    have htwo : 0xc2 ≤ v / 64 + 192 ∧ v / 64 + 192 ≤ 0xdf := by omega
    rw [PartialChar.ofFirst?, if_pos htwo, Nat.add_sub_cancel]
  have hlast := toNat_continuation v
  have hbits : v / 64 * 64 + (v % 64 + 128 - 0x80) = v := by omega
  rw [List.foldl_cons, step_of_first (by omega) (hfirst ▸ hopen), List.foldl_cons,
    step_of_last rfl (by dsimp only; omega) (by dsimp only; omega), List.foldl_nil, hlast, hbits]

/-- A code point of three bytes is read. -/
theorem foldl_step_three (read : List Char) {v : Nat} (hlow : 0x800 ≤ v) (hhigh : v < 0x10000)
    (hscalar : v < 0xd800 ∨ 0xdfff < v) :
    [UInt8.ofNat (v / 4096 % 16 + 224), UInt8.ofNat (v / 64 % 64 + 128),
      UInt8.ofNat (v % 64 + 128)].foldl Utf8State.step ⟨read, none⟩ =
      ⟨Char.ofNat v :: read, none⟩ := by
  obtain ⟨low, high, hopen, hsecond⟩ := ofFirst?_three hlow hhigh hscalar
  have hfirst : (UInt8.ofNat (v / 4096 % 16 + 224)).toNat = v / 4096 % 16 + 224 :=
    toNat_ofNat_of_lt (by omega)
  have hmiddle := toNat_continuation (v / 64)
  have hlast := toNat_continuation v
  have hbits : (v / 4096 * 64 + (v / 64 % 64 + 128 - 0x80)) * 64 + (v % 64 + 128 - 0x80) = v := by
    omega
  rw [List.foldl_cons, step_of_first (by omega) (hfirst.symm ▸ hopen), List.foldl_cons,
    step_of_missing (by simp) (by dsimp only; omega) (by dsimp only; omega), List.foldl_cons,
    step_of_last rfl (by dsimp only; omega) (by dsimp only; omega), List.foldl_nil, hmiddle, hlast,
    hbits]

/-- A code point of four bytes is read. -/
theorem foldl_step_four (read : List Char) {v : Nat} (hlow : 0x10000 ≤ v)
    (hhigh : v < 0x110000) :
    [UInt8.ofNat (v / 262144 % 8 + 240), UInt8.ofNat (v / 4096 % 64 + 128),
      UInt8.ofNat (v / 64 % 64 + 128), UInt8.ofNat (v % 64 + 128)].foldl Utf8State.step
      ⟨read, none⟩ = ⟨Char.ofNat v :: read, none⟩ := by
  obtain ⟨low, high, hopen, hsecond⟩ := ofFirst?_four hlow hhigh
  have hfirst : (UInt8.ofNat (v / 262144 % 8 + 240)).toNat = v / 262144 % 8 + 240 :=
    toNat_ofNat_of_lt (by omega)
  have htwo := toNat_continuation (v / 4096)
  have hthree := toNat_continuation (v / 64)
  have hlast := toNat_continuation v
  have hbits : ((v / 262144 * 64 + (v / 4096 % 64 + 128 - 0x80)) * 64 +
      (v / 64 % 64 + 128 - 0x80)) * 64 + (v % 64 + 128 - 0x80) = v := by
    omega
  rw [List.foldl_cons, step_of_first (by omega) (hfirst.symm ▸ hopen), List.foldl_cons,
    step_of_missing (by simp) (by dsimp only; omega) (by dsimp only; omega), List.foldl_cons,
    step_of_missing (by simp) (by dsimp only; omega) (by dsimp only; omega), List.foldl_cons,
    step_of_last rfl (by dsimp only; omega) (by dsimp only; omega), List.foldl_nil, htwo, hthree,
    hlast, hbits]

/-- Between two characters, the bytes of a character are read as the character. -/
theorem foldl_step_utf8EncodeChar (read : List Char) (c : Char) :
    (String.utf8EncodeChar c).foldl Utf8State.step ⟨read, none⟩ = ⟨c :: read, none⟩ := by
  obtain ⟨hmax, hscalar⟩ := toNat_scalar c
  have hback : Char.ofNat c.toNat = c := Char.ofNat_toNat c
  rw [String.utf8EncodeChar.eq_1, show c.val.toNat = c.toNat from rfl]
  split
  case isTrue hone =>
    have hbyte : (UInt8.ofNat c.toNat).toNat = c.toNat := toNat_ofNat_of_lt (by omega)
    have hsmall : c.toNat < 0x80 := by omega
    rw [List.foldl_cons, List.foldl_nil]
    simp only [Utf8State.step, startChar, hbyte, hsmall, if_true, hback]
  case isFalse hone =>
    split
    case isTrue htwo => rw [foldl_step_two read (by omega) (by omega), hback]
    case isFalse htwo =>
      split
      case isTrue hthree => rw [foldl_step_three read (by omega) (by omega) hscalar, hback]
      case isFalse hthree => rw [foldl_step_four read (by omega) hmax, hback]

/-- Reading the bytes of a text adds its characters. -/
theorem foldl_step_encodeUtf8 (read text : List Char) :
    (encodeUtf8 text).foldl Utf8State.step ⟨read, none⟩ = ⟨text.reverse ++ read, none⟩ := by
  induction text generalizing read with
  | nil => rfl
  | cons c cs ih =>
    rw [encodeUtf8, List.flatMap_cons, List.foldl_append, foldl_step_utf8EncodeChar,
      ← encodeUtf8, ih]
    simp

/-- The bytes of a text are read as the text. -/
@[simp] theorem decodeUtf8_encodeUtf8 (text : List Char) :
    decodeUtf8 (encodeUtf8 text) = text := by
  rw [decodeUtf8, foldl_step_encodeUtf8]
  simp [Utf8State.finish]

end BrickLint.Text
