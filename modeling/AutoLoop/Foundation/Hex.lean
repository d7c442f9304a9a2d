import Mathlib.Data.List.Basic
import Mathlib.Data.Nat.ModEq

/-!
# Hexadecimal codecs

The text form of byte strings is a parameter: a codec whose decoding undoes its
encoding and whose encodings consist of lower-case hexadecimal digits.  The
usual two-digits-per-byte codec is one.
-/

namespace AutoLoop

/-- Lower-case hexadecimal digits. -/
def isHexDigit (char : Char) : Bool :=
  char.isDigit || ('a' ≤ char && char ≤ 'f')

/-- An encoding of bytes as text, with the laws formats rely on. -/
structure HexCodec where
  encode : ByteArray → String
  decode : String → Option ByteArray
  decode_encode : ∀ bytes, decode (encode bytes) = some bytes
  encode_digits : ∀ bytes, ∀ char ∈ (encode bytes).toList, isHexDigit char = true

namespace HexCodec

/-- The digit of a value below sixteen. -/
def digit (value : Nat) : Char :=
  if value < 10 then Char.ofNat (48 + value) else Char.ofNat (87 + value)

/-- The value of a digit in either case. -/
def digitValue (char : Char) : Option Nat :=
  if '0' ≤ char ∧ char ≤ '9' then some (char.toNat - 48)
  else if 'a' ≤ char ∧ char ≤ 'f' then some (char.toNat - 87)
  else if 'A' ≤ char ∧ char ≤ 'F' then some (char.toNat - 55)
  else none

def encodeList (bytes : List UInt8) : List Char :=
  bytes.flatMap fun byte => [digit (byte.toNat / 16), digit (byte.toNat % 16)]

def decodeList : List Char → Option (List UInt8)
  | [] => some []
  | [_] => none
  | high :: low :: rest => do
      let high ← digitValue high
      let low ← digitValue low
      let rest ← decodeList rest
      return UInt8.ofNat (high * 16 + low) :: rest

theorem digitValue_digit : ∀ value < 16, digitValue (digit value) = some value := by
  decide

theorem isHexDigit_digit : ∀ value < 16, isHexDigit (digit value) = true := by
  decide

theorem decodeList_encodeList (bytes : List UInt8) :
    decodeList (encodeList bytes) = some bytes := by
  induction bytes with
  | nil => rfl
  | cons byte rest ih =>
    have bound := byte.toNat_lt
    have high := digitValue_digit (byte.toNat / 16) (by omega)
    have low := digitValue_digit (byte.toNat % 16) (by omega)
    have whole : UInt8.ofNat (byte.toNat / 16 * 16 + byte.toNat % 16) = byte := by
      rw [Nat.div_add_mod', UInt8.ofNat_toNat]
    have shape : encodeList (byte :: rest) =
        digit (byte.toNat / 16) :: digit (byte.toNat % 16) :: encodeList rest := rfl
    simp only [shape, decodeList, high, low, ih, Option.bind_eq_bind, Option.bind_some, whole]
    rfl

theorem encodeList_digits (bytes : List UInt8) :
    ∀ char ∈ encodeList bytes, isHexDigit char = true := by
  intro char membership
  obtain ⟨byte, -, written⟩ := List.mem_flatMap.mp membership
  have bound := byte.toNat_lt
  rcases List.mem_pair.mp written with rfl | rfl
  · exact isHexDigit_digit _ (by omega)
  · exact isHexDigit_digit _ (by omega)

/-- Two lower-case digits for each byte. -/
def lowercase : HexCodec where
  encode bytes := String.ofList (encodeList bytes.data.toList)
  decode text := (decodeList text.toList).map fun bytes => ⟨bytes.toArray⟩
  decode_encode bytes := by
    simp [decodeList_encodeList]
  encode_digits bytes := by
    intro char membership
    rw [String.toList_ofList] at membership
    exact encodeList_digits _ char membership

instance : Inhabited HexCodec := ⟨lowercase⟩

example : lowercase.encode "k|".toUTF8 = "6b7c" := by decide

end HexCodec

/-! ## Text fields -/

/-- Decoding bytes as UTF-8 undoes `as_bytes`. -/
theorem fromUTF8?_toUTF8 (text : String) : String.fromUTF8? text.toUTF8 = some text := by
  have valid : text.toUTF8.IsValidUTF8 := text.isValidUTF8
  rw [String.fromUTF8?, dif_pos valid]
  rfl

theorem HexCodec.encode_toUTF8_injective (codec : HexCodec) :
    Function.Injective fun text : String => codec.encode text.toUTF8 := by
  intro first second same
  have bytes := congrArg codec.decode same
  rw [codec.decode_encode, codec.decode_encode, Option.some.injEq] at bytes
  have texts := congrArg String.fromUTF8? bytes
  rw [fromUTF8?_toUTF8, fromUTF8?_toUTF8, Option.some.injEq] at texts
  exact texts

theorem not_mem_of_isHexDigit {char : Char} {text : List Char}
    (digits : ∀ other ∈ text, isHexDigit other = true)
    (foreign : isHexDigit char = false) : char ∉ text := by
  intro membership
  have isDigit := digits char membership
  rw [foreign] at isDigit
  cases isDigit

end AutoLoop

/-!
## Words in hexadecimal

`{:016x}`: a word is determined by its sixteen digits.
-/

namespace AutoLoop.HexCodec

/-- `{:016x}` of a 64-bit word. -/
def word (value : UInt64) : String :=
  String.ofList ((List.range 16).map fun place =>
    digit (value.toNat / 16 ^ (15 - place) % 16))

end AutoLoop.HexCodec
