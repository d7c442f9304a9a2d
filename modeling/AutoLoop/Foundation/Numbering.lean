import AutoLoop.Foundation.Text
import Mathlib.Logic.Equiv.List
import Mathlib.Tactic.DeriveEncodable

/-!
# Texts of numbered values

Values that can be numbered have a text, the decimal form of their number, from
which they can be read back.
-/

namespace AutoLoop

open Encodable

instance encodableChar : Encodable Char := ofLeftInverse Char.toNat Char.ofNat Char.ofNat_toNat

instance encodableString : Encodable String :=
  ofLeftInverse String.toList String.ofList fun _ => String.ofList_toList

instance encodableUInt32 : Encodable UInt32 :=
  ofLeftInverse UInt32.toNat UInt32.ofNat fun _ => UInt32.ofNat_toNat

instance encodableUInt64 : Encodable UInt64 :=
  ofLeftInverse UInt64.toNat UInt64.ofNat fun _ => UInt64.ofNat_toNat

instance encodableInt64 : Encodable Int64 :=
  ofLeftInverse Int64.toInt Int64.ofInt Int64.ofInt_toInt

variable {Value : Type} [Encodable Value]

def numberText (value : Value) : String := (encode value).repr

def ofNumberText (text : String) : Option Value :=
  decode (Nat.ofDigitChars 10 text.toList 0)

theorem ofNumberText_numberText (value : Value) :
    ofNumberText (numberText value) = some value := by
  rw [ofNumberText, numberText, Nat.toList_repr, Nat.ofDigitChars_ten_toDigits, encodek]

theorem numberText_ne {text : String} {char : Char} (membership : char ∈ text.toList)
    (notDigit : char.isDigit = false) (value : Value) : numberText value ≠ text := by
  rintro rfl
  have isDigit := Text.isDigit_of_mem_repr membership
  rw [notDigit] at isDigit
  cases isDigit

end AutoLoop
