import JobPosting.Text.Bytes
import JobPosting.Text.Numeral

/-!
# Percent encoding

A byte is written as a percent sign and two hexadecimal digits.

* `Text.percentEncode` : every character of a given set is written so, byte by byte; the others stay.
* `Text.percentDecode` : the bytes that a text stands for; a percent sign without two digits stands for itself.
-/

namespace JobPosting

/-- A byte as a percent sign and two digits. -/
def percentByte (b : UInt8) : Text := ['%', hexCapital (b.toNat / 16), hexCapital (b.toNat % 16)]

/-- Controls, DEL and everything outside ASCII are never left as they are. -/
def isControlOrWide (c : Char) : Bool := c.toNat < 0x20 || 0x7F ≤ c.toNat

namespace Text

/-- The text with every character of the set written byte by byte. -/
def percentEncode (set : Char → Bool) (t : Text) : Text :=
  t.flatMap fun c => if set c then (String.utf8EncodeChar c).flatMap percentByte else [c]

/-- The value of a byte that is a hexadecimal digit. -/
def hexByte? (b : UInt8) : Option Nat := digitValue? 16 (Char.ofNat b.toNat)

/-- Bytes with their percent signs resolved. -/
def percentDecodeBytes : List UInt8 → List UInt8
  | [] => []
  | b :: r =>
    if b = 0x25 then
      match r with
      | h :: l :: rest =>
        match hexByte? h, hexByte? l with
        | some x, some y => UInt8.ofNat (x * 16 + y) :: percentDecodeBytes rest
        | _, _ => b :: percentDecodeBytes (h :: l :: rest)
      | [h] => [b, h]
      | [] => [b]
    else b :: percentDecodeBytes r

def percentDecode (t : Text) : List UInt8 := percentDecodeBytes (bytes t)

end Text

end JobPosting
