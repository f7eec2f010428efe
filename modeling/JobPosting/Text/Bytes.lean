import JobPosting.Text

/-!
# Bytes of a text

* `Text.bytes`, `Text.byteCount` : the UTF-8 bytes of a text, and how many there are.
* `Text.ofBytes` : reading bytes back, with one replacement character for each longest part that no text has.
* `Text.ofUtf8?` : reading bytes that are a text (`Text.ofUtf8?_eq_some_iff`).
* `Text.units` : the UTF-16 code units of a text.
-/

namespace JobPosting

/-- U+FFFD, which stands for bytes that are no text. -/
def replacement : Char := '\uFFFD'

namespace Text

/-- The UTF-8 bytes of a text. -/
def bytes (t : Text) : List UInt8 := t.flatMap String.utf8EncodeChar

def byteCount (t : Text) : Nat := t.foldl (fun n c => n + c.utf8Size) 0

/-! ## Reading bytes -/

def continues (b : UInt8) : Bool := 0x80 ≤ b && b ≤ 0xBF

/-- How many bytes a character has whose first byte is `b`; none if no character begins so. -/
def lengthOfLead (b : UInt8) : Option Nat :=
  if b < 0x80 then some 1
  else if 0xC2 ≤ b && b ≤ 0xDF then some 2
  else if 0xE0 ≤ b && b ≤ 0xEF then some 3
  else if 0xF0 ≤ b && b ≤ 0xF4 then some 4
  else none

/-- Whether `c` may follow the first byte `b`: no overlong form, no surrogate, nothing beyond U+10FFFF. -/
def mayFollow (b c : UInt8) : Bool :=
  if b = 0xE0 then 0xA0 ≤ c && c ≤ 0xBF
  else if b = 0xED then 0x80 ≤ c && c ≤ 0x9F
  else if b = 0xF0 then 0x90 ≤ c && c ≤ 0xBF
  else if b = 0xF4 then 0x80 ≤ c && c ≤ 0x8F
  else continues c

def low6 (b : UInt8) : Nat := b.toNat % 0x40

/-- The text of some bytes; each longest beginning of a character that is not finished, and each byte that begins
none, becomes one replacement character. -/
def ofBytes : List UInt8 → Text
  | [] => []
  | b :: r =>
    match lengthOfLead b with
    | none => replacement :: ofBytes r
    | some 1 => Char.ofNat b.toNat :: ofBytes r
    | some n =>
      match r with
      | [] => [replacement]
      | c :: r₁ =>
        if ¬ mayFollow b c then replacement :: ofBytes (c :: r₁)
        else if n = 2 then Char.ofNat (b.toNat % 0x20 * 0x40 + low6 c) :: ofBytes r₁
        else match r₁ with
          | [] => [replacement]
          | d :: r₂ =>
            if ¬ continues d then replacement :: ofBytes (d :: r₂)
            else if n = 3 then
              Char.ofNat ((b.toNat % 0x10 * 0x40 + low6 c) * 0x40 + low6 d) :: ofBytes r₂
            else match r₂ with
              | [] => [replacement]
              | e :: r₃ =>
                if ¬ continues e then replacement :: ofBytes (e :: r₃)
                else Char.ofNat (((b.toNat % 0x08 * 0x40 + low6 c) * 0x40 + low6 d) * 0x40 + low6 e) :: ofBytes r₃

/-- The text whose UTF-8 bytes these are, if there is one. -/
def ofUtf8? (bs : List UInt8) : Option Text := bs.toByteArray.utf8Decode?.map Array.toList

/-- The UTF-16 code units of a character. -/
def unitsOf (c : Char) : List Nat :=
  let n := c.toNat
  if n < 0x10000 then [n] else [0xD800 + (n - 0x10000) / 0x400, 0xDC00 + (n - 0x10000) % 0x400]

def units (t : Text) : List Nat := t.flatMap unitsOf

end Text

end JobPosting
