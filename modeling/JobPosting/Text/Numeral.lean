import JobPosting.Text

/-!
# Numerals

Digits of a base up to sixteen, and the numbers they denote.

* `digitValue?` : the value of a digit in either letter case.
* `hexDigit`, `hexCapital` : the digit of a value below sixteen.
* `Text.ofNat` : a number in decimal digits.
* `Text.toNat?` : the number that a text of digits denotes, in a given base.
-/

namespace JobPosting

/-- The value of a digit in a base up to sixteen; letters count in either case. -/
def digitValue? (base : Nat) (c : Char) : Option Nat :=
  let n := c.toNat
  let v :=
    if 0x30 ≤ n && n ≤ 0x39 then n - 0x30
    else if 0x61 ≤ n && n ≤ 0x66 then n - 0x61 + 10
    else if 0x41 ≤ n && n ≤ 0x46 then n - 0x41 + 10
    else 16
  if v < base then some v else none

def hexDigit (v : Nat) : Char := if v < 10 then Char.ofNat (0x30 + v) else Char.ofNat (0x61 + (v - 10))

def hexCapital (v : Nat) : Char := if v < 10 then Char.ofNat (0x30 + v) else Char.ofNat (0x41 + (v - 10))

namespace Text

/-- A number in decimal digits. -/
def ofNat (n : Nat) : Text := Nat.toDigits 10 n

/-- A number in hexadecimal digits, without leading zeros. -/
def hexOfNat (n : Nat) : Text := Nat.toDigits 16 n

/-- The number that digits denote, read after the value `acc` of the digits before them. -/
def valueFrom? (base : Nat) : Nat → Text → Option Nat
  | acc, [] => some acc
  | acc, c :: r =>
    match digitValue? base c with
    | some v => valueFrom? base (acc * base + v) r
    | none => none

/-- The number that a text of one digit or more denotes. -/
def toNat? (base : Nat) : Text → Option Nat
  | [] => none
  | t => valueFrom? base 0 t

end Text

end JobPosting
