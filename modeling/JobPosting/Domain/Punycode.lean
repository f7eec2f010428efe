import JobPosting.Text

/-!
# Punycode

Labels outside ASCII are written in letters, digits and hyphens: first the ASCII characters of the label,
then, for every other character in ascending order, how far it lies from the one before it. Distances are numbers of a
mixed base whose digits grow with the distances seen so far.

* `Punycode.encode` : a label in Punycode.
* `Punycode.decode?` : the label that is written so.
-/

namespace JobPosting.Punycode

/-! ## Digits -/

/-- The digit of a value below 36: letters, then decimal digits. -/
def digit (v : Nat) : Char := if v < 26 then Char.ofNat (0x61 + v) else Char.ofNat (0x30 + (v - 26))

def value? (c : Char) : Option Nat :=
  let n := c.toNat
  if 0x61 ≤ n && n ≤ 0x7A then some (n - 0x61)
  else if 0x41 ≤ n && n ≤ 0x5A then some (n - 0x41)
  else if 0x30 ≤ n && n ≤ 0x39 then some (n - 0x30 + 26)
  else none

/-- A digit below the threshold ends a number. The threshold of a place is between 1 and 26. -/
def threshold (place bias : Nat) : Nat := min 26 (max 1 (place - bias))

theorem threshold_pos (place bias : Nat) : 0 < threshold place bias := by unfold threshold; omega

theorem threshold_le (place bias : Nat) : threshold place bias ≤ 26 := by unfold threshold; omega

/-- The digits of a number from a place on; places are counted in steps of 36. -/
def digits (bias place n : Nat) : Text :=
  let t := threshold place bias
  if n < t then [digit n]
  else digit (t + (n - t) % (36 - t)) :: digits bias (place + 36) ((n - t) / (36 - t))
termination_by n
decreasing_by
  have h := threshold_pos place bias
  exact Nat.lt_of_le_of_lt (Nat.div_le_self _ _) (by omega)

/-- The number of places by which thresholds move for distances of about `d`. -/
def shift (d : Nat) : Nat :=
  if 455 < d then 36 + shift (d / 35) else 36 * d / (d + 38)
termination_by d
decreasing_by exact Nat.div_lt_self (by omega) (by omega)

/-- The bias after a distance `d`, when the label has `count` characters; the first distance is damped. -/
def adapt (d count : Nat) (isFirst : Bool) : Nat :=
  let d := if isFirst then d / 700 else d / 2
  shift (d + d / count)

/-! ## Writing -/

/-- What has been written: the digits, the distance since the last one, the bias, and how many characters are done. -/
structure Writer where
  out : Text
  distance : Nat
  bias : Nat
  count : Nat

namespace Writer

/-- One character of the label seen while the characters `m` are written: smaller ones lie in between. -/
def see (basic m : Nat) (w : Writer) (c : Char) : Writer :=
  if c.toNat < m then { w with distance := w.distance + 1 }
  else if c.toNat = m then
    { out := w.out ++ digits w.bias 36 w.distance
      distance := 0
      bias := adapt w.distance (w.count + 1) (w.count = basic)
      count := w.count + 1 }
  else w

/-- The characters of a label written one code point after the other, from `n` on. -/
def writeAll (label : Text) (basic : Nat) (w : Writer) (n : Nat) : List Nat → Writer
  | [] => w
  | m :: ms =>
    let w := { w with distance := w.distance + (m - n) * (w.count + 1) }
    let w := label.foldl (see basic m) w
    writeAll label basic { w with distance := w.distance + 1 } (m + 1) ms

end Writer

/-- A number put into an ascending list, unless it is there. -/
def insertNew (n : Nat) : List Nat → List Nat
  | [] => [n]
  | m :: ms => if n < m then n :: m :: ms else if n = m then m :: ms else m :: insertNew n ms

/-- A label in Punycode. -/
def encode (label : Text) : Text :=
  let basic := label.filter Text.isAscii
  let wide := (label.filter (!Text.isAscii ·)).foldr (fun c ns => insertNew c.toNat ns) []
  let tail := (Writer.writeAll label basic.length ⟨[], 0, 72, basic.length⟩ 0x80 wide).out
  if basic = [] then tail else basic ++ '-' :: tail

/-! ## Reading -/

/-- What has been read: the label so far, the last code point and where the next one goes, the bias, and the number
that is being read, with the weight and the place of its next digit. -/
structure Reader where
  label : Text
  code : Nat
  position : Nat
  bias : Nat
  number : Nat
  weight : Nat
  place : Nat

namespace Reader

/-- Numbers stay below this bound. -/
def bound : Nat := 0x100000000

/-- The reader after a number: the label has one more character. -/
def insert? (r : Reader) (number : Nat) : Option Reader :=
  let count := r.label.length + 1
  let position := r.position + number
  let code := r.code + position / count
  if bound ≤ position || !decide code.isValidChar then none
  else some
    { label := r.label.insertIdx (position % count) (Char.ofNat code)
      code := code
      position := position % count + 1
      bias := adapt number count (r.position = 0)
      number := 0
      weight := 1
      place := 36 }

/-- The reader after one more digit. -/
def step? (r : Reader) (c : Char) : Option Reader :=
  match value? c with
  | none => none
  | some v =>
    let number := r.number + v * r.weight
    let t := threshold r.place r.bias
    if bound ≤ r.position + number then none
    else if v < t then r.insert? number
    else if bound ≤ r.weight * (36 - t) then none
    else some { r with number := number, weight := r.weight * (36 - t), place := r.place + 36 }

end Reader

/-- The text before the last hyphen and the text behind it; a hyphen that begins the text does not count. -/
def cutBasic (t : Text) : Text × Text :=
  let tail := (t.reverse.takeWhile (· ≠ '-')).reverse
  if tail.length + 1 < t.length then (t.take (t.length - tail.length - 1), tail)
  else ([], t)

/-- The label that is written in Punycode as `t`, which has ASCII characters only. -/
def decode? (t : Text) : Option Text :=
  let (basic, tail) := cutBasic t
  if !basic.all Text.isAscii then none
  else match tail.foldlM Reader.step? ⟨basic, 0x80, 0, 72, 0, 1, 36⟩ with
    | some r => if r.place = 36 then some r.label else none
    | none => none

end JobPosting.Punycode
