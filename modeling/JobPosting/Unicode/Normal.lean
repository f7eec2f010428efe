import JobPosting.Unicode.Composition

/-!
# The composed canonical form

Texts that only differ in how accents and syllables are put together have one composed form: every character is taken
apart, marks are brought into their order, and what can be composed is composed.

* `decompose` : the parts of a text.
* `orderMarks` : marks in ascending order of their classes.
* `compose` : parts put together again.
* `composedForm` : all three.
-/

namespace JobPosting.Unicode

/-! ## Hangul syllables -/

namespace Hangul

/-- The parts of a syllable: a leading consonant, a vowel and perhaps a trailing consonant. -/
def parts? (n : Nat) : Option Text :=
  if 0xAC00 ≤ n && n < 0xAC00 + 11172 then
    let i := n - 0xAC00
    let syllable := [Char.ofNat (0x1100 + i / 588), Char.ofNat (0x1161 + i % 588 / 28)]
    some (if i % 28 = 0 then syllable else syllable ++ [Char.ofNat (0x11A7 + i % 28)])
  else none

/-- The syllable that begins with `a` and goes on with `b`. -/
def join? (a b : Nat) : Option Char :=
  if 0x1100 ≤ a && a < 0x1113 && 0x1161 ≤ b && b < 0x1176 then
    some (Char.ofNat (0xAC00 + ((a - 0x1100) * 21 + (b - 0x1161)) * 28))
  else if 0xAC00 ≤ a && a < 0xAC00 + 11172 && (a - 0xAC00) % 28 == 0 && 0x11A7 < b && b < 0x11C3 then
    some (Char.ofNat (a + (b - 0x11A7)))
  else none

end Hangul

/-! ## Taking apart -/

/-- One step of taking a character apart. -/
def parts (c : Char) : Text :=
  ((Hangul.parts? c.toNat).orElse fun _ =>
    (compositions.image? c).orElse fun _ => decompositions.image? c).getD [c]

/-- The parts of a text; no character needs more than three steps. -/
def decompose (t : Text) : Text := ((t.flatMap parts).flatMap parts).flatMap parts

/-! ## The order of marks -/

/-- A character put before a text whose marks are in order: it moves behind the marks of smaller classes. -/
def placeMark (c : Char) : Text → Text
  | [] => [c]
  | d :: r =>
    if 0 < combiningClass d && combiningClass d < combiningClass c then d :: placeMark c r else c :: d :: r

/-- Marks in ascending order of their classes; marks of one class keep their order. -/
def orderMarks (t : Text) : Text := t.foldr placeMark []

/-! ## Putting together -/

/-- Pairs of characters as numbers. -/
def pairKey (a b : Nat) : Nat := a * 0x110000 + b

/-- The compositions, in the order of their pairs. -/
def pairs : Table :=
  let items := compositions.toList.map fun s =>
    match s.image with
    | [a, b] => (⟨pairKey a b, pairKey a b, 1, [s.first]⟩ : Span)
    | _ => s
  (items.mergeSort fun a b => a.first ≤ b.first).toArray

/-- The character that two are composed to. -/
def join? (a b : Char) : Option Char :=
  (Hangul.join? a.toNat b.toNat).orElse fun _ =>
    ((pairs.find? (pairKey a.toNat b.toNat)).bind (·.image.head?)).map Char.ofNat

/-- Composition after the base `s`; the marks after it that could not join it are kept, the last one first. A mark of
a class that is not above theirs stays apart. -/
def composeAfter (s : Char) (marks : Text) : Text → Text
  | [] => s :: marks.reverse
  | c :: r =>
    let free := marks.all fun m => combiningClass m < combiningClass c
    match if free then join? s c else none with
    | some u => composeAfter u marks r
    | none =>
      if combiningClass c = 0 then s :: (marks.reverse ++ composeAfter c [] r)
      else composeAfter s (c :: marks) r

/-- Parts put together again; marks before the first base stay as they are. -/
def compose : Text → Text
  | [] => []
  | c :: r => if combiningClass c = 0 then composeAfter c [] r else c :: compose r

/-- The composed canonical form of a text. -/
def composedForm (t : Text) : Text := compose (orderMarks (decompose t))

end JobPosting.Unicode
