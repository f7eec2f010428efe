import JobPosting.Text.Numeral

/-!
# Tables of characters

Properties of characters are written down as rows of items, in ascending order and in hexadecimal:

* `300-36f` lists the characters from 300 to 36F;
* `c0-d6>e0` sends those from C0 to D6 to the ones from E0 on, and `100-12e/2>101` only every second one;
* `fb00>66.66` sends one character to two, and `ad>` one to none.

`Table.contains` asks whether a character is listed, `Table.value?` reads the number beside it and `Table.image?` the
text that it is sent to.
-/

namespace JobPosting.Unicode

/-- One item: every `step`-th character from `first` to `last`, and the numbers beside them. -/
structure Span where
  first : Nat
  last : Nat
  step : Nat
  image : List Nat
  deriving Inhabited

namespace Span

/-- A hexadecimal number of an item. -/
def number (t : Text) : Nat := (Text.toNat? 16 t).getD 0

/-- The item that is written so. -/
def read (item : Text) : Span :=
  let (characters, image) := (Text.cut? '>' item).getD (item, [])
  let (range, step) := (Text.cut? '/' characters).getD (characters, ['1'])
  let (first, last) := (Text.cut? '-' range).getD (range, range)
  ⟨number first, number last, number step, if image = [] then [] else (Text.split '.' image).map number⟩

/-- Whether a code point is one of the item's characters. -/
def holds (s : Span) (n : Nat) : Bool := s.first ≤ n && n ≤ s.last && (n - s.first) % s.step == 0

end Span

/-- Items in ascending order of their first characters. -/
abbrev Table := Array Span

namespace Table

/-- The table that is written in these rows. -/
def ofRows (rows : List String) : Table :=
  (rows.flatMap fun row => (Text.split ' ' row.toList).map Span.read).toArray

/-- The number of items from `lo` to `hi` that begin at `n` or before it, and all before them. -/
def countTo (t : Table) (n lo hi : Nat) : Nat :=
  if h : lo < hi then
    let mid := (lo + hi) / 2
    if (t.getD mid default).first ≤ n then countTo t n (mid + 1) hi else countTo t n lo mid
  else lo
termination_by hi - lo

/-- The item of a number. -/
def find? (t : Table) (n : Nat) : Option Span :=
  match countTo t n 0 t.size with
  | 0 => none
  | k + 1 => t[k]?.filter (·.holds n)

def contains (t : Table) (c : Char) : Bool := (find? t c.toNat).isSome

def value? (t : Table) (c : Char) : Option Nat := (find? t c.toNat).bind (·.image.head?)

/-- The text that a character is sent to; a single image moves along with the character. -/
def image? (t : Table) (c : Char) : Option Text :=
  (find? t c.toNat).map fun s =>
    match s.image with
    | [n] => [Char.ofNat (n + (c.toNat - s.first))]
    | ns => ns.map Char.ofNat

end Table

end JobPosting.Unicode
