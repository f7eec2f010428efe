import JobPosting.Text.Percent

/-!
# Form encoding

Name and value pairs as a query string carries them: pairs are joined by `&`, a name ends at its first `=`, a plus sign
is a blank, and the rest is percent encoding.

* `Text.formDecode` : one name or value.
* `Text.formPairs` : all pairs of a query string, in order; empty pieces count for nothing.
* `lastValue?` : the value that wins when a name is given several times.
-/

namespace JobPosting

namespace Text

/-- A name or a value as it was before encoding. -/
def formDecode (t : Text) : Text :=
  ofBytes (percentDecode (t.map fun c => if c = '+' then ' ' else c))

/-- One piece of a query string as name and value; without a `=` the value is empty. -/
def formPair (piece : Text) : Text × Text :=
  match cut? '=' piece with
  | some (name, value) => (formDecode name, formDecode value)
  | none => (formDecode piece, [])

/-- The pairs of a query string, in order. -/
def formPairs (query : Text) : List (Text × Text) :=
  ((split '&' query).filter (· ≠ [])).map formPair

end Text

def lastValue? (name : Text) (pairs : List (Text × Text)) : Option Text := pairs.reverse.lookup name

end JobPosting
