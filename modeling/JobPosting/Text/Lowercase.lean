import JobPosting.Text
import JobPosting.Unicode.Casing

/-!
# Small letters of a text

Every capital of every script becomes small. Two capitals are special: I with a dot keeps its dot as a mark, and sigma
has a form of its own at the end of a word.

* `smallForm` : the small form of one character, apart from the final sigma.
* `endsWord` : whether a sigma stands at the end of a word.
* `Text.lowercase` : the text in small letters.
-/

namespace JobPosting

def smallForm (c : Char) : Text :=
  if c.toNat < 0x80 then [c.toLower]
  else if c = 'İ' then ['i', '\u0307']
  else [((Unicode.smallLetter? c.toNat).map Char.ofNat).getD c]

/-- The first character that is not passed over has a case. -/
def meetsLetter (t : Text) : Bool := ((t.dropWhile Unicode.isCaseIgnorable).head?.map Unicode.isCased).getD false

/-- A sigma ends a word if a letter stands before it and none after it; `earlier` is the text before it, read
backwards. -/
def endsWord (earlier later : Text) : Bool := meetsLetter earlier && !meetsLetter later

namespace Text

/-- The text in small letters, read after the reversed text `earlier`. -/
def lowercaseAfter (earlier : Text) : Text → Text
  | [] => []
  | c :: r =>
    (if c = 'Σ' then [if endsWord earlier r then 'ς' else 'σ'] else smallForm c) ++ lowercaseAfter (c :: earlier) r

def lowercase (t : Text) : Text := lowercaseAfter [] t

end Text

end JobPosting
