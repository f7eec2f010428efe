import JobPosting.Url.Basic

/-!
# Paths of URLs

A path is read as its segments between slashes of either kind. A segment of one dot stands for the place where it is,
and one of two dots for the place above; dots may be percent encoded.

* `Path.step` : the effect of one segment on the segments before it.
* `Path.read` : the encoded segments of a path.
-/

namespace JobPosting.Path

/-- A slash of either kind. -/
def isSlash (c : Char) : Bool := c = '/' || c = '\\'

/-- The segments of a path between its slashes. -/
def pieces (t : Text) : List Text := Text.split '/' (t.map fun c => if c = '\\' then '/' else c)

/-- The two ways to write a dot. -/
def dots : List Text := [".", "%2e"]

/-- A segment that stands for the place where it is. -/
def isHere (segment : Text) : Bool := dots.contains (Text.lower segment)

/-- A segment that stands for the place above. -/
def isAbove (segment : Text) : Bool := (dots.flatMap fun a => dots.map fun b => a ++ b).contains (Text.lower segment)

/-- A letter with a colon or a bar, which the place above never leaves. -/
def isDrive : Text → Bool
  | [c, d] => Text.isLetter c && (d = ':' || d = '|')
  | _ => false

/-- The segments left of a place after going up from it. -/
def up (segments : List Text) : List Text :=
  match segments.getLast? with
  | some s => if isDrive s then segments else segments.dropLast
  | none => []

/-- The segments after one more, which is not the last one. -/
def step (segments : List Text) (piece : Text) : List Text :=
  if isAbove piece then up segments
  else if isHere piece then segments
  else segments ++ [Text.percentEncode Url.pathSet piece]

/-- The segments after the last one; a place ends in a slash. -/
def finish (segments : List Text) (piece : Text) : List Text :=
  if isAbove piece then up segments ++ [[]]
  else if isHere piece then segments ++ [[]]
  else segments ++ [Text.percentEncode Url.pathSet piece]

/-- The encoded segments of the path that a text beginning with a slash, or an empty one, stands for. -/
def read (t : Text) : List Text :=
  let ps := pieces (t.drop 1)
  finish (ps.dropLast.foldl step []) (ps.getLastD [])

end JobPosting.Path
