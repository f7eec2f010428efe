import JobPosting.Domain.Punycode
import JobPosting.Unicode.Direction
import JobPosting.Unicode.DomainMapping
import JobPosting.Unicode.Joining
import JobPosting.Unicode.Mark
import JobPosting.Unicode.Normal

/-!
# Domain names

A domain name as a reader writes it, in any script, becomes a name in ASCII: characters are replaced or refused, the
name is brought into its canonical form, every label is checked, and labels outside ASCII are written in Punycode
behind `xn--`.

* `Domain.normalize?` : replacement and canonical form.
* `Domain.Label` : a label as it reads and as it is written.
* `Domain.Label.directionOk` : the rule for labels of scripts that run from right to left.
* `Domain.toAscii?` : the whole process; it fails on a name that breaks a rule.
-/

namespace JobPosting.Domain

/-! ## Characters -/

/-- ASCII characters that no domain name may hold. -/
def isForbidden (c : Char) : Bool :=
  c.toNat ≤ 0x20 || c.toNat = 0x7F ||
    ['#', '%', '/', ':', '<', '>', '?', '@', '[', '\\', ']', '^', '|'].contains c

/-- What takes the place of a character, unless the character is refused. -/
def replace? (c : Char) : Option Text :=
  if Text.isAscii c then some [c.toLower]
  else if Unicode.domainRefusals.contains c then none
  else some ((Unicode.domainReplacements.image? c).getD [c])

/-- A name after replacement, in its canonical form. -/
def normalize? (name : Text) : Option Text :=
  (name.mapM replace?).map fun pieces => Unicode.composedForm pieces.flatten

/-- A character that is its own replacement. -/
def isKept (c : Char) : Bool := replace? c = some [c]

/-! ## Labels -/

/-- A label as it reads, and as it is written in ASCII. -/
structure Label where
  shown : Text
  written : Text

namespace Label

/-- The beginning of a label in Punycode. -/
def mark : Text := "xn--"

/-- A sign that lets consonants join. -/
def isVirama (c : Char) : Bool := Unicode.combiningClass c = 9

/-- Whether the next character that joining does not pass over is of one of two types. -/
def meets (a b : Unicode.Joining) (t : Text) : Bool :=
  match t.find? (Unicode.Joining.ofChar · ≠ .transparent) with
  | some c => Unicode.Joining.ofChar c = a || Unicode.Joining.ofChar c = b
  | none => false

/-- Whether a joiner may stand behind the reversed text `earlier` and before `later`: both kinds may follow a virama,
and the one that separates may stand where two letters would join. -/
def mayJoin (c : Char) (earlier later : Text) : Bool :=
  let afterVirama := (earlier.head?.map isVirama).getD false
  if c = '\u200D' then afterVirama
  else if c = '\u200C' then afterVirama || (meets .left .dual earlier && meets .right .dual later)
  else true

/-- Whether every joiner of a text stands where it may, after the reversed text `earlier`. -/
def joinersOk (earlier : Text) : Text → Bool
  | [] => true
  | c :: r => mayJoin c earlier r && joinersOk (c :: earlier) r

/-- A text that may be read as a label: no mark at its beginning, joiners where they belong. -/
def isSound (t : Text) : Bool := !(t.head?.map Unicode.isMark).getD false && joinersOk [] t

/-- The longest text outside ASCII that is written in Punycode. -/
def maxShown : Nat := 1000

/-- The longest Punycode that is read. -/
def maxWritten : Nat := 2000

/-- The label behind `xn--`: it has characters outside ASCII, and is what normalization leaves as it is. -/
def ofPunycode? (code : Text) : Option Text :=
  if maxWritten < code.length then none
  else match Punycode.decode? code with
    | none => none
    | some t =>
      if t.all Text.isAscii || mark.isPrefixOf t || !t.all isKept || Unicode.composedForm t ≠ t then none else some t

/-- A label of a normalized name. -/
def read? (t : Text) : Option Label :=
  match Text.stripPrefix? mark t with
  | some code =>
    match ofPunycode? code with
    | some shown => if isSound shown then some ⟨shown, t⟩ else none
    | none => none
  | none =>
    if !isSound t then none
    else if t.all Text.isAscii then some ⟨t, t⟩
    else if maxShown < t.length then none
    else some ⟨t, mark ++ Punycode.encode t⟩

/-! ## Direction -/

/-- The directions of a label's characters, without the marks at its end. -/
def directions (l : Label) : List Unicode.Direction :=
  ((l.shown.map Unicode.Direction.ofChar).reverse.dropWhile (· = .mark)).reverse

/-- Whether a label has something written from right to left. -/
def isRightward (l : Label) : Bool :=
  l.shown.any fun c => [Unicode.Direction.right, .arabicNumber].contains (Unicode.Direction.ofChar c)

/-- The rule for the labels of a name that is partly written from right to left: a label begins with a letter and keeps
to its direction, ends in a letter or digit, and does not mix two kinds of digits. -/
def directionOk (l : Label) : Bool :=
  match l.directions with
  | [] => l.shown = []
  | .left :: r =>
    (r.all fun d => d ≠ .right && d ≠ .arabicNumber) &&
      [Unicode.Direction.left, .number].contains ((Unicode.Direction.left :: r).getLastD .left)
  | .right :: r =>
    (r.all (· ≠ .left)) &&
      [Unicode.Direction.right, .number, .arabicNumber].contains ((Unicode.Direction.right :: r).getLastD .right) &&
      !(r.contains .number && r.contains .arabicNumber)
  | _ => false

end Label

/-! ## Names -/

/-- A name in ASCII without labels in Punycode needs small letters only. -/
def isPlain (name : Text) : Bool :=
  name.all Text.isAscii && (Text.split '.' (Text.lower name)).all fun l => !Label.mark.isPrefixOf l

/-- The name in ASCII, apart from characters that may not stand in it. -/
def toLabels? (name : Text) : Option (List Text) :=
  match normalize? name with
  | none => none
  | some t =>
    match (Text.split '.' t).mapM Label.read? with
    | none => none
    | some labels =>
      if labels.any Label.isRightward && !labels.all Label.directionOk then none
      else some (labels.map Label.written)

/-- The name in ASCII, if it breaks no rule. -/
def toAscii? (name : Text) : Option Text :=
  let written := if isPlain name then some (Text.lower name) else (toLabels? name).map (Text.join ['.'])
  written.filter fun t => !t.any isForbidden

end JobPosting.Domain
