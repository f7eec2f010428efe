import JobPosting.Text

/-!
# Patterns

A pattern describes a part of a text: characters that stand for themselves, `.` for any one character, the two ends of
the text, and choices between sequences of these.

* `Pattern.foundIn` : whether the pattern describes some part of a text.
* `Pattern.print` : the written form, `\.` for a point, `^` and `$` for the ends, `(a|b)` for a choice.
* `Pattern.read` : the pattern that is written so.
-/

namespace JobPosting

namespace Pattern

/-- One sign of a pattern. -/
inductive Sign where
  /-- A character that stands for itself. -/
  | letter (c : Char)
  /-- Any character but a line end. -/
  | any
  /-- The beginning of the text. -/
  | first
  /-- The end of the text. -/
  | last
  deriving DecidableEq

/-- A sign, or a choice between sequences of signs. -/
inductive Part where
  | sign (s : Sign)
  | choice (alternatives : List (List Sign))
  deriving DecidableEq

end Pattern

abbrev Pattern := List Pattern.Part

namespace Pattern

/-! ## Searching -/

/-- A place in a text: what follows it, and whether nothing precedes it. -/
structure Spot where
  atFirst : Bool
  rest : Text

/-- The place behind a sign that stands here. -/
def Sign.step? (s : Sign) (p : Spot) : Option Spot :=
  match s, p.rest with
  | .letter c, d :: r => if d = c then some ⟨false, r⟩ else none
  | .any, d :: r => if d = '\n' then none else some ⟨false, r⟩
  | .first, _ => if p.atFirst then some p else none
  | .last, [] => some p
  | _, _ => none

/-- The places behind a part that stands here. -/
def Part.ends (part : Part) (p : Spot) : List Spot :=
  match part with
  | .sign s => (s.step? p).toList
  | .choice alternatives => alternatives.filterMap fun signs => signs.foldlM (fun q s => s.step? q) p

/-- The places behind a pattern that stands at one of some places. -/
def ends (pattern : Pattern) (ps : List Spot) : List Spot :=
  pattern.foldl (fun ps part => ps.flatMap part.ends) ps

/-- All places of a text. -/
def spots (atFirst : Bool) : Text → List Spot
  | [] => [⟨atFirst, []⟩]
  | c :: r => ⟨atFirst, c :: r⟩ :: spots false r

/-- Whether the pattern describes some part of a text. -/
def foundIn (pattern : Pattern) (t : Text) : Bool := (spots true t).any fun p => !(ends pattern [p]).isEmpty

/-! ## Written form -/

def printSign : Sign → Text
  | .letter c => if c = '.' then ['\\', '.'] else [c]
  | .any => ['.']
  | .first => ['^']
  | .last => ['$']

def printPart : Part → Text
  | .sign s => printSign s
  | .choice alternatives => '(' :: Text.join ['|'] (alternatives.map (·.flatMap printSign)) ++ [')']

def print (pattern : Pattern) : Text := pattern.flatMap printPart

/-- The signs of a written pattern with its parentheses and bars, which are left as they are. -/
def readSigns : Text → List (Sum Sign Char)
  | '\\' :: c :: r => .inl (.letter c) :: readSigns r
  | c :: r =>
    (if c = '.' then .inl .any
      else if c = '^' then .inl .first
      else if c = '$' then .inl .last
      else if c = '(' || c = ')' || c = '|' then .inr c
      else .inl (.letter c)) :: readSigns r
  | [] => []

/-- What has been read of a pattern: the parts outside a choice, and the alternatives of an open one; both are in
reverse. -/
structure Open where
  parts : List Part
  alternatives : Option (List (List Sign))

/-- One more sign, parenthesis or bar. -/
def Open.step (o : Open) : Sum Sign Char → Open
  | .inl s =>
    match o.alternatives with
    | some (a :: as) => { o with alternatives := some ((s :: a) :: as) }
    | _ => { o with parts := .sign s :: o.parts }
  | .inr c =>
    match o.alternatives with
    | some as =>
      if c = '|' then { o with alternatives := some ([] :: as) }
      else ⟨.choice (as.map List.reverse).reverse :: o.parts, none⟩
    | none => { o with alternatives := some [[]] }

def read (t : Text) : Pattern := ((readSigns t).foldl Open.step ⟨[], none⟩).parts.reverse

/-- The pattern of a text that ends in a point and a domain. -/
def below (domain : Text) : Pattern := (('.' :: domain).map fun c => .sign (.letter c)) ++ [.sign .last]

end Pattern

end JobPosting
