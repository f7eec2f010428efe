import JobPosting.Text

/-!
# Media types

A media type is a type and a subtype, with parameters behind semicolons. A subtype may end in a plus sign and a suffix
that names its syntax.

* `MediaType.read?` : the media type that a text stands for.
* `MediaType.isJson` : whether its syntax is JSON.
-/

namespace JobPosting

/-- A media type without its parameters. -/
structure MediaType where
  kind : Text
  subtype : Text
  deriving DecidableEq

namespace MediaType

def isTokenChar (c : Char) : Bool :=
  Text.isLetter c || Text.isDigit c ||
    ['!', '#', '$', '%', '&', '\'', '*', '+', '-', '.', '^', '_', '\x60', '|', '~'].contains c

def isQuotedChar (c : Char) : Bool := 0x20 ≤ c.toNat && c.toNat ≠ 0x7F

/-- Where a reader of parameters is. -/
inductive Spot where
  /-- Before a name. -/
  | start
  | name
  /-- Behind an equals sign. -/
  | valueStart
  | value
  /-- Behind an opening quote; a quote here is an ordinary character. -/
  | quoteStart
  | quoted
  /-- Behind a backslash between quotes. -/
  | escaped
  /-- Behind a closing quote. -/
  | closed
  deriving DecidableEq

def Spot.step? (s : Spot) (c : Char) : Option Spot :=
  match s with
  | .start => if c = ' ' then some .start else if isTokenChar c then some .name else none
  | .name => if c = '=' then some .valueStart else if isTokenChar c then some .name else none
  | .valueStart => if c = '"' then some .quoteStart else if isTokenChar c then some .value else none
  | .value => if c = ';' then some .start else if isTokenChar c then some .value else none
  | .quoteStart => if c = '\\' then some .escaped else if isQuotedChar c then some .quoted else none
  | .quoted =>
    if c = '"' then some .closed
    else if c = '\\' then some .escaped
    else if isQuotedChar c then some .quoted
    else none
  | .escaped => if isQuotedChar c then some .quoted else none
  | .closed => if c = ';' then some .start else if c = ' ' then some .closed else none

/-- Whether parameters may end here. -/
def Spot.mayEnd : Spot → Bool
  | .start | .valueStart | .value | .closed => true
  | _ => false

def parametersOk (t : Text) : Bool := ((t.foldlM Spot.step? Spot.start).map Spot.mayEnd).getD false

/-- The media type that a text stands for. -/
def read? (t : Text) : Option MediaType :=
  let kind := t.takeWhile isTokenChar
  match t.dropWhile isTokenChar with
  | '/' :: r =>
    let subtype := r.takeWhile isTokenChar
    let isOk :=
      match r.dropWhile isTokenChar with
      | [] => true
      | ';' :: parameters => subtype ≠ [] && parametersOk parameters
      | _ => false
    if kind ≠ [] && isOk then some ⟨kind, subtype⟩ else none
  | _ => none

/-- The subtype before its last plus sign, and the suffix behind it; a plus sign that begins the subtype is none. -/
def cutSuffix (subtype : Text) : Text × Option Text :=
  match Text.cut? '+' subtype.reverse with
  | some (suffix, c :: r) => ((c :: r).reverse, some suffix.reverse)
  | _ => (subtype, none)

def json : Text := "json"

/-- Whether the syntax of a media type is JSON. -/
def isJson (m : MediaType) : Bool :=
  let (base, suffix) := cutSuffix m.subtype
  Text.SameLetters m.kind "application" &&
    (Text.SameLetters base json || suffix.any fun s => Text.SameLetters s json)

end MediaType

end JobPosting
