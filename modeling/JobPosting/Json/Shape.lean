import JobPosting.Json.Token

/-!
# Reading JSON of a given shape

A JSON text is read into a value of a known shape. Two things may be wrong: the text is no JSON, or what it says is not
of that shape; whichever shows first counts.

* `Json.Parser` : reads a value at the beginning of a token sequence.
* `Json.skip` : passes over any value.
* `Json.struct` : an object with known fields, or a list of them in their order; other fields are passed over.
* `Json.readAs` : a whole text.
-/

namespace JobPosting.Json

/-- What is wrong with a text that should be JSON of a given shape. -/
inductive Fault where
  /-- It is no JSON. -/
  | malformed
  /-- It is JSON of another shape. -/
  | mismatched
  deriving DecidableEq

/-- Reads a value at the beginning of a token sequence, and gives what follows it. -/
abbrev Parser (α : Type) := List Token → Except Fault (α × List Token)

/-- What is wrong where a value of another kind was expected. -/
def wrongKind : List Token → Fault
  | .openList :: _ | .openObject :: _ | .null :: _ | .bool _ :: _ | .number true :: _ | .text (some _) :: _ =>
    .mismatched
  | _ => .malformed

/-! ## Simple values -/

def textValue : Parser Text
  | .text (some t) :: r => .ok (t, r)
  | ts => .error (wrongKind ts)

def textOrNull : Parser (Option Text)
  | .null :: r => .ok (none, r)
  | .text (some t) :: r => .ok (some t, r)
  | ts => .error (wrongKind ts)

def boolValue : Parser Bool
  | .bool b :: r => .ok (b, r)
  | ts => .error (wrongKind ts)

/-- The items of a list of texts behind its bracket or an item; `first` tells that no item came yet. -/
def textItems (first : Bool) : Parser (List Text)
  | .closeList :: r => .ok ([], r)
  | .comma :: .text (some t) :: r =>
    if first then .error .malformed else (textItems false r).map fun (ts, rest) => (t :: ts, rest)
  | .comma :: ts => .error (if first then .malformed else wrongKind ts)
  | .text (some t) :: r =>
    if first then (textItems false r).map fun (ts, rest) => (t :: ts, rest) else .error .malformed
  | ts => .error (if first then wrongKind ts else .malformed)

def textList : Parser (List Text)
  | .openList :: r => textItems true r
  | ts => .error (wrongKind ts)

/-! ## Any value -/

/-- What comes next while a value is passed over. -/
inductive Next where
  | value
  /-- The first item of a list, or its end. -/
  | item
  /-- The name of a field; `first` tells that the object may also end. -/
  | name (first : Bool)
  /-- The colon behind a name. -/
  | colon
  /-- What follows a value. -/
  | after

/-- Whether the brackets around a place are those of an object. -/
abbrev Nesting := List Bool

/-- What comes behind a value inside these brackets; nothing if it stands alone. -/
def behind (n : Nesting) : Option (Next × Nesting) := if n = [] then none else some (.after, n)

/-- What comes behind a token that is passed over; nothing if it ends the value. -/
def pass (next : Next) (n : Nesting) (t : Token) : Except Fault (Option (Next × Nesting)) :=
  match next, t, n with
  | .item, .closeList, _ :: n => .ok (behind n)
  | .name true, .closeObject, _ :: n => .ok (behind n)
  | .name _, .text _, n => .ok (some (.colon, n))
  | .colon, .colon, n => .ok (some (.value, n))
  | .after, .comma, false :: n => .ok (some (.value, false :: n))
  | .after, .comma, true :: n => .ok (some (.name false, true :: n))
  | .after, .closeList, false :: n => .ok (behind n)
  | .after, .closeObject, true :: n => .ok (behind n)
  | .value, .openList, n | .item, .openList, n => .ok (some (.item, false :: n))
  | .value, .openObject, n | .item, .openObject, n => .ok (some (.name true, true :: n))
  | .value, .null, n | .item, .null, n => .ok (behind n)
  | .value, .bool _, n | .item, .bool _, n => .ok (behind n)
  | .value, .number _, n | .item, .number _, n => .ok (behind n)
  | .value, .text _, n | .item, .text _, n => .ok (behind n)
  | _, _, _ => .error .malformed

/-- Passes over what comes next, up to the end of the value. -/
def skipFrom (next : Next) (n : Nesting) : Parser Unit
  | [] => .error .malformed
  | t :: r =>
    match pass next n t with
    | .ok (some (next, n)) => skipFrom next n r
    | .ok none => .ok ((), r)
    | .error e => .error e

/-- Passes over any value. -/
def skip : Parser Unit := skipFrom .value []

/-! ## Structures -/

/-- A known field of a structure `σ`. -/
structure Field (σ : Type) where
  name : Text
  isRequired : Bool
  isSet : σ → Bool
  read : σ → Parser σ

variable {σ : Type}

/-- The structure, unless a required field is missing. -/
def complete (fields : List (Field σ)) (s : σ) : Except Fault σ :=
  if fields.any fun f => f.isRequired && !f.isSet s then .error .mismatched else .ok s

/-- A field behind its name: a known one is read, unless it has been read before, and an unknown one is passed over. -/
def namedField (fields : List (Field σ)) (s : σ) (name : Text) (ts : List Token) : Except Fault (σ × List Token) :=
  match fields.find? (·.name = name) with
  | some f =>
    if f.isSet s then .error .mismatched
    else match ts with
      | .colon :: r => f.read s r
      | _ => .error .malformed
  | none =>
    match ts with
    | .colon :: r => (skip r).map fun (_, rest) => (s, rest)
    | _ => .error .malformed

/-- The fields of an object behind its brace or a field, in at most `fuel` steps. -/
def objectFields (fields : List (Field σ)) : Nat → Bool → σ → Parser σ
  | 0, _, _, _ => .error .malformed
  | fuel + 1, first, s, ts =>
    match ts, first with
    | .closeObject :: r, _ => (complete fields s).map (·, r)
    | .comma :: .text (some name) :: r, false | .text (some name) :: r, true =>
      match namedField fields s name r with
      | .ok (s, rest) => objectFields fields fuel false s rest
      | .error e => .error e
    | _, _ => .error .malformed

/-- The fields of a list behind its bracket or an item, in their order; `rest` are those still to come. -/
def listFields (fields : List (Field σ)) (first : Bool) (s : σ) : List (Field σ) → Parser σ
  | [], .closeList :: r => .ok (s, r)
  | [], _ => .error .malformed
  | _ :: _, .closeList :: r => (complete fields s).map (·, r)
  | f :: fs, ts =>
    match ts, first with
    | .comma :: .closeList :: _, false => .error .malformed
    | .comma :: r, false =>
      match f.read s r with
      | .ok (s, rest) => listFields fields false s fs rest
      | .error e => .error e
    | _, false => .error .malformed
    | ts, true =>
      match f.read s ts with
      | .ok (s, rest) => listFields fields false s fs rest
      | .error e => .error e

/-- A structure with known fields, from its state before any is read. -/
def struct (fields : List (Field σ)) (start : σ) : Parser σ
  | .openObject :: r => objectFields fields (r.length + 1) true start r
  | .openList :: r => listFields fields true start fields r
  | ts => .error (wrongKind ts)

/-! ## Whole texts -/

/-- The value of a text that holds nothing else. -/
def readAs {α : Type} (p : Parser α) (t : Text) : Except Fault α :=
  match p (tokens t) with
  | .ok (v, []) => .ok v
  | .ok _ => .error .malformed
  | .error e => .error e

end JobPosting.Json
