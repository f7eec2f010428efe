import JobPosting.Text.Numeral

/-!
# JSON

* `Json` : values; an object keeps its fields in order.
* `Json.quote` : a text in quotes.
* `Json.print` : a value without blanks.
* `Json.printPretty` : a value with one item a line.
* `Json.sortKeys` : the same value with the fields of every object in the order of their names.
-/

namespace JobPosting

inductive Json where
  | null
  | bool (b : Bool)
  | number (n : Int)
  | text (t : Text)
  | list (items : List Json)
  | object (fields : List (Text × Json))
  deriving Inhabited

namespace Json

def count (n : Nat) : Json := .number n

def field (name : Text) (value : Json) : Text × Json := (name, value)

def textField (name value : Text) : Text × Json := (name, .text value)

/-- A field that is left out if it has no value. -/
def textField? (name : Text) (value : Option Text) : List (Text × Json) := value.toList.map (textField name)

/-! ## Texts -/

def controlCode (c : Char) : Text :=
  ['\\', 'u', '0', '0', hexDigit (c.toNat / 16), hexDigit (c.toNat % 16)]

def quoteChar (c : Char) : Text :=
  if c = '"' then ['\\', '"']
  else if c = '\\' then ['\\', '\\']
  else if 0x20 ≤ c.toNat then [c]
  else if c.toNat = 0x08 then ['\\', 'b']
  else if c.toNat = 0x0C then ['\\', 'f']
  else if c = '\n' then ['\\', 'n']
  else if c = '\r' then ['\\', 'r']
  else if c = '\t' then ['\\', 't']
  else controlCode c

def quote (t : Text) : Text := '"' :: t.flatMap quoteChar ++ ['"']

/-! ## Values -/

/-- A whole number in decimal digits. -/
def printNumber : Int → Text
  | .ofNat n => Text.ofNat n
  | .negSucc n => '-' :: Text.ofNat (n + 1)

mutual

/-- A value without blanks. -/
def print : Json → Text
  | .null => "null"
  | .bool true => "true"
  | .bool false => "false"
  | .number n => printNumber n
  | .text t => quote t
  | .list items => '[' :: Text.join [','] (printItems items) ++ [']']
  | .object fields => '\x7B' :: Text.join [','] (printFields fields) ++ ['\x7D']

def printItems : List Json → List Text
  | [] => []
  | v :: vs => print v :: printItems vs

def printFields : List (Text × Json) → List Text
  | [] => []
  | (name, v) :: fs => (quote name ++ ':' :: print v) :: printFields fs

end

/-- The beginning of a line inside `depth` lists and objects. -/
def newLine (depth : Nat) : Text := '\n' :: List.replicate (2 * depth) ' '

/-- Items between brackets, one a line. -/
def block (opening closing : Char) (depth : Nat) (items : List Text) : Text :=
  if items = [] then [opening, closing]
  else
    opening :: newLine (depth + 1) ++ Text.join (',' :: newLine (depth + 1)) items ++ newLine depth ++ [closing]

mutual

/-- A value with one item a line, inside `depth` lists and objects. -/
def printPretty (depth : Nat) : Json → Text
  | .list items => block '[' ']' depth (prettyItems (depth + 1) items)
  | .object fields => block '\x7B' '\x7D' depth (prettyFields (depth + 1) fields)
  | v => print v

def prettyItems (depth : Nat) : List Json → List Text
  | [] => []
  | v :: vs => printPretty depth v :: prettyItems depth vs

def prettyFields (depth : Nat) : List (Text × Json) → List Text
  | [] => []
  | (name, v) :: fs => (quote name ++ ':' :: ' ' :: printPretty depth v) :: prettyFields depth fs

end

/-! ## Order of fields -/

/-- Whether a name comes before another one or is the same. -/
def nameLe (a b : Text) : Bool := !(b.map Char.toNat).lex (a.map Char.toNat) (· < ·)

mutual

/-- The value with the fields of every object in the order of their names. -/
def sortKeys : Json → Json
  | .list items => .list (sortItems items)
  | .object fields => .object ((sortFields fields).mergeSort fun a b => nameLe a.1 b.1)
  | v => v

/-- The items of a list with sorted fields. -/
def sortItems : List Json → List Json
  | [] => []
  | v :: vs => sortKeys v :: sortItems vs

/-- The values of fields with sorted fields. -/
def sortFields : List (Text × Json) → List (Text × Json)
  | [] => []
  | (name, v) :: fs => (name, sortKeys v) :: sortFields fs

end

end Json

end JobPosting
