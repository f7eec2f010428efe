import JobPosting.Config
import JobPosting.Unicode.Alphanumeric

/-!
# Log filters

A log filter is a list of directives between commas. A directive names a level, a target, or a target with a span and
its fields in brackets, and a level behind an equals sign.

* `LogFilter.checkDirective` : what is wrong with a directive.
* `LogFilter.check` : what is wrong with a filter.
-/

namespace JobPosting.LogFilter

/-- What is wrong with a filter. -/
inductive FilterError where
  | badDirective
  | badLevel
  deriving DecidableEq

def levelMessage : Text :=
  "error parsing level filter: expected one of \"off\", \"error\", \"warn\", \"info\", ".toList ++
    "\"debug\", \"trace\", or a number 0-5"

/-- The wording of an error, the cause behind it last. -/
def FilterError.chain : FilterError → List Text
  | badDirective => ["invalid filter directive"]
  | badLevel => [levelMessage, levelMessage]

def levels : List Text := ["error", "warn", "info", "debug", "trace", "off"]

/-- Whether a text is a level: a name, a number up to five, or nothing. -/
def isLevel (t : Text) : Bool :=
  t = [] || (levels.any fun l => Text.SameLetters l t) ||
    match Config.readNumber t with
    | .ok n => n ≤ 5
    | .error _ => false

/-- Where a reader of a directive is. -/
inductive Spot where
  | start
  /-- In a level or a target. -/
  | name
  /-- Between the bracket and the fields of a span. -/
  | span
  /-- In a field, of which `isEmpty` tells whether nothing has been read. -/
  | field (isEmpty : Bool)
  /-- Behind the fields of a span. -/
  | fields
  /-- Behind a span. -/
  | target
  /-- Behind the equals sign; `level` is what has been read of the level. -/
  | level (level : Text)

def mayBegin (c : Char) : Bool := Unicode.isAlphanumeric c || c = '-' || c = ':' || c = '_'

def Spot.step? (s : Spot) (c : Char) : Option Spot :=
  match s with
  | .start => if c = '[' then some .span else if mayBegin c then some .name else none
  | .name => if c = '=' then some (.level []) else if c = '[' then some .span else some .name
  | .span => if c = ']' then some .target else if c = '\x7B' then some (.field true) else some .span
  | .field isEmpty => if c = '\x7D' then (if isEmpty then none else some .fields) else some (.field false)
  | .fields => if c = ']' then some .target else none
  | .target => if c = '=' then some (.level []) else none
  | .level l => some (.level (l ++ [c]))

/-- What is wrong with a directive; blanks may stand around it only if it has no equals sign. -/
def checkDirective (t : Text) : Except FilterError Unit :=
  match (Text.trim t).foldlM Spot.step? Spot.start with
  | some (.level l) => if Text.trim t = t && isLevel l then .ok () else .error .badLevel
  | some .name | some .target => .ok ()
  | _ => .error .badDirective

/-- What is wrong with a filter. -/
def check (t : Text) : Except FilterError Unit := ((Text.split ',' t).filter (· ≠ [])).forM checkDirective

end JobPosting.LogFilter
