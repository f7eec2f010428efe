import JobPosting.Text

/-!
# Command-line arguments

A command, its flags and its values. Flags may stand anywhere; short ones may be written together behind one hyphen,
and behind a lone `--` everything is a value.

* `Command` : what the command line asks for.
* `Command.read` : the command that arguments stand for.
-/

namespace JobPosting

/-- What the command line asks for. -/
inductive Command where
  | help
  | version
  /-- Deduce URLs; as JSON, and after clean-up. -/
  | urls (urls : List Text) (asJson clean : Bool)
  | providers
  | hash (text : Text)
  deriving DecidableEq

namespace Command

/-- Why reading arguments stops. -/
inductive Stop where
  | help
  | misuse
  deriving DecidableEq

/-- A flag with its two names. -/
structure Flag where
  long : Text
  short : Char
  deriving DecidableEq

/-- What has been read: flags, and values in reverse. -/
structure Given where
  flags : List Flag
  values : List Text

/-- A flag is given once. -/
def addFlag (g : Given) (f : Flag) : Except Stop Given :=
  if g.flags.contains f then .error .misuse else .ok { g with flags := f :: g.flags }

/-- No more than `limit` values are given, if there is a limit. -/
def addValue (limit : Option Nat) (g : Given) (v : Text) : Except Stop Given :=
  if limit.any (· ≤ g.values.length) then .error .misuse else .ok { g with values := v :: g.values }

def addLong (known : List Flag) (g : Given) (name : Text) : Except Stop Given :=
  if name = "help" then .error .help
  else match known.find? (·.long = name) with
    | some f => addFlag g f
    | none => .error .misuse

def addShort (known : List Flag) (g : Given) (c : Char) : Except Stop Given :=
  if c = 'h' then .error .help
  else match known.find? (·.short = c) with
    | some f => addFlag g f
    | none => .error .misuse

def readArguments (known : List Flag) (limit : Option Nat) (g : Given) : List Text → Except Stop Given
  | [] => .ok g
  | a :: r =>
    match a with
    | '-' :: '-' :: [] => r.foldlM (addValue limit) g
    | '-' :: '-' :: name => (addLong known g name).bind (readArguments known limit · r)
    | '-' :: c :: cs => ((c :: cs).foldlM (addShort known) g).bind (readArguments known limit · r)
    | _ => (addValue limit g a).bind (readArguments known limit · r)

def jsonFlag : Flag := ⟨"json", 'j'⟩

def cleanFlag : Flag := ⟨"sanitize", 's'⟩

/-- The commands that arguments may begin with. -/
def names : List Text := ["url", "providers", "hash", "help"]

def readNamed (name : Text) (arguments : List Text) : Except Stop Command :=
  if name = "url" then do
    let g ← readArguments [jsonFlag, cleanFlag] none ⟨[], []⟩ arguments
    if g.values = [] then throw .misuse
    return .urls g.values.reverse (g.flags.contains jsonFlag) (g.flags.contains cleanFlag)
  else if name = "providers" then
    (readArguments [] (some 0) ⟨[], []⟩ arguments).map fun _ => .providers
  else if name = "hash" then do
    let g ← readArguments [] (some 1) ⟨[], []⟩ arguments
    match g.values with
    | [t] => return .hash t
    | _ => throw .misuse
  else if name = "help" then
    match arguments with
    | [] => return .help
    | [topic] => if names.contains topic then return .help else throw .misuse
    | _ => throw .misuse
  else throw .misuse

/-- The command that arguments stand for; none if they are misused. -/
def read : List Text → Option Command
  | [] => none
  | a :: r =>
    if a = "--help" || "-h".toList.isPrefixOf a then some .help
    else if a = "--version" || "-V".toList.isPrefixOf a then some .version
    else match readNamed a r with
      | .ok c => some c
      | .error .help => some .help
      | .error .misuse => none

end Command

end JobPosting
