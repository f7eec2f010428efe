import JobPosting.CommandLine.Arguments
import JobPosting.CommandLine.Paint
import JobPosting.Deduction
import JobPosting.Posting.Pasted

/-!
# What commands print

* `Output.listing` : the records of several URLs for a reader, or as JSON.
* `Output.providers` : the table of known providers.
* `Output.run` : exit code and output of a command line.
-/

namespace JobPosting.Output

/-- A URL with what was deduced from it. -/
abbrev Found := Text × Option Record

/-- Lines with their ends. -/
def unlines (ls : List Text) : Text := ls.flatMap (· ++ ['\n'])

/-! ## Records -/

def rows (r : Record) : List (Text × Option Text) :=
  [("foundOn".toList, some r.foundOn), ("provider".toList, some r.provider),
    ("providerTenant".toList, some r.tenant), ("externalId".toList, some r.externalId),
    ("hiringCompanyName".toList, r.hiringCompany), ("postingCompanyName".toList, r.postingCompany),
    ("title".toList, r.title)]

/-- A row: the name, and the value or a dash. -/
def row (color : Bool) (key : Text) (value : Option Text) : Text :=
  "  " ++ Tint.key.paint color 20 key ++ ' ' ::
    match Text.given value with
    | some v => Tint.value.paint color 0 v
    | none => Tint.faint.paint color 0 "-"

/-- The lines about one URL. -/
def entry (color : Bool) (found : Found) : List Text :=
  Tint.heading.paint color 0 found.1 ::
    (match found.2 with
      | some r => (rows r).map fun (key, value) => row color key value
      | none => ["  " ++ Tint.warning.paint color 0 "not a usable posting URL (empty record)"]) ++ [[]]

/-- The line that sums up. -/
def total (color : Bool) (found : List Found) : Text :=
  let empty := found.countP fun f => f.2.isNone
  "  Total: " ++ Tint.figure.paint color 0 (Text.ofNat found.length) ++ "  recognized: " ++
    Tint.good.paint color 0 (Text.ofNat (found.length - empty)) ++ "  empty: " ++
    Tint.warning.paint color 0 (Text.ofNat empty)

/-- The records for a reader. -/
def listing (color : Bool) (found : List Found) : Text :=
  unlines (found.flatMap (entry color) ++ if 1 < found.length then [total color found, []] else [])

/-- The records as a JSON value: a single one alone, several ones with their URLs. -/
def jsonOf : List Found → Json
  | [(_, outcome)] => Record.answer outcome
  | found => .list (found.map fun (url, outcome) =>
      .object [Json.textField "url" url, Json.field "fields" (Record.answer outcome)])

/-- The records as JSON, with the fields in the order of their names. -/
def json (found : List Found) : Text := Json.printPretty 0 (Json.sortKeys (jsonOf found)) ++ ['\n']

/-- The records of some URLs, cleaned up first if asked for. -/
def urls (color : Bool) (us : List Text) (asJson clean : Bool) : Text :=
  let found := (if clean then us.map Pasted.clean else us).map fun u => (u, deduce u)
  if asJson then json found else listing color found

/-! ## Providers -/

def providerRow (color : Bool) (p : Provider) (i : Nat) : Text :=
  "  " ++ Tint.faint.paint color 3 (Text.ofNat (i + 1)) ++ ' ' :: Tint.value.paint color 17 p.name ++ ' ' ::
    (if p.isTracking then Tint.good.paint color 6 "ats" else Tint.board.paint color 6 "board") ++ ' ' ::
    Text.join ", " (p.hosts.map HostMatcher.describe)

def providerHead (color : Bool) : Text :=
  "  " ++ Tint.figure.paint color 3 "#" ++ ' ' :: Tint.figure.paint color 17 "Provider" ++ ' ' ::
    Tint.figure.paint color 6 "Kind" ++ ' ' :: Tint.figure.paint color 0 "Domains"

def providerRule (color : Bool) : Text := "  " ++ Tint.faint.paint color 0 (List.replicate 70 '─')

/-- The line that counts providers. -/
def providerTotal (color : Bool) (r : Registry) : Text :=
  "  Total: " ++ Tint.figure.paint color 0 (Text.ofNat r.length)

def providers (color : Bool) (r : Registry) : Text :=
  unlines <|
    [Tint.heading.paint color 0 "Provider registry (first match wins)", [], providerHead color,
      providerRule color] ++
    r.zipIdx.map (fun (p, i) => providerRow color p i) ++
    [[], providerTotal color r, []]

/-! ## Commands -/

def usage : Text :=
  unlines ["Deduce job-posting metadata from URLs.", [],
    "Usage: deduce url [--json] [--sanitize] <URLS>...", "       deduce providers", "       deduce hash <TEXT>",
    "       deduce help", "       deduce --version"]

def ofCommand (color : Bool) : Command → Text
  | .help => usage
  | .version => "deduce 0.1.0\n"
  | .urls us asJson clean => urls color us asJson clean
  | .providers => providers color knownProviders
  | .hash t => fingerprint t ++ ['\n']

/-- The exit code and the output of a command line. -/
def run (color : Bool) (arguments : List Text) : Nat × Text :=
  match Command.read arguments with
  | some c => (0, ofCommand color c)
  | none => (2, [])

end JobPosting.Output
