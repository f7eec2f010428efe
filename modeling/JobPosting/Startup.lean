import JobPosting.Address
import JobPosting.LogFilter

/-!
# Starting the service

What keeps the service from starting: its configuration, the filter of its log, or an address that it cannot listen
on. An error is reported with the causes behind it.

* `Startup.check` : what is wrong with the environment.
* `Startup.report` : an error and its causes as they are written.
-/

namespace JobPosting.Startup

/-- What keeps the service from starting. -/
inductive StartupError where
  | badConfig (cause : ConfigError)
  | badFilter (filter : Text) (cause : LogFilter.FilterError)
  | badAddress (listen : Text)

/-- The wording of an error, the causes behind it last. -/
def StartupError.chain : StartupError → List Text
  | badConfig cause => "Invalid configuration" :: cause.chain
  | badFilter filter cause => ("Invalid RUST_LOG filter " ++ ConfigError.inQuotes filter) :: cause.chain
  | badAddress listen =>
    ["Invalid LISTEN address " ++ ConfigError.inQuotes listen, "invalid socket address syntax"]

/-- What is wrong with the environment; a configuration if nothing is. -/
def check (env : Env) : Except StartupError Config :=
  match Config.load env with
  | .error e => .error (.badConfig e)
  | .ok c =>
    match LogFilter.check c.logLevel with
    | .error e => .error (.badFilter c.logLevel e)
    | .ok () => if isSocketAddress c.listen then .ok c else .error (.badAddress c.listen)

/-! ## Reports -/

/-- A text with every line but the first one moved in. -/
def indent (margin : Text) (t : Text) : Text := Text.join ('\n' :: margin) (Text.split '\n' t)

/-- The causes of an error; more than one are numbered. -/
def causeLines : List Text → List Text
  | [cause] => ["    " ++ indent "    " cause]
  | causes =>
    causes.zipIdx.map fun (cause, i) => Text.join [] ["    ", Text.ofNat i, ": ", indent "       " cause]

def causePart (causes : List Text) : Text :=
  if causes = [] then [] else "\n\nCaused by:\n".toList ++ Text.join ['\n'] (causeLines causes)

/-- An error and its causes as they are written. -/
def report : List Text → Text
  | [] => []
  | message :: causes => Text.join [] ["Error: ", message, causePart causes, ['\n']]

end JobPosting.Startup
