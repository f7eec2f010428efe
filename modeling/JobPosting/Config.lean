import JobPosting.Cache
import JobPosting.Text.Blank
import JobPosting.Text.Bytes

/-!
# Configuration

The settings of the service, as environment variables give them. A variable can be set to bytes that are no text; it is
then passed over as if it was not set.

* `Env.read` : the text of a variable, or why there is none.
* `Config.ofEnv` : the settings; a text that should be a number and is none is an error.
* `Config.check` : whether the settings are admitted.
* `Config.load` : both.
-/

namespace JobPosting

/-- What a variable is set to, which may be any bytes. -/
structure EnvValue where
  raw : List UInt8
  deriving DecidableEq

/-- A text is set as its UTF-8 bytes. -/
instance : Coe Text EnvValue := ⟨fun t => ⟨Text.bytes t⟩⟩

/-- Environment variables. -/
abbrev Env := List (Text × EnvValue)

/-- Why a variable has no text. -/
inductive EnvError where
  | notSet
  | notUnicode
  deriving DecidableEq

/-- The text that a variable is set to. -/
def Env.read (env : Env) (name : Text) : Except EnvError Text :=
  match env.lookup name with
  | none => .error .notSet
  | some v =>
    match Text.ofUtf8? v.raw with
    | some t => .ok t
    | none => .error .notUnicode

/-- Why a text is no number of 64 bits. -/
inductive NumberError where
  | empty
  | badDigit
  | tooLarge
  deriving DecidableEq

def NumberError.message : NumberError → Text
  | empty => "cannot parse integer from empty string"
  | badDigit => "invalid digit found in string"
  | tooLarge => "number too large to fit in target type"

structure Config where
  listen : Text
  logLevel : Text
  logFormat : Text
  cacheCapacity : Nat
  maxBatch : Nat
  behindProxy : Bool
  deriving DecidableEq

inductive ConfigError where
  | badNumber (name raw : Text) (cause : NumberError)
  | badLogFormat (given : Text)
  | badListen (given : Text)
  | cacheTooLarge (given : Nat)
  | badBatchSize (given : Nat)
  deriving DecidableEq

namespace Config

/-! ## Numbers -/

/-- One more than the largest number. -/
def numberEnd : Nat := 0x10000000000000000

/-- The number that digits denote, read after the value `n` of the digits before them. -/
def readDigits (n : Nat) : Text → Except NumberError Nat
  | [] => .ok n
  | c :: r =>
    if Text.isDigit c then
      let m := n * 10 + (c.toNat - '0'.toNat)
      if m < numberEnd then readDigits m r else .error .tooLarge
    else .error .badDigit

/-- The number that a text denotes: digits, perhaps with a plus sign in front. -/
def readNumber : Text → Except NumberError Nat
  | [] => .error .empty
  | '+' :: [] => .error .badDigit
  | '+' :: r => readDigits 0 r
  | t => readDigits 0 t

/-- The number of a variable, blanks around it aside; `preset` if it has no text. -/
def number (env : Env) (name : Text) (preset : Nat) : Except ConfigError Nat :=
  match env.read name with
  | .error _ => .ok preset
  | .ok raw =>
    match readNumber (Text.trim raw) with
    | .ok n => .ok n
    | .error cause => .error (.badNumber name raw cause)

/-! ## Settings -/

def maxCapacity : Nat := 1000000

/-- The largest number of URLs that a batch may be set to. -/
def batchLimit : Nat := 1000

def logFormats : List Text := ["text", "json"]

/-- The text of a variable; `preset` if it has none. -/
def text (env : Env) (name preset : Text) : Text :=
  match env.read name with
  | .ok t => t
  | .error _ => preset

def switch (env : Env) (name : Text) : Bool :=
  match env.read name with
  | .ok t => decide (Text.SameLetters t "true") || t = "1".toList
  | .error _ => false

def ofEnv (env : Env) : Except ConfigError Config := do
  let cacheCapacity ← number env "CACHE_CAPACITY" 10000
  let maxBatch ← number env "MAX_BATCH_SIZE" 100
  return {
    listen := text env "LISTEN" "0.0.0.0:3000"
    logLevel := text env "RUST_LOG" "info"
    logFormat := text env "LOG_FORMAT" "text"
    cacheCapacity, maxBatch
    behindProxy := switch env "BEHIND_PROXY" }

/-- Whether the settings are admitted. -/
def check (c : Config) : Except ConfigError Unit :=
  if !logFormats.contains c.logFormat then .error (.badLogFormat c.logFormat)
  else if !c.listen.contains ':' then .error (.badListen c.listen)
  else if maxCapacity < c.cacheCapacity then .error (.cacheTooLarge c.cacheCapacity)
  else if c.maxBatch = 0 || batchLimit < c.maxBatch then .error (.badBatchSize c.maxBatch)
  else .ok ()

/-- The settings that the variables give, if they are admitted. -/
def load (env : Env) : Except ConfigError Config := do
  let c ← ofEnv env
  c.check
  return c

/-- Whether deductions are remembered. -/
def remembers (c : Config) : Bool := 0 < c.cacheCapacity

def cache (c : Config) : Cache := Cache.ofCapacity c.cacheCapacity

end Config

def ConfigError.inQuotes (t : Text) : Text := '\'' :: t ++ ['\'']

/-- The wording of an error, the cause behind it last. -/
def ConfigError.chain : ConfigError → List Text
  | badNumber name raw cause => [name ++ " must be a non-negative integer, got " ++ inQuotes raw, cause.message]
  | badLogFormat given => ["LOG_FORMAT must be 'text' or 'json', got " ++ inQuotes given]
  | badListen given => ["LISTEN must be in format 'host:port', got " ++ inQuotes given]
  | cacheTooLarge given =>
    ["CACHE_CAPACITY is too large (max: " ++ Text.ofNat Config.maxCapacity ++ "), got " ++ Text.ofNat given]
  | badBatchSize given =>
    ["MAX_BATCH_SIZE must be between 1 and " ++ Text.ofNat Config.batchLimit ++ ", got " ++ Text.ofNat given]

end JobPosting
