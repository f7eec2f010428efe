import JobPosting.Http.Client
import JobPosting.Http.RequestData
import JobPosting.Service

/-!
# The web application

The deduction service over HTTP.

* `Route` : the resources and the methods that each allows.
* `App.answer` : what a resource answers to a request that reaches it.
* `App.turnAway?` : which requests do not reach their resource.
* `App.handle` : the response to a request, and the application after it.
-/

namespace JobPosting

/-! ## Resources -/

inductive Route where
  | health
  | metrics
  | deduce
  | prefill
  | providers
  deriving DecidableEq

namespace Route

def path : Route → Text
  | health => "/health"
  | metrics => "/metrics"
  | deduce => "/api/deduce"
  | prefill => "/api/prefill"
  | providers => "/api/providers"

def all : List Route := [health, metrics, deduce, prefill, providers]

def at? (path : Text) : Option Route := all.find? (·.path = path)

def methods : Route → List Text
  | prefill => ["POST"]
  | deduce => ["GET", "HEAD", "POST"]
  | _ => ["GET", "HEAD"]

/-- Whether a resource is part of the API, where clients have to be known. -/
def isLimited : Route → Bool
  | health | metrics => false
  | _ => true

end Route

/-! ## The application -/

/-- The application with its settings. -/
structure App where
  service : Service
  maxBatch : Nat
  /-- Whether requests come through a proxy that names the client. -/
  behindProxy : Bool

namespace App

def version : Text := "0.1.0"

/-! ### Health -/

/-- The state of a part of the application. -/
def check (isOk : Bool) (message : Text) : Json :=
  .object [Json.textField "status" (if isOk then "ok" else "error"), Json.textField "message" message]

def registryCheck : Json := check true (Text.ofNat knownProviders.length ++ " providers")

def cacheCheck (c : Cache) : Json :=
  if c.isHealthy then check true (c.kind ++ ", " ++ Text.ofNat c.size ++ " entries")
  else check false (c.kind ++ " cache unavailable")

def health (a : App) : Response :=
  let cache := a.service.cache
  .ofJson (if cache.isHealthy then 200 else 503) (.object
    [Json.textField "status" (if cache.isHealthy then "healthy" else "degraded"), Json.textField "version" version,
      Json.field "checks" (.object [Json.field "registry" registryCheck, Json.field "cache" (cacheCheck cache)])])

/-! ### Other resources -/

def metrics (a : App) : Response :=
  ⟨200, some "text/plain; version=0.0.4", none, .lines (Counters.lines a.service.counters)⟩

def listingJson (l : Listing) : Json :=
  .object [Json.textField "name" l.name, Json.textField "kind" l.kind,
    Json.field "domains" (.list (l.domains.map Json.text))]

def providers : Response := .ofJson 200 (.list (Registry.listing knownProviders |>.map listingJson))

def deduceOne (a : App) (url : Text) : Response × App :=
  let (outcome, service) := a.service.deduce url
  (.ofJson 200 (Record.answer outcome), { a with service })

def batchJson (urls : List Text) (outcomes : List Outcome) : Json :=
  let recognized := outcomes.countP Option.isSome
  .object
    [Json.field "summary" (.object
      [Json.field "total" (.count outcomes.length), Json.field "recognized" (.count recognized),
        Json.field "empty" (.count (outcomes.length - recognized))]),
      Json.field "items" (.list ((urls.zip outcomes).map fun (url, outcome) =>
        .object [Json.textField "url" url, Json.field "fields" (Record.answer outcome)]))]

def deduceBatch (a : App) (urls : List Text) : Response × App :=
  let (outcomes, service) := a.service.deduceAll urls
  (.ofJson 200 (batchJson urls outcomes), { a with service })

def prefill (a : App) (d : PrefillData) : Response × App :=
  let (filled, service) := a.service.prefill d.url d.form d.keepTracking
  (.ofJson 200 filled.toJson, { a with service })

/-! ### Requests -/

/-- The answer to data that may be refused; a refusal changes nothing. -/
def answerTo {α : Type} (a : App) (data : Except RequestError α) (f : α → Response × App) : Response × App :=
  match data with
  | .ok d => f d
  | .error e => (e.response, a)

/-- What a resource answers to a request with a method that it allows. -/
def answer (a : App) (route : Route) (r : Request) : Response × App :=
  match route with
  | .health => (a.health, a)
  | .metrics => (a.metrics, a)
  | .providers => (providers, a)
  | .prefill => a.answerTo r.prefill a.prefill
  | .deduce =>
    if r.method = "POST" then a.answerTo (r.batch a.maxBatch) a.deduceBatch
    else a.answerTo r.singleUrl a.deduceOne

/-- The response to a method that a resource does not allow. -/
def refuseMethod (route : Route) (status : Nat) : Response :=
  { Response.ofStatus status with allow := some (Text.join [','] route.methods) }

/-- The status with which the API turns a request away before its resource sees it: clients have to be known, and may
only make so many requests. -/
def turnAway? (a : App) (route : Route) (r : Request) : Option Nat :=
  if !route.isLimited then none
  else if (Client.key? a.behindProxy r).isNone then some 500
  else if r.isOverLimit then some 429
  else none

/-- The response to a request, and the application after it. -/
def handle (a : App) (r : Request) : Response × App :=
  match Route.at? r.path with
  | none => (.ofStatus 404, a)
  | some route =>
    if !route.methods.contains r.method then (refuseMethod route ((a.turnAway? route r).getD 405), a)
    else match a.turnAway? route r with
      | some status => (.ofStatus status, a)
      | none =>
        let (response, a) := a.answer route r
        (if r.method = "HEAD" then response.withoutContent else response, a)

/-- The responses to several requests, one after the other. -/
def handleAll (a : App) : List Request → List Response × App
  | [] => ([], a)
  | r :: rs =>
    let (response, a) := a.handle r
    let (responses, a) := handleAll a rs
    (response :: responses, a)

end App

end JobPosting
