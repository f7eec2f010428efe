import JobPosting.Http.MediaType
import JobPosting.Http.Message
import JobPosting.JobForm
import JobPosting.Json.Shape
import JobPosting.Text.Bytes
import JobPosting.Text.FormEncoded

/-!
# Request data

What the requests of the API carry, and what may be wrong with it.

* `RequestError` : the reasons to refuse a request, with the response to each.
* `Request.singleUrl`, `Request.batch`, `Request.prefill` : the data of the three kinds of requests.
-/

namespace JobPosting

/-- Why a request is refused. -/
inductive RequestError where
  /-- The query does not give the URL exactly once. -/
  | badQuery
  | notJson
  | tooLarge
  /-- The body is no JSON, or not of the right shape. -/
  | badBody (fault : Json.Fault)
  /-- A URL is empty or too long. -/
  | badLength
  | noUrls
  | urlTooLong
  | tooMany (limit given : Nat)
  deriving DecidableEq

/-! ## Limits -/

/-- The longest URL, in characters for a single one and in bytes for one of a batch. -/
def maxUrlLength : Nat := 8192

/-- The largest body in bytes. -/
def maxBodySize : Nat := 2097152

/-! ## Responses to errors -/

namespace RequestError

/-- The value that explains a validation error. -/
def explanation (message : Text) (details : List (Text × Json)) : Json :=
  .object [Json.field "error" (.object
    [Json.textField "code" "validation_error", Json.textField "message" message,
      Json.field "details" (.object details)])]

/-- The response to a field that breaks a rule. -/
def ofField (name rule : Text) : Response :=
  .ofJson 400 (explanation "Request validation failed"
    [Json.field "fields" (.list [.text name]), Json.textField "reason" (name ++ ": " ++ rule)])

def response : RequestError → Response
  | badQuery => .ofRefusal 400
  | notJson => .ofRefusal 415
  | tooLarge => .ofRefusal 413
  | badBody .malformed => .ofRefusal 400
  | badBody .mismatched => .ofRefusal 422
  | badLength => ofField "url" "Validation error: length"
  | noUrls => ofField "urls" "At least one URL is required"
  | urlTooLong => ofField "urls" ("URL exceeds " ++ Text.ofNat maxUrlLength ++ " bytes")
  | tooMany limit given =>
    .ofJson 400 (explanation "Too many URLs in batch"
      [Json.field "max" (.count limit), Json.field "got" (.count given)])

end RequestError

/-! ## Data -/

/-- What a request to fill in a form carries. -/
structure PrefillData where
  url : Text
  form : JobForm
  keepTracking : Bool

namespace Request

/-- A single URL of an admitted length. -/
def checkUrl (url : Text) : Except RequestError Text :=
  if 0 < url.length && url.length ≤ maxUrlLength then .ok url else .error .badLength

/-- The only URL of the query. -/
def singleUrl (r : Request) : Except RequestError Text :=
  match (Text.formPairs r.query).filter (·.1 = "url".toList) with
  | [(_, url)] => checkUrl url
  | _ => .error .badQuery

/-- The body, if it is declared to be JSON and is not too large. -/
def jsonBody (r : Request) : Except RequestError Text :=
  if !((r.header? "content-type").bind MediaType.read?).any MediaType.isJson then .error .notJson
  else if maxBodySize < Text.byteCount r.body then .error .tooLarge
  else .ok r.body

/-- The value of a JSON body. -/
def readBody {α : Type} (r : Request) (p : Json.Parser α) : Except RequestError α :=
  match r.jsonBody with
  | .error e => .error e
  | .ok body =>
    match Json.readAs p body with
    | .ok v => .ok v
    | .error fault => .error (.badBody fault)

/-! ### Batches -/

/-- The shape of a batch. -/
def batchShape : Json.Parser (Option (List Text)) :=
  Json.struct
    [{ name := "urls"
       isRequired := true
       isSet := Option.isSome
       read := fun _ ts => (Json.textList ts).map fun (urls, rest) => (some urls, rest) }]
    none

/-- A batch of admitted size with URLs of admitted lengths. -/
def checkBatch (limit : Nat) (urls : List Text) : Except RequestError (List Text) :=
  if urls = [] then .error .noUrls
  else if urls.any fun url => maxUrlLength < Text.byteCount url then .error .urlTooLong
  else if limit < urls.length then .error (.tooMany limit urls.length)
  else .ok urls

/-- The URLs of a batch. -/
def batch (limit : Nat) (r : Request) : Except RequestError (List Text) :=
  (r.readBody batchShape).bind fun urls => checkBatch limit (urls.getD [])

/-! ### Forms -/

/-- What has been read of a form: its entries, and the slots that were given. -/
structure FormDraft where
  form : JobForm
  given : List Slot

/-- The shape of a form. -/
def formShape : Json.Parser FormDraft :=
  Json.struct
    (Slot.all.map fun k =>
      { name := k.name
        isRequired := false
        isSet := fun d => d.given.contains k
        read := fun d ts => (Json.textOrNull ts).map fun (v, rest) => (⟨d.form.set k v, k :: d.given⟩, rest) })
    ⟨JobForm.empty, []⟩

/-- What has been read of a request to fill in a form. -/
structure PrefillDraft where
  url : Option Text
  form : Option JobForm
  keepTracking : Option Bool

/-- The shape of a request to fill in a form. -/
def prefillShape : Json.Parser PrefillDraft :=
  Json.struct
    [{ name := "url"
       isRequired := true
       isSet := fun d => d.url.isSome
       read := fun d ts => (Json.textValue ts).map fun (v, rest) => ({ d with url := some v }, rest) },
      { name := "form"
        isRequired := false
        isSet := fun d => d.form.isSome
        read := fun d ts => (formShape ts).map fun (v, rest) => ({ d with form := some v.form }, rest) },
      { name := "disableAts"
        isRequired := false
        isSet := fun d => d.keepTracking.isSome
        read := fun d ts => (Json.boolValue ts).map fun (v, rest) => ({ d with keepTracking := some v }, rest) }]
    ⟨none, none, none⟩

/-- The data of a request to fill in a form. -/
def prefill (r : Request) : Except RequestError PrefillData :=
  (r.readBody prefillShape).bind fun d =>
    (checkUrl (d.url.getD [])).map fun url => ⟨url, d.form.getD JobForm.empty, d.keepTracking.getD false⟩

end Request

end JobPosting
