import JobPosting.Counters
import JobPosting.Deduction
import JobPosting.JobForm
import JobPosting.Posting.Pasted

/-!
# The deduction service

Deductions with a cache and counters. A deduction is three separate steps: looking up, computing with counting, and
storing; only what was not found is computed, counted and stored. The cache may be of any kind.

* `Service.deduce` : the outcome of one text.
* `Service.deduceAll` : the outcomes of several texts, in their order.
* `Service.prefill` : a job form filled in from a pasted URL.
-/

namespace JobPosting

/-- A cache of any kind and the counters. -/
structure Service (σ : Type := Cache) where
  cache : σ
  counters : Counters
  deriving DecidableEq

namespace Service

variable {σ : Type}

/-- The service with a fresh cache. -/
def ofCache (c : σ) : Service σ := ⟨c, []⟩

/-! ## Steps -/

def look [CacheLike σ] (s : Service σ) (t : Text) : Lookup × Service σ :=
  let (found, cache) := CacheLike.get s.cache t
  (found, { s with cache })

/-- Computing the outcome of a text, which is counted. -/
def compute (s : Service σ) (t : Text) : Outcome × Service σ :=
  let outcome := JobPosting.deduce t
  (outcome, { s with counters := s.counters.record outcome })

def store [CacheLike σ] (s : Service σ) (t : Text) (outcome : Outcome) : Service σ :=
  { s with cache := CacheLike.put s.cache t outcome }

/-! ## Operations -/

/-- The outcome of a text. -/
def deduce [CacheLike σ] (s : Service σ) (t : Text) : Outcome × Service σ :=
  match s.look t with
  | (.hit outcome, s) => (outcome, s)
  | (_, s) =>
    let (outcome, s) := s.compute t
    (outcome, s.store t outcome)

/-- The outcomes of several texts, in their order. -/
def deduceAll [CacheLike σ] (s : Service σ) : List Text → List Outcome × Service σ
  | [] => ([], s)
  | t :: ts =>
    let (outcome, s) := s.deduce t
    let (outcomes, s) := deduceAll s ts
    (outcome :: outcomes, s)

/-- A job form after it was filled in from a pasted URL. -/
structure Prefilled where
  /-- The URL after clean-up. -/
  url : Text
  outcome : Outcome
  form : JobForm
  filled : List Slot

/-- A job form filled in from a pasted URL. -/
def prefill [CacheLike σ] (s : Service σ) (pasted : Text) (form : JobForm) (keepTracking : Bool) :
    Prefilled × Service σ :=
  let url := Pasted.clean pasted
  let (outcome, s) := s.deduce url
  let (form, filled) :=
    match outcome with
    | some r => form.prefill r keepTracking
    | none => (form, [])
  (⟨url, outcome, form, filled⟩, s)

end Service

def Service.Prefilled.toJson (p : Service.Prefilled) : Json :=
  .object [Json.textField "url" p.url, Json.field "deduced" (Record.answer p.outcome),
    Json.field "form" p.form.toJson, Json.field "filled" (.list (p.filled.map fun k => .text k.name))]

end JobPosting
