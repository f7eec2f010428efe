import JobPosting.Service

/-!
# Runs of a service

A service that is asked one thing after the other. A single text, a batch and a pasted URL all come down to
deductions of texts, one by one.

* `Operation`, `Service.perform` : what a service can be asked for, and what it answers.
* `Operation.texts` : the texts that an operation deduces, in their order.
* `Service.deductions`, `Service.history` : the individual deductions behind several texts, and behind a run, each with
  what the cache had found for it.

`Service.performAll_eq` and `Service.history_eq` say that a run is nothing but the deduction of its texts.
-/

namespace JobPosting

/-- What a service can be asked for. -/
inductive Operation where
  | single (t : Text)
  | batch (ts : List Text)
  /-- Filling in a form from a pasted URL. -/
  | prefill (pasted : Text) (form : JobForm) (keepTracking : Bool)

def Operation.texts : Operation → List Text
  | single t => [t]
  | batch ts => ts
  | prefill pasted _ _ => [Pasted.clean pasted]

/-- One deduction of a text. -/
structure Deduced where
  text : Text
  /-- What the cache had found before anything was computed. -/
  found : Lookup
  outcome : Outcome
  deriving DecidableEq

/-- Whether the outcome came from the cache. -/
def Deduced.isRemembered (d : Deduced) : Bool := d.found.isHit

/-- Whether the outcome was computed and is counted under the label. -/
def Deduced.countsAs (l : CounterLabel) (d : Deduced) : Bool :=
  !d.isRemembered && CounterLabel.ofOutcome d.outcome = l

namespace Service

variable {σ : Type} [CacheLike σ]

/-- The outcomes of an operation, and the service after it. -/
def perform (s : Service σ) : Operation → List Outcome × Service σ
  | .single t =>
    let (outcome, s) := s.deduce t
    ([outcome], s)
  | .batch ts => s.deduceAll ts
  | .prefill pasted form keepTracking =>
    let (filled, s) := s.prefill pasted form keepTracking
    ([filled.outcome], s)

/-- The outcomes of several operations, one after the other. -/
def performAll (s : Service σ) : List Operation → List Outcome × Service σ
  | [] => ([], s)
  | op :: ops =>
    let (outcomes, s) := s.perform op
    let (more, s) := performAll s ops
    (outcomes ++ more, s)

/-- The individual deductions of several texts. -/
def deductions (s : Service σ) : List Text → List Deduced
  | [] => []
  | t :: ts => ⟨t, (s.look t).1, (s.deduce t).1⟩ :: deductions (s.deduce t).2 ts

/-- The individual deductions of several operations. -/
def history (s : Service σ) : List Operation → List Deduced
  | [] => []
  | op :: ops => s.deductions op.texts ++ history (s.perform op).2 ops

/-! ## A run is the deduction of its texts -/

theorem deduceAll_cons (s : Service σ) (t : Text) (ts : List Text) :
    s.deduceAll (t :: ts) = ((s.deduce t).1 :: ((s.deduce t).2.deduceAll ts).1, ((s.deduce t).2.deduceAll ts).2) := rfl

theorem deduceAll_append (s : Service σ) (ts us : List Text) :
    s.deduceAll (ts ++ us) =
      ((s.deduceAll ts).1 ++ ((s.deduceAll ts).2.deduceAll us).1, ((s.deduceAll ts).2.deduceAll us).2) := by
  induction ts generalizing s with
  | nil => rfl
  | cons t ts ih =>
    rw [List.cons_append, deduceAll_cons, deduceAll_cons, ih]
    rfl

theorem deductions_append (s : Service σ) (ts us : List Text) :
    s.deductions (ts ++ us) = s.deductions ts ++ (s.deduceAll ts).2.deductions us := by
  induction ts generalizing s with
  | nil => rfl
  | cons t ts ih =>
    rw [List.cons_append, deductions, deductions, ih]
    rfl

theorem map_text_deductions (s : Service σ) (ts : List Text) : (s.deductions ts).map Deduced.text = ts := by
  induction ts generalizing s with
  | nil => rfl
  | cons t ts ih => rw [deductions, List.map_cons, ih]

theorem map_outcome_deductions (s : Service σ) (ts : List Text) :
    (s.deductions ts).map Deduced.outcome = (s.deduceAll ts).1 := by
  induction ts generalizing s with
  | nil => rfl
  | cons t ts ih => rw [deductions, List.map_cons, ih, deduceAll_cons]

theorem perform_eq (s : Service σ) (op : Operation) : s.perform op = s.deduceAll op.texts := by
  cases op with
  | single t => rfl
  | batch ts => rfl
  | prefill pasted form keepTracking => rfl

theorem performAll_eq (s : Service σ) (ops : List Operation) :
    s.performAll ops = s.deduceAll (ops.flatMap Operation.texts) := by
  induction ops generalizing s with
  | nil => rfl
  | cons op ops ih =>
    rw [List.flatMap_cons, deduceAll_append, ← perform_eq, ← ih]
    rfl

theorem history_eq (s : Service σ) (ops : List Operation) :
    s.history ops = s.deductions (ops.flatMap Operation.texts) := by
  induction ops generalizing s with
  | nil => rfl
  | cons op ops ih => rw [List.flatMap_cons, deductions_append, ← perform_eq, ← ih, history]

end Service

end JobPosting
