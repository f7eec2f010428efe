import JobPosting.Service

/-!
# Calls in flight

Many calls share one service. Each takes its three steps one at a time, and the steps of different calls come in any
order: two calls for one text may both miss, both compute, and store one over the other.

* `Call` : a text, and how far the call for it has come.
* `Service.advance` : the next step of a call.
* `Traffic` : a service with the calls that it has received.
* `Traffic.run` : what calls that arrive and take turns make of it.

`Service.run_deduce` says that a call which nobody interrupts is `Service.deduce`.
-/

namespace JobPosting

/-! ## Calls -/

/-- How far a call has come. -/
inductive Stage where
  | asked
  /-- The cache has answered; after a hit the call has returned. -/
  | looked (found : Lookup)
  /-- The outcome has been computed and counted. -/
  | computed (found : Lookup) (outcome : Outcome)
  /-- The outcome has been handed to the cache, and the call has returned. -/
  | stored (found : Lookup) (outcome : Outcome)
  deriving DecidableEq

/-- A call for the outcome of a text. -/
structure Call where
  text : Text
  stage : Stage
  deriving DecidableEq

namespace Call

/-- A call that has just been made. -/
def ofText (t : Text) : Call := ⟨t, .asked⟩

/-- What the cache answered to the call. -/
def lookup? (c : Call) : Option Lookup :=
  match c.stage with
  | .asked => none
  | .looked found => some found
  | .computed found _ => some found
  | .stored found _ => some found

/-- What the call has returned. -/
def answer? (c : Call) : Option Outcome :=
  match c.stage with
  | .looked (.hit outcome) => some outcome
  | .stored _ outcome => some outcome
  | _ => none

/-- Whether the call has passed its computation. -/
def hasComputed (c : Call) : Bool :=
  match c.stage with
  | .computed .. => true
  | .stored .. => true
  | _ => false

/-- Whether the call's lookup missed or failed. -/
def hasMissed (c : Call) : Bool :=
  match c.lookup? with
  | some .miss => true
  | some .failed => true
  | _ => false

/-- How many steps are left for the call at most. -/
def stepsLeft (c : Call) : Nat :=
  match c.stage with
  | .asked => 3
  | .looked (.hit _) => 0
  | .looked _ => 2
  | .computed .. => 1
  | .stored .. => 0

end Call

/-! ## Turns -/

variable {σ : Type}

/-- The next step of a call; a call that has returned takes no more steps. -/
def Service.advance [CacheLike σ] (s : Service σ) (c : Call) : Call × Service σ :=
  match c.stage with
  | .asked =>
    let (found, s) := s.look c.text
    ({ c with stage := .looked found }, s)
  | .looked (.hit _) => (c, s)
  | .looked found =>
    let (outcome, s) := s.compute c.text
    ({ c with stage := .computed found outcome }, s)
  | .computed found outcome => ({ c with stage := .stored found outcome }, s.store c.text outcome)
  | .stored .. => (c, s)

/-- A service and all calls that it has received. -/
structure Traffic (σ : Type) where
  service : Service σ
  calls : List Call
  deriving DecidableEq

namespace Traffic

/-- What may happen next. -/
inductive Event where
  /-- Someone calls. -/
  | arrival (t : Text)
  /-- The call at this position takes its next step. -/
  | turn (n : Nat)
  deriving DecidableEq

/-- A fresh service that nobody has called. -/
def ofCache (c : σ) : Traffic σ := ⟨Service.ofCache c, []⟩

/-- What an event makes of a service and its calls. -/
def step [CacheLike σ] (w : Traffic σ) : Event → Traffic σ
  | .arrival t => { w with calls := w.calls ++ [Call.ofText t] }
  | .turn n =>
    match w.calls[n]? with
    | some c => ⟨(w.service.advance c).2, w.calls.set n (w.service.advance c).1⟩
    | none => w

/-- What several events make of a service and its calls, one after the other. -/
def run [CacheLike σ] (w : Traffic σ) (es : List Event) : Traffic σ := es.foldl step w

end Traffic

/-! ## A call on its own -/

namespace Service

variable [CacheLike σ]

theorem advance_ofText (s : Service σ) (t : Text) :
    s.advance (Call.ofText t) = (⟨t, .looked (s.look t).1⟩, (s.look t).2) := rfl

theorem advance_hit (s : Service σ) (t : Text) (outcome : Outcome) :
    s.advance ⟨t, .looked (.hit outcome)⟩ = (⟨t, .looked (.hit outcome)⟩, s) := rfl

theorem advance_missed (s : Service σ) (t : Text) {found : Lookup} (h : ∀ outcome, found ≠ .hit outcome) :
    s.advance ⟨t, .looked found⟩ = (⟨t, .computed found (s.compute t).1⟩, (s.compute t).2) := by
  cases found with
  | hit outcome => exact absurd rfl (h outcome)
  | miss => rfl
  | failed => rfl

theorem advance_computed (s : Service σ) (t : Text) (found : Lookup) (outcome : Outcome) :
    s.advance ⟨t, .computed found outcome⟩ = (⟨t, .stored found outcome⟩, s.store t outcome) := rfl

theorem deduce_of_hit {s : Service σ} {t : Text} {outcome : Outcome} (h : (s.look t).1 = .hit outcome) :
    s.deduce t = (outcome, (s.look t).2) := by
  have e : s.look t = (.hit outcome, (s.look t).2) := Prod.ext h rfl
  unfold deduce
  rw [e]

theorem deduce_of_missed {s : Service σ} {t : Text} (h : ∀ outcome, (s.look t).1 ≠ .hit outcome) :
    s.deduce t = (((s.look t).2.compute t).1, ((s.look t).2.compute t).2.store t ((s.look t).2.compute t).1) := by
  unfold deduce
  split
  · rename_i hl
    exact absurd (congrArg Prod.fst hl) (h _)
  · rename_i hl
    rw [hl]

/-- A call that nobody interrupts takes three turns and returns what `Service.deduce` returns. -/
theorem run_deduce (s : Service σ) (calls : List Call) (t : Text) :
    ∃ c : Call, c.text = t ∧ c.answer? = some (s.deduce t).1 ∧
      (Traffic.mk s calls).run (.arrival t :: List.replicate 3 (.turn calls.length)) =
        ⟨(s.deduce t).2, calls ++ [c]⟩ := by
  have hturn : ∀ (s : Service σ) (c : Call), (Traffic.mk s (calls ++ [c])).step (.turn calls.length) =
      ⟨(s.advance c).2, calls ++ [(s.advance c).1]⟩ := by
    intro s c
    simp [Traffic.step]
  simp only [Traffic.run, List.replicate, List.foldl_cons, List.foldl_nil]
  rw [show (Traffic.mk s calls).step (.arrival t) = ⟨s, calls ++ [Call.ofText t]⟩ from rfl, hturn, hturn, hturn,
    advance_ofText]
  by_cases h : ∃ outcome, (s.look t).1 = .hit outcome
  · obtain ⟨outcome, h⟩ := h
    rw [h, advance_hit, advance_hit, deduce_of_hit h]
    exact ⟨_, rfl, rfl, rfl⟩
  · rw [not_exists] at h
    rw [advance_missed _ _ h, advance_computed, deduce_of_missed h]
    exact ⟨_, rfl, rfl, rfl⟩

end Service

end JobPosting
