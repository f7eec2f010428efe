import JobPosting.Cache
import JobPosting.Json

/-!
# Counters

How often something was deduced: a counter for every provider, and one for texts that are no posting URL.

* `Counters.record` : one more deduction.
* `Counters.count` : the counter of a label; `count_record` says what each deduction adds to it.
* `Counters.total` : all deductions together; `total_record` says that each one adds one.
* `Counters.lines` : the counters in the Prometheus text format, one a line, in the order of the lines.
-/

namespace JobPosting

/-- What a deduction is counted under. -/
inductive CounterLabel where
  | provider (name : Text)
  | noRecord
  deriving DecidableEq

def CounterLabel.ofOutcome : Outcome → CounterLabel
  | some r => .provider r.provider
  | none => .noRecord

/-- Counters of labels, in the order in which they appeared. -/
abbrev Counters := List (CounterLabel × Nat)

namespace Counters

def count (cs : Counters) (l : CounterLabel) : Nat := (cs.lookup l).getD 0

/-- One more of a label. -/
def bump (l : CounterLabel) : Counters → Counters
  | [] => [(l, 1)]
  | (k, n) :: r => if k = l then (k, n + 1) :: r else (k, n) :: bump l r

/-- One more deduction. -/
def record (cs : Counters) (outcome : Outcome) : Counters := bump (CounterLabel.ofOutcome outcome) cs

def total (cs : Counters) : Nat := cs.foldr (fun c n => c.2 + n) 0

theorem total_bump (l : CounterLabel) (cs : Counters) : (bump l cs).total = cs.total + 1 := by
  induction cs with
  | nil => rfl
  | cons c cs ih =>
    rw [bump]
    split
    · simp only [total, List.foldr_cons]
      omega
    · simp only [total, List.foldr_cons] at ih ⊢
      rw [ih]
      omega

theorem total_record (cs : Counters) (outcome : Outcome) : (cs.record outcome).total = cs.total + 1 :=
  total_bump _ cs

theorem count_bump (l k : CounterLabel) (cs : Counters) :
    (bump l cs).count k = cs.count k + if l = k then 1 else 0 := by
  induction cs with
  | nil =>
    by_cases h : l = k
    · subst h
      simp [bump, count]
    · have hk : (k == l) = false := by simpa using Ne.symm h
      simp [bump, count, List.lookup_cons, hk, h]
  | cons c cs ih =>
    obtain ⟨m, n⟩ := c
    unfold count at ih ⊢
    rw [bump]
    by_cases hm : m = l
    · subst hm
      rw [if_pos rfl]
      by_cases h : m = k
      · subst h
        simp
      · have hk : (k == m) = false := by simpa using Ne.symm h
        simp [List.lookup_cons, hk, h]
    · rw [if_neg hm]
      by_cases h : m = k
      · subst h
        simp [Ne.symm hm]
      · have hk : (k == m) = false := by simpa using Ne.symm h
        simpa only [List.lookup_cons, hk] using ih

/-- Every deduction adds one under its label, and nothing under any other. -/
theorem count_record (cs : Counters) (outcome : Outcome) (l : CounterLabel) :
    (cs.record outcome).count l = cs.count l + if CounterLabel.ofOutcome outcome = l then 1 else 0 :=
  count_bump _ l cs

/-! ## Text format -/

def metricName : Text := "jobhint_deductions_total"

def escapeChar (c : Char) : Text :=
  if c = '\\' then ['\\', '\\'] else if c = '"' then ['\\', '"'] else if c = '\n' then ['\\', 'n'] else [c]

/-- A name and a value of a label. -/
def printPair (name value : Text) : Text := name ++ '=' :: '"' :: value.flatMap escapeChar ++ ['"']

def printLabel : CounterLabel → Text
  | .provider name => printPair "provider" name
  | .noRecord => printPair "outcome" "empty"

def line (c : CounterLabel × Nat) : Text :=
  metricName ++ '\x7B' :: printLabel c.1 ++ '\x7D' :: ' ' :: Text.ofNat c.2

/-- The lines of all counters; none before the first deduction. -/
def lines (cs : Counters) : List Text :=
  if cs = [] then []
  else (("# TYPE " ++ metricName ++ " counter") :: cs.map line).mergeSort Json.nameLe

end Counters

end JobPosting
