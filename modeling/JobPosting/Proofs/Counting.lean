import JobPosting.Proofs.Recency
import JobPosting.Service.Operations
import JobPosting.Service.Traffic

/-!
# Which deductions are counted

A service that is asked one thing after the other remembers the texts that it deduced last, as many as its cache holds,
and counts every deduction of another text.

* `Service.follows_deduce` : the cache of a service holds the texts deduced last; every deduction keeps it so, and
  `Service.follows_deduceAll` is the same for several.
* `Service.isRemembered_deductions_iff` : the outcome of a text is remembered exactly if the text is among them.
* `Service.count_deduceAll` : the counters count what was not remembered.
* `counted_exactly` : all of it for every run of a fresh service with a cache of any capacity.
-/

namespace JobPosting

namespace Service

/-! ## One deduction -/

section
variable {σ : Type} [CacheLike σ]

theorem deduce_of_isHit {s : Service σ} {t : Text} (h : (s.look t).1.isHit = true) :
    (s.deduce t).2 = (s.look t).2 := by
  cases hl : (s.look t).1 with
  | hit outcome => rw [deduce_of_hit hl]
  | miss =>
    rw [hl] at h
    cases h
  | failed =>
    rw [hl] at h
    cases h

theorem deduce_of_not_isHit {s : Service σ} {t : Text} (h : ¬(s.look t).1.isHit = true) :
    s.deduce t = (((s.look t).2.compute t).1, ((s.look t).2.compute t).2.store t ((s.look t).2.compute t).1) := by
  refine deduce_of_missed fun outcome hl => h ?_
  rw [hl]
  rfl

theorem look_counters (s : Service σ) (t : Text) : (s.look t).2.counters = s.counters := rfl

/-- A deduction is counted exactly if it is not remembered, and then under the label of its outcome. -/
theorem count_deduce (s : Service σ) (t : Text) (l : CounterLabel) :
    (s.deduce t).2.counters.count l = s.counters.count l + (s.deductions [t]).countP (Deduced.countsAs l) := by
  have hone : s.deductions [t] = [⟨t, (s.look t).1, (s.deduce t).1⟩] := rfl
  rw [hone, List.countP_singleton]
  by_cases h : (s.look t).1.isHit = true
  · have hno : Deduced.countsAs l ⟨t, (s.look t).1, (s.deduce t).1⟩ = false := by
      simp [Deduced.countsAs, Deduced.isRemembered, h]
    rw [deduce_of_isHit h, look_counters, hno]
    rfl
  · rw [deduce_of_not_isHit h]
    change (((s.look t).2.counters).record (JobPosting.deduce t)).count l = _
    rw [Counters.count_record, look_counters]
    have hcounts : Deduced.countsAs l ⟨t, (s.look t).1, JobPosting.deduce t⟩ =
        decide (CounterLabel.ofOutcome (JobPosting.deduce t) = l) := by
      simp [Deduced.countsAs, Deduced.isRemembered, h]
    rw [show ((s.look t).2.compute t).1 = JobPosting.deduce t from rfl, hcounts]
    simp only [decide_eq_true_eq]

/-- The counters after several deductions count those that were not remembered. -/
theorem count_deduceAll (s : Service σ) (ts : List Text) (l : CounterLabel) :
    (s.deduceAll ts).2.counters.count l = s.counters.count l + (s.deductions ts).countP (Deduced.countsAs l) := by
  induction ts generalizing s with
  | nil => rfl
  | cons t ts ih =>
    have hsplit : s.deductions (t :: ts) = s.deductions [t] ++ (s.deduce t).2.deductions ts := rfl
    rw [deduceAll_cons, ih, count_deduce, hsplit, List.countP_append, Nat.add_assoc]

end

/-! ## What is remembered -/

variable {n : Nat} {s : Service} {uses : List Text}

/-- Every deduction uses its text: it is found, or stored. -/
theorem follows_deduce (h : s.cache.Follows n uses) (t : Text) :
    (s.deduce t).2.cache.Follows n (uses ++ [t]) := by
  by_cases hhit : (s.look t).1.isHit = true
  · rw [deduce_of_isHit hhit]
    exact h.get_of_isHit hhit
  · have hsame : (s.look t).2.cache = s.cache := congrArg Prod.snd (h.get_of_not_isHit hhit)
    rw [deduce_of_not_isHit hhit]
    change ((s.look t).2.cache.put t _).Follows n (uses ++ [t])
    rw [hsame]
    exact h.put t _

theorem follows_deduceAll (h : s.cache.Follows n uses) (ts : List Text) :
    (s.deduceAll ts).2.cache.Follows n (uses ++ ts) := by
  induction ts generalizing s uses with
  | nil =>
    rw [List.append_nil]
    exact h
  | cons t ts ih =>
    rw [deduceAll_cons]
    simpa using ih (follows_deduce h t)

/-- A deduction is remembered exactly if its text is among the `n` texts deduced last before it. -/
theorem isRemembered_deductions_iff (h : s.cache.Follows n uses) {ts : List Text} {before after : List Deduced}
    {d : Deduced} (hd : s.deductions ts = before ++ d :: after) :
    d.isRemembered = true ↔ UsedWithin n (uses ++ before.map Deduced.text) d.text := by
  induction before generalizing s uses ts with
  | nil =>
    cases ts with
    | nil => cases hd
    | cons t ts =>
      obtain ⟨rfl, -⟩ := List.cons.inj hd
      rw [List.map_nil, List.append_nil]
      exact h.isHit_get_iff t
  | cons d' before ih =>
    cases ts with
    | nil => cases hd
    | cons t ts =>
      obtain ⟨rfl, hrest⟩ := List.cons.inj hd
      rw [ih (follows_deduce h t) hrest, List.map_cons, List.append_assoc, List.singleton_append]

end Service

/-! ## Runs of a fresh service -/

/-- In every run of a fresh service with a cache of capacity `n`, a deduction is remembered exactly if its text has been
deduced before and fewer than `n` different other texts have been deduced since the latest time; each counter tells how
many deductions under its label were not remembered; and the cache holds as many texts as have been deduced, but no
more than `n`. Nothing is ever remembered if `n` is zero. -/
theorem counted_exactly (n : Nat) (ops : List Operation) :
    let fresh : Service := .ofCache (.ofCapacity n)
    let s := (fresh.performAll ops).2
    let log := fresh.history ops
    log.map Deduced.text = ops.flatMap Operation.texts ∧
    log.map Deduced.outcome = (fresh.performAll ops).1 ∧
    (∀ before d after, log = before ++ d :: after →
      (d.isRemembered = true ↔ UsedWithin n (before.map Deduced.text) d.text)) ∧
    (∀ l, s.counters.count l =
      log.countP fun d => !d.isRemembered && CounterLabel.ofOutcome d.outcome = l) ∧
    s.cache.size = min n (ops.flatMap Operation.texts).dedup.length ∧
    (n = 0 → (∀ d ∈ log, d.isRemembered = false) ∧ s.cache.size = 0) := by
  intro fresh s log
  have hfresh : fresh.cache.Follows n [] := Cache.follows_ofCapacity n
  have hlog : log = fresh.deductions (ops.flatMap Operation.texts) := Service.history_eq fresh ops
  have hs : s = (fresh.deduceAll (ops.flatMap Operation.texts)).2 := by
    change (fresh.performAll ops).2 = _
    rw [Service.performAll_eq]
  have hremembered : ∀ before d after, log = before ++ d :: after →
      (d.isRemembered = true ↔ UsedWithin n (before.map Deduced.text) d.text) := by
    intro before d after hd
    rw [hlog] at hd
    exact Service.isRemembered_deductions_iff hfresh hd
  have hsize : s.cache.size = min n (ops.flatMap Operation.texts).dedup.length := by
    rw [hs]
    exact (Service.follows_deduceAll hfresh _).size_eq
  refine ⟨?_, ?_, hremembered, ?_, hsize, ?_⟩
  · rw [hlog, Service.map_text_deductions]
  · rw [hlog, Service.map_outcome_deductions, Service.performAll_eq]
  · intro l
    rw [hlog, hs, Service.count_deduceAll]
    exact Nat.zero_add _
  · rintro rfl
    refine ⟨fun d hd => ?_, by rw [hsize, Nat.zero_min]⟩
    obtain ⟨before, after, hsplit⟩ := List.append_of_mem hd
    rw [← Bool.not_eq_true, hremembered before d after hsplit]
    rintro ⟨_, since, _, _, hlt⟩
    exact Nat.not_lt_zero _ hlt

/-- With room for two texts, the third one drives out the one that has not been asked for longest. -/
example : ((Service.ofCache (Cache.ofCapacity 2)).deductions ["a", "b", "a", "c", "b"]).map Deduced.isRemembered =
    [false, false, true, false, false] := by
  decide +kernel

end JobPosting
