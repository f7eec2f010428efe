import JobPosting.Proofs.Caching
import JobPosting.Service.Traffic

/-!
# Memoization makes no difference

A service gives the outcomes of `deduce`, whatever cache it has and however its calls interleave.

* `Call.Sound`, `Traffic.Sound` : the invariant. What a call carries is right, only right outcomes have been put into
  the cache, and the counters add up to the calls that have passed their computation.
* `Traffic.Sound.step`, `Traffic.Sound.run` : every event keeps it.
* `Traffic.answer_of_turns` : a call that gets three turns has returned.
* `memoization_transparent` : all of it for a fresh service whose cache never finds what was not put before.
-/

namespace JobPosting

open CacheLike (Hits HoldsOnlyPuts Reaches)

/-! ## Calls -/

namespace Call

/-- What a call carries is right: a hit is the outcome of its text, and only what the cache did not know is computed. -/
def Sound (c : Call) : Prop :=
  match c.stage with
  | .asked => True
  | .looked found => ∀ outcome, found = .hit outcome → outcome = deduce c.text
  | .computed found outcome => (∀ o, found ≠ .hit o) ∧ outcome = deduce c.text
  | .stored found outcome => (∀ o, found ≠ .hit o) ∧ outcome = deduce c.text

theorem Sound.answer_eq {c : Call} (h : c.Sound) {outcome : Outcome} (ha : c.answer? = some outcome) :
    outcome = deduce c.text := by
  obtain ⟨t, stage⟩ := c
  cases stage with
  | asked => cases ha
  | looked found =>
    cases found with
    | hit o =>
      obtain rfl : o = outcome := Option.some.inj ha
      exact h _ rfl
    | miss => cases ha
    | failed => cases ha
  | computed found o => cases ha
  | stored found o =>
    obtain rfl : o = outcome := Option.some.inj ha
    exact h.2

theorem hasMissed_of_lookup {c : Call} {found : Lookup} (hl : c.lookup? = some found) (h : ∀ o, found ≠ .hit o) :
    c.hasMissed = true := by
  unfold hasMissed
  rw [hl]
  cases found with
  | hit o => exact absurd rfl (h o)
  | miss => rfl
  | failed => rfl

theorem Sound.hasMissed {c : Call} (h : c.Sound) (hc : c.hasComputed = true) : c.hasMissed = true := by
  obtain ⟨t, stage⟩ := c
  cases stage with
  | asked => cases hc
  | looked found => cases hc
  | computed found o => exact hasMissed_of_lookup rfl h.1
  | stored found o => exact hasMissed_of_lookup rfl h.1

/-- A call that has returned although the cache did not help has computed. -/
theorem hasComputed_of_hasMissed {c : Call} (hm : c.hasMissed = true) (ha : c.answer? ≠ none) :
    c.hasComputed = true := by
  obtain ⟨t, stage⟩ := c
  cases stage with
  | asked => cases hm
  | looked found =>
    cases found with
    | hit o => cases hm
    | miss => exact absurd rfl ha
    | failed => exact absurd rfl ha
  | computed found o => rfl
  | stored found o => rfl

theorem stepsLeft_le (c : Call) : c.stepsLeft ≤ 3 := by
  obtain ⟨t, stage⟩ := c
  rcases stage with _ | (_ | _ | _) | _ | _ <;> simp [stepsLeft]

theorem answer_of_stepsLeft {c : Call} (h : c.stepsLeft = 0) : ∃ outcome, c.answer? = some outcome := by
  obtain ⟨t, stage⟩ := c
  cases stage with
  | asked => cases h
  | looked found =>
    cases found with
    | hit o => exact ⟨o, rfl⟩
    | miss => cases h
    | failed => cases h
  | computed found o => cases h
  | stored found o => exact ⟨o, rfl⟩

end Call

/-! ## One step of a call -/

variable {σ : Type} [CacheLike σ] {s₀ : σ}

/-- The cache has been reached by putting right outcomes only. -/
def CacheLike.ReachesSoundly (s₀ s : σ) : Prop := ∃ puts, Reaches s₀ puts s ∧ ∀ e ∈ puts, e.2 = deduce e.1

namespace CacheLike.ReachesSoundly

theorem get {s : σ} (h : ReachesSoundly s₀ s) (key : Text) : ReachesSoundly s₀ (CacheLike.get s key).2 := by
  obtain ⟨puts, hs, hp⟩ := h
  exact ⟨puts, hs.get key, hp⟩

theorem put {s : σ} (h : ReachesSoundly s₀ s) (key : Text) : ReachesSoundly s₀ (CacheLike.put s key (deduce key)) := by
  obtain ⟨puts, hs, hp⟩ := h
  refine ⟨_, hs.put key _, fun e he => ?_⟩
  rcases List.mem_cons.1 he with rfl | he
  · rfl
  · exact hp e he

/-- Whatever is held, under any notion that only counts what was put, is right. -/
theorem holds_eq {s : σ} (h : ReachesSoundly s₀ s) {Holds : σ → Text → Outcome → Prop} (hh : HoldsOnlyPuts s₀ Holds)
    {key : Text} {outcome : Outcome} (hk : Holds s key outcome) : outcome = deduce key := by
  obtain ⟨puts, hs, hp⟩ := h
  exact hp _ (hh puts s hs key outcome hk)

end CacheLike.ReachesSoundly

namespace Service

open CacheLike (ReachesSoundly)

theorem advance_text (s : Service σ) (c : Call) : (s.advance c).1.text = c.text := by
  obtain ⟨t, stage⟩ := c
  rcases stage with _ | (_ | _ | _) | _ | _ <;> rfl

theorem advance_stepsLeft (s : Service σ) (c : Call) : (s.advance c).1.stepsLeft ≤ c.stepsLeft - 1 := by
  obtain ⟨t, stage⟩ := c
  cases stage with
  | asked =>
    change Call.stepsLeft ⟨t, .looked (s.look t).1⟩ ≤ 2
    cases (s.look t).1 <;> simp [Call.stepsLeft]
  | looked found => cases found <;> exact Nat.le_refl _
  | computed found outcome => exact Nat.le_refl _
  | stored found outcome => exact Nat.le_refl _

theorem advance_sound (hf : HoldsOnlyPuts s₀ Hits) {s : Service σ} {c : Call} (hs : ReachesSoundly s₀ s.cache)
    (hc : c.Sound) : (s.advance c).1.Sound ∧ ReachesSoundly s₀ (s.advance c).2.cache := by
  obtain ⟨t, stage⟩ := c
  cases stage with
  | asked => exact ⟨fun outcome ho => hs.holds_eq hf ho, hs.get t⟩
  | looked found =>
    by_cases hl : ∃ outcome, found = .hit outcome
    · obtain ⟨outcome, rfl⟩ := hl
      exact ⟨hc, hs⟩
    · rw [not_exists] at hl
      rw [advance_missed s t hl]
      exact ⟨⟨hl, rfl⟩, hs⟩
  | computed found outcome =>
    obtain ⟨hl, rfl⟩ : _ ∧ outcome = JobPosting.deduce t := hc
    exact ⟨⟨hl, rfl⟩, hs.put t⟩
  | stored found outcome => exact ⟨hc, hs⟩

/-- A step counts one deduction exactly if it brings the call past its computation. -/
theorem advance_total (s : Service σ) (c : Call) :
    (s.advance c).2.counters.total + c.hasComputed.toNat =
      s.counters.total + (s.advance c).1.hasComputed.toNat := by
  obtain ⟨t, stage⟩ := c
  cases stage with
  | asked => rfl
  | looked found =>
    by_cases hl : ∃ outcome, found = .hit outcome
    · obtain ⟨outcome, rfl⟩ := hl
      rfl
    · rw [not_exists] at hl
      rw [advance_missed s t hl]
      exact Counters.total_record _ _
  | computed found outcome => rfl
  | stored found outcome => rfl

end Service

/-! ## Interleaved calls -/

namespace Traffic

/-- The invariant of a service and its calls. -/
structure Sound (s₀ : σ) (w : Traffic σ) : Prop where
  cache : CacheLike.ReachesSoundly s₀ w.service.cache
  calls : ∀ c ∈ w.calls, c.Sound
  counters : w.service.counters.total = w.calls.countP Call.hasComputed

theorem sound_ofCache (s₀ : σ) : (ofCache s₀).Sound s₀ where
  cache := ⟨[], .start, fun _ h => nomatch h⟩
  calls := fun _ h => nomatch h
  counters := rfl

theorem step_turn {w : Traffic σ} {n : Nat} {c : Call} (h : w.calls[n]? = some c) :
    w.step (.turn n) = ⟨(w.service.advance c).2, w.calls.set n (w.service.advance c).1⟩ := by
  simp only [step, h]

theorem Sound.step (hf : HoldsOnlyPuts s₀ Hits) {w : Traffic σ} (h : w.Sound s₀) (e : Event) :
    (w.step e).Sound s₀ := by
  cases e with
  | arrival t =>
    refine ⟨h.cache, fun c hc => ?_, ?_⟩
    · rcases List.mem_append.1 hc with hc | hc
      · exact h.calls c hc
      · rw [List.mem_singleton.1 hc]
        trivial
    · change w.service.counters.total = (w.calls ++ [Call.ofText t]).countP Call.hasComputed
      rw [List.countP_append, h.counters]
      rfl
  | turn n =>
    cases hn : w.calls[n]? with
    | none => simpa only [Traffic.step, hn] using h
    | some c =>
      obtain ⟨hlt, hget⟩ := List.getElem?_eq_some_iff.1 hn
      have hc := h.calls c (List.mem_of_getElem? hn)
      have hadv := Service.advance_sound hf h.cache hc
      rw [step_turn hn]
      refine ⟨hadv.2, fun d hd => ?_, ?_⟩
      · rcases List.mem_or_eq_of_mem_set hd with hd | rfl
        · exact h.calls d hd
        · exact hadv.1
      · -- the call at `n` leaves the count and comes back as it is after its step
        have htot := Service.advance_total w.service c
        have hpos : c.hasComputed.toNat ≤ w.calls.countP Call.hasComputed := by
          cases hcc : c.hasComputed with
          | false => exact Nat.zero_le _
          | true => exact List.countP_pos_iff.2 ⟨c, List.mem_of_getElem? hn, hcc⟩
        have hb : ∀ b : Bool, (if b = true then 1 else 0) = b.toNat := by decide
        change (w.service.advance c).2.counters.total = _
        rw [List.countP_set hlt, hget, hb, hb]
        rw [h.counters] at htot
        omega

theorem Sound.run (hf : HoldsOnlyPuts s₀ Hits) (es : List Event) {w : Traffic σ} (h : w.Sound s₀) :
    (w.run es).Sound s₀ := by
  induction es generalizing w with
  | nil => exact h
  | cons e es ih => exact ih (h.step hf e)

/-- Turns of one call bring it nearer to its return. -/
theorem run_turns (k : Nat) {w : Traffic σ} {n : Nat} {c : Call} (h : w.calls[n]? = some c) :
    ∃ c', (w.run (List.replicate k (.turn n))).calls[n]? = some c' ∧ c'.text = c.text ∧
      c'.stepsLeft ≤ c.stepsLeft - k := by
  induction k generalizing w c with
  | zero => exact ⟨c, h, rfl, Nat.le_refl _⟩
  | succ k ih =>
    obtain ⟨hlt, -⟩ := List.getElem?_eq_some_iff.1 h
    have hn : (w.step (.turn n)).calls[n]? = some (w.service.advance c).1 := by
      rw [step_turn h]
      exact List.getElem?_set_self hlt
    obtain ⟨c', hc', ht, hl⟩ := ih hn
    have hstep := Service.advance_stepsLeft w.service c
    exact ⟨c', hc', ht.trans (Service.advance_text _ _), by omega⟩

/-- A call that gets three turns has returned, whatever happened before. -/
theorem answer_of_turns {w : Traffic σ} {n : Nat} {c : Call} (h : w.calls[n]? = some c) :
    ∃ c' outcome, (w.run (List.replicate 3 (.turn n))).calls[n]? = some c' ∧ c'.text = c.text ∧
      c'.answer? = some outcome := by
  obtain ⟨c', hc', ht, hl⟩ := run_turns 3 h
  have h3 := c.stepsLeft_le
  obtain ⟨outcome, ho⟩ := Call.answer_of_stepsLeft (show c'.stepsLeft = 0 by omega)
  exact ⟨c', outcome, hc', ht, ho⟩

/-- When all calls have returned, those that computed are those whose lookup missed or failed. -/
theorem Sound.countP_hasMissed {w : Traffic σ} (h : w.Sound s₀) (hall : ∀ c ∈ w.calls, c.answer? ≠ none) :
    w.calls.countP Call.hasComputed = w.calls.countP Call.hasMissed :=
  List.countP_congr fun c hc =>
    ⟨(h.calls c hc).hasMissed, fun hm => Call.hasComputed_of_hasMissed hm (hall c hc)⟩

end Traffic

/-! ## Transparency -/

/-- Memoization makes no difference. For a cache that never finds what was not put under the same key before, after any
events: a call that has returned has returned what `deduce` computes, a call that gets its turns returns that, and so
does one that nobody interrupts; whatever the cache may be said to hold is right; and the counters add up to the calls
that have passed their computation, which are calls whose lookup missed or failed, and all of these when every call has
returned. -/
theorem memoization_transparent (hf : HoldsOnlyPuts s₀ Hits) (es : List Traffic.Event) :
    let w := (Traffic.ofCache s₀).run es
    (∀ c ∈ w.calls, ∀ outcome, c.answer? = some outcome → outcome = deduce c.text) ∧
    (∀ n c, w.calls[n]? = some c → ∃ c', (w.run (List.replicate 3 (.turn n))).calls[n]? = some c' ∧
      c'.text = c.text ∧ c'.answer? = some (deduce c.text)) ∧
    (∀ t, (w.service.deduce t).1 = deduce t) ∧
    (∀ Holds : σ → Text → Outcome → Prop, HoldsOnlyPuts s₀ Holds →
      ∀ key outcome, Holds w.service.cache key outcome → outcome = deduce key) ∧
    w.service.counters.total = w.calls.countP Call.hasComputed ∧
    (∀ c ∈ w.calls, c.hasComputed = true → c.hasMissed = true) ∧
    ((∀ c ∈ w.calls, c.answer? ≠ none) → w.service.counters.total = w.calls.countP Call.hasMissed) := by
  intro w
  have hw : w.Sound s₀ := (Traffic.sound_ofCache s₀).run hf es
  refine ⟨fun c hc outcome ho => (hw.calls c hc).answer_eq ho, ?_, ?_, fun Holds hh key outcome => hw.cache.holds_eq hh,
    hw.counters, fun c hc => (hw.calls c hc).hasMissed, fun hall => hw.counters.trans (hw.countP_hasMissed hall)⟩
  · intro n c hn
    obtain ⟨c', outcome, hc', ht, ho⟩ := Traffic.answer_of_turns hn
    have hs := (hw.run hf (List.replicate 3 (.turn n))).calls c' (List.mem_of_getElem? hc')
    exact ⟨c', hc', ht, by rw [ho, hs.answer_eq ho, ht]⟩
  · intro t
    obtain ⟨c, ht, ha, hrun⟩ := Service.run_deduce w.service w.calls t
    have hs := (hw.run hf (.arrival t :: List.replicate 3 (.turn w.calls.length))).calls c (by
      rw [show w = ⟨w.service, w.calls⟩ from rfl, hrun]
      exact List.mem_append_right _ (List.mem_singleton_self c))
    rw [← ht]
    exact ht ▸ hs.answer_eq ha

/-- A memory of one entry whose third access fails. -/
def flakyMemory : Flaky Cache := ⟨fun n => n == 2, 0, Cache.ofCapacity 1⟩

/-- Two calls for one posting miss and store one over the other; a call for another text fails to look up, evicts what
they stored, and is repeated. -/
def rush : List Traffic.Event :=
  let posting : Text := "https://acme.lever.co/jobs/1"
  [.arrival posting, .arrival posting, .arrival "no URL", .turn 0, .turn 1, .turn 2, .turn 0, .turn 1, .turn 1,
    .turn 0, .turn 2, .turn 2, .arrival "no URL", .turn 3]

theorem memoization_transparent_rush :
    HoldsOnlyPuts flakyMemory Hits ∧
    (((Traffic.ofCache flakyMemory).run rush).calls.map Call.hasMissed = [true, true, true, false] ∧
      ((Traffic.ofCache flakyMemory).run rush).service.counters.total = 3) ∧
    (∀ c ∈ ((Traffic.ofCache flakyMemory).run rush).calls, ∀ outcome,
      c.answer? = some outcome → outcome = deduce c.text) ∧
    ∀ key outcome, ((Traffic.ofCache (Cache.ofCapacity 1)).run rush).service.cache.Holds key outcome →
      outcome = deduce key := by
  have hf : HoldsOnlyPuts flakyMemory Hits :=
    (Flaky.contents Cache.contents_holds).hits_holdOnlyPuts (Cache.not_holds_ofCapacity 1)
  have hm : HoldsOnlyPuts (Cache.ofCapacity 1) Hits :=
    Cache.contents_holds.hits_holdOnlyPuts (Cache.not_holds_ofCapacity 1)
  refine ⟨hf, by decide +kernel, (memoization_transparent hf rush).1, ?_⟩
  exact (memoization_transparent hm rush).2.2.2.1 Cache.Holds (Cache.holdsOnlyPuts_ofCapacity 1)

end JobPosting
