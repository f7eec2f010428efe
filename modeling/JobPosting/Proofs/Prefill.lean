import JobPosting.JobForm
import Mathlib.Data.List.Nodup

/-!
# What someone has typed

A form may be filled in again and again, from one URL after another. Whatever a slot shows stays in it: a step fills the
open slots that the record offers a text for, and does nothing else.

* `JobForm.Shows` : a slot holds a text with a character that is not blank.
* `JobForm.filling?` : what a step puts into a slot; `get_prefill` and `mem_filled_iff` say that a step does this to
  each slot, and names the slots to which it does.
* `JobForm.Keeps` : one form holds everything that another one shows. A step keeps it (`keeps_prefill`), and so does a
  run (`keeps_prefillAll`).
* `typed_text_survives` : what a run of steps does to a form.
-/

namespace JobPosting

namespace JobForm

theorem ext_get {f g : JobForm} (h : ∀ k, f.get k = g.get k) : f = g := by
  cases f
  cases g
  rw [JobForm.mk.injEq]
  exact ⟨h .foundOn, h .provider, h .providerTenant, h .externalId, h .hiringCompanyName, h .postingCompanyName, h .title⟩

/-! ## Open slots -/

/-- The text in a slot, with a character that is not blank. -/
def Shows (f : JobForm) (k : Slot) (t : Text) : Prop := f.get k = some t ∧ ∃ c ∈ t, isBlank c = false

/-- Nothing in a slot, or blanks only. -/
def Blank (f : JobForm) (k : Slot) : Prop := ∀ t, f.get k = some t → ∀ c ∈ t, isBlank c = true

variable {f g h : JobForm} {r : Record} {keepTracking : Bool} {k l : Slot} {t : Text}

theorem isOpen_iff : f.isOpen k = true ↔ f.Blank k := by
  unfold isOpen Blank
  cases f.get k with
  | none => simp
  | some t =>
    simp only [decide_eq_true_eq, Option.some.injEq, forall_eq']
    exact Text.isBlank_iff

theorem Shows.isOpen (hs : f.Shows k t) : f.isOpen k = false := by
  obtain ⟨hget, c, hc, hcb⟩ := hs
  rw [Bool.eq_false_iff]
  intro ho
  have hblank := isOpen_iff.1 ho t hget c hc
  rw [hcb] at hblank
  cases hblank

theorem isOpen_congr (hget : f.get k = g.get k) : f.isOpen k = g.isOpen k := by
  unfold isOpen
  rw [hget]

/-! ## One slot -/

/-- What a step puts into a slot, if it puts anything. -/
def filling? (f : JobForm) (r : Record) (keepTracking : Bool) (k : Slot) : Option Text :=
  if !(keepTracking && k.isTracking) && f.isOpen k then Text.given (k.offered r) else none

theorem filling?_congr (hget : f.get k = g.get k) : f.filling? r keepTracking k = g.filling? r keepTracking k := by
  unfold filling?
  rw [isOpen_congr hget]

theorem filling?_of_shows (hs : f.Shows k t) : f.filling? r keepTracking k = none := by
  unfold filling?
  rw [hs.isOpen, Bool.and_false]
  rfl

theorem fill_of_some {done : List Slot} {v : Text} (hv : f.filling? r keepTracking k = some v) :
    fill r keepTracking (f, done) k = (f.set k (some v), done ++ [k]) := by
  unfold filling? at hv
  split at hv
  · rename_i ho
    unfold fill
    rw [hv]
    exact if_pos ho
  · cases hv

theorem fill_of_none {done : List Slot} (hv : f.filling? r keepTracking k = none) :
    fill r keepTracking (f, done) k = (f, done) := by
  unfold filling? at hv
  unfold fill
  split at hv
  · rw [hv]
  · rename_i ho
    split
    · exact if_neg ho
    · rfl

theorem filling?_eq_some_iff : f.filling? r keepTracking k = some t ↔
    f.Blank k ∧ k.offered r = some t ∧ t ≠ [] ∧ ¬(keepTracking = true ∧ k.isTracking = true) := by
  rw [← isOpen_iff, ← and_assoc (a := k.offered r = some t), ← Text.given_eq_some_iff]
  unfold filling?
  cases keepTracking <;> cases k.isTracking <;> cases f.isOpen k <;> simp

/-! ## One step -/

/-- Each slot of some is filled as if it were alone, as no slot has a say in another one. -/
theorem foldl_fill {ks : List Slot} (hks : ks.Nodup) (f : JobForm) (done : List Slot) :
    (∀ k, (ks.foldl (fill r keepTracking) (f, done)).1.get k =
      if k ∈ ks then (f.filling? r keepTracking k).or (f.get k) else f.get k) ∧
    (ks.foldl (fill r keepTracking) (f, done)).2 = done ++ ks.filter fun k => (f.filling? r keepTracking k).isSome := by
  induction ks generalizing f done with
  | nil => exact ⟨fun k => rfl, (List.append_nil done).symm⟩
  | cons l ks ih =>
    obtain ⟨hl, hks⟩ := List.nodup_cons.1 hks
    rw [List.foldl_cons]
    cases hv : f.filling? r keepTracking l with
    | none =>
      obtain ⟨hget, hdone⟩ := ih hks f done
      rw [fill_of_none hv, hdone, List.filter_cons_of_neg (by simp [hv])]
      refine ⟨fun k => ?_, rfl⟩
      rw [hget]
      by_cases hk : k = l
      · subst hk
        rw [if_neg hl, if_pos List.mem_cons_self, hv]
        rfl
      · simp only [List.mem_cons, hk, false_or]
    | some v =>
      obtain ⟨hget, hdone⟩ := ih hks (f.set l (some v)) (done ++ [l])
      have hother : ∀ k ∈ ks, (f.set l (some v)).filling? r keepTracking k = f.filling? r keepTracking k := by
        intro k hk
        exact filling?_congr (get_set_of_ne f _ (ne_of_mem_of_not_mem hk hl))
      have hfilter : (ks.filter fun k => ((f.set l (some v)).filling? r keepTracking k).isSome) =
          ks.filter fun k => (f.filling? r keepTracking k).isSome :=
        List.filter_congr fun k hk => by rw [hother k hk]
      rw [fill_of_some hv, hdone, hfilter, List.filter_cons_of_pos (by simp [hv]), List.append_assoc]
      refine ⟨fun k => ?_, rfl⟩
      rw [hget]
      by_cases hk : k = l
      · subst hk
        rw [if_neg hl, if_pos List.mem_cons_self, get_set_self, hv]
        rfl
      · rw [get_set_of_ne f _ hk]
        by_cases hmem : k ∈ ks
        · rw [if_pos hmem, if_pos (List.mem_cons_of_mem l hmem), hother k hmem]
        · rw [if_neg hmem, if_neg (by simp [hk, hmem])]

theorem nodup_fillOrder : Slot.fillOrder.Nodup := by decide

theorem mem_fillOrder (k : Slot) : k ∈ Slot.fillOrder := by
  cases k <;> decide

theorem get_prefill (f : JobForm) (r : Record) (keepTracking : Bool) (k : Slot) :
    (f.prefill r keepTracking).1.get k = (f.filling? r keepTracking k).or (f.get k) := by
  unfold prefill
  rw [(foldl_fill nodup_fillOrder f []).1 k, if_pos (mem_fillOrder k)]

theorem filled_prefill (f : JobForm) (r : Record) (keepTracking : Bool) :
    (f.prefill r keepTracking).2 = Slot.fillOrder.filter fun k => (f.filling? r keepTracking k).isSome := by
  unfold prefill
  exact (foldl_fill nodup_fillOrder f []).2

theorem mem_filled_iff : k ∈ (f.prefill r keepTracking).2 ↔ ∃ t, f.filling? r keepTracking k = some t := by
  rw [filled_prefill, List.mem_filter, Option.isSome_iff_exists]
  exact and_iff_right (mem_fillOrder k)

/-! ## Several steps -/

/-- One form holds everything that another one shows. -/
def Keeps (f g : JobForm) : Prop := ∀ k t, f.Shows k t → g.Shows k t

theorem Keeps.refl (f : JobForm) : f.Keeps f := fun _ _ hs => hs

theorem Keeps.trans (hfg : f.Keeps g) (hgh : g.Keeps h) : f.Keeps h := fun k t hs => hgh k t (hfg k t hs)

theorem keeps_prefill (f : JobForm) (r : Record) (keepTracking : Bool) : f.Keeps (f.prefill r keepTracking).1 := by
  intro k t hs
  refine ⟨?_, hs.2⟩
  rw [get_prefill, filling?_of_shows hs]
  exact hs.1

/-- A step of a run: a record, and whether the slots about the applicant-tracking system are left alone. -/
structure Step where
  record : Record
  keepTracking : Bool

/-- The form after several steps, one after the other. -/
def prefillAll (f : JobForm) (steps : List Step) : JobForm :=
  steps.foldl (fun f s => (f.prefill s.record s.keepTracking).1) f

theorem prefillAll_append (f : JobForm) (steps more : List Step) :
    f.prefillAll (steps ++ more) = (f.prefillAll steps).prefillAll more := List.foldl_append

theorem keeps_prefillAll (f : JobForm) (steps : List Step) : f.Keeps (f.prefillAll steps) := by
  induction steps generalizing f with
  | nil => exact .refl f
  | cons s steps ih => exact (keeps_prefill f s.record s.keepTracking).trans (ih _)

end JobForm

theorem Slot.isTracking_iff (k : Slot) :
    k.isTracking = true ↔ k ∈ ([.provider, .providerTenant, .externalId] : List Slot) := by
  cases k <;> decide

/-- In every run of steps, with any records: a text that is not blank stays in its slot from then on. A step fills a
slot exactly if it is blank, the record offers a text for it that is not empty, and it is none of the three slots
about the applicant-tracking system while these are left alone; it puts the offered text there, and changes no other
slot. It names the slots that it fills, each once and in a fixed order. -/
theorem typed_text_survives (f : JobForm) (earlier : List JobForm.Step) :
    let before := f.prefillAll earlier
    (∀ k t later, before.get k = some t → (∃ c ∈ t, isBlank c = false) →
      (f.prefillAll (earlier ++ later)).get k = some t) ∧
    ∀ s : JobForm.Step,
      let after := f.prefillAll (earlier ++ [s])
      let filled := (before.prefill s.record s.keepTracking).2
      (∀ k, k ∈ filled ↔ before.Blank k ∧ (∃ t, k.offered s.record = some t ∧ t ≠ []) ∧
        ¬(s.keepTracking = true ∧ k ∈ ([.provider, .providerTenant, .externalId] : List Slot))) ∧
      (∀ k ∈ filled, ∃ t, k.offered s.record = some t ∧ after.get k = some t) ∧
      (∀ k, k ∉ filled → after.get k = before.get k) ∧
      (filled.map Slot.name).Nodup ∧
      (filled.map Slot.name).Sublist ["foundOn", "externalId", "hiringCompanyName", "postingCompanyName", "provider",
        "providerTenant", "title"] := by
  intro before
  constructor
  · intro k t later hget hshows
    rw [JobForm.prefillAll_append]
    exact (JobForm.keeps_prefillAll before later k t ⟨hget, hshows⟩).1
  · intro s after filled
    have hafter : ∀ k, after.get k = (before.filling? s.record s.keepTracking k).or (before.get k) := by
      intro k
      change (f.prefillAll (earlier ++ [s])).get k = _
      rw [JobForm.prefillAll_append]
      exact JobForm.get_prefill before s.record s.keepTracking k
    have hsub : (filled.map Slot.name).Sublist (Slot.fillOrder.map Slot.name) := by
      apply List.Sublist.map
      change (before.prefill s.record s.keepTracking).2.Sublist _
      rw [JobForm.filled_prefill]
      exact List.filter_sublist
    refine ⟨fun k => ?_, fun k hk => ?_, fun k hk => ?_, hsub.nodup (by decide), hsub⟩
    · rw [JobForm.mem_filled_iff, ← Slot.isTracking_iff]
      simp only [JobForm.filling?_eq_some_iff]
      constructor
      · rintro ⟨t, hblank, hoffered, hne, hfree⟩
        exact ⟨hblank, ⟨t, hoffered, hne⟩, hfree⟩
      · rintro ⟨hblank, ⟨t, hoffered, hne⟩, hfree⟩
        exact ⟨t, hblank, hoffered, hne, hfree⟩
    · obtain ⟨t, ht⟩ := JobForm.mem_filled_iff.1 hk
      refine ⟨t, (JobForm.filling?_eq_some_iff.1 ht).2.1, ?_⟩
      rw [hafter, ht]
      rfl
    · have hnone : before.filling? s.record s.keepTracking k = none := by
        rw [Option.eq_none_iff_forall_ne_some]
        intro t ht
        exact hk (JobForm.mem_filled_iff.2 ⟨t, ht⟩)
      rw [hafter, hnone]
      rfl

/-- A name that someone has typed stays, blanks in another slot are filled as soon as they may be, and what was filled
in then stays, too. -/
theorem typed_text_survives_blanks :
    let f : JobForm := { JobForm.empty with provider := some "  ", hiringCompanyName := some "Acme Inc." }
    let r : Record := ⟨"indeed", "lever", "acme", "abc-123", some "acme", none, none⟩
    let s : Record := ⟨"xing", "xing", [], "1", some "hays", some "hays", none⟩
    (f.prefillAll [⟨r, true⟩, ⟨r, false⟩, ⟨s, false⟩]).get .hiringCompanyName = some "Acme Inc." ∧
      .provider ∉ (f.prefill r true).2 ∧ .provider ∈ ((f.prefillAll [⟨r, true⟩]).prefill r false).2 ∧
      (f.prefillAll [⟨r, true⟩, ⟨r, false⟩, ⟨s, false⟩]).get .provider = some "lever" := by
  intro f r s
  obtain ⟨hkeep, hstep⟩ := typed_text_survives f []
  obtain ⟨-, hstep'⟩ := typed_text_survives f [⟨r, true⟩]
  obtain ⟨hkeep', -⟩ := typed_text_survives f [⟨r, true⟩, ⟨r, false⟩]
  refine ⟨?_, ?_, ?_, ?_⟩
  · exact hkeep .hiringCompanyName _ [⟨r, true⟩, ⟨r, false⟩, ⟨s, false⟩] rfl ⟨'A', by decide, rfl⟩
  · intro hmem
    exact ((hstep ⟨r, true⟩).1 .provider |>.1 hmem).2.2 ⟨rfl, by decide⟩
  · refine ((hstep' ⟨r, false⟩).1 .provider).2 ⟨?_, ⟨"lever", rfl, by decide⟩, by simp⟩
    rw [← JobForm.isOpen_iff]
    decide
  · exact hkeep' .provider _ [⟨s, false⟩] (by decide) ⟨'l', by decide, rfl⟩

end JobPosting
