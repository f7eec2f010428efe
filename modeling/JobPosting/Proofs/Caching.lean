import JobPosting.Cache

/-!
# What caches hold

A cache is judged by what it is asked to store: it must never answer what was not put under the same key before.

* `CacheLike.Reaches` : the states that a cache can reach, with everything put on the way.
* `CacheLike.HoldsOnlyPuts` : nothing is held that was not put before; `CacheLike.Hits` is the least that a cache holds.
* `CacheLike.Contents` : a notion of what a cache holds that looking up and storing respect (`Contents.holdsOnlyPuts`).
* `Cache.Holds` : the contents of a memory, of a cache that remembers nothing, and of one that is out of order.
* `Flaky` : any cache whose accesses fail whenever a script says so (`Flaky.contents`).
-/

namespace JobPosting

namespace CacheLike

variable {σ : Type} [CacheLike σ] {s₀ : σ}

/-- The states that a cache reaches from `s₀`, with the entries that were put on the way, the latest one in front. -/
inductive Reaches (s₀ : σ) : List (Text × Outcome) → σ → Prop where
  | start : Reaches s₀ [] s₀
  | get {puts : List (Text × Outcome)} {s : σ} (key : Text) : Reaches s₀ puts s → Reaches s₀ puts (CacheLike.get s key).2
  | put {puts : List (Text × Outcome)} {s : σ} (key : Text) (outcome : Outcome) :
      Reaches s₀ puts s → Reaches s₀ ((key, outcome) :: puts) (CacheLike.put s key outcome)

def Hits (s : σ) (key : Text) (outcome : Outcome) : Prop := (CacheLike.get s key).1 = .hit outcome

/-- A cache that starts in `s₀` never holds an entry that was not put before. -/
def HoldsOnlyPuts (s₀ : σ) (Holds : σ → Text → Outcome → Prop) : Prop :=
  ∀ puts s, Reaches s₀ puts s → ∀ key outcome, Holds s key outcome → (key, outcome) ∈ puts

/-- A notion of what a cache holds: every hit is held, looking up brings nothing in, and storing brings in the one entry
that is stored. Either may drop entries. -/
structure Contents (Holds : σ → Text → Outcome → Prop) : Prop where
  of_hits : ∀ {s key outcome}, Hits s key outcome → Holds s key outcome
  of_get : ∀ {s key key' outcome}, Holds (CacheLike.get s key').2 key outcome → Holds s key outcome
  of_put : ∀ {s key outcome key' outcome'}, Holds (CacheLike.put s key' outcome') key outcome →
    (key, outcome) = (key', outcome') ∨ Holds s key outcome

namespace Contents

variable {Holds : σ → Text → Outcome → Prop}

theorem holdsOnlyPuts (h : Contents Holds) (h₀ : ∀ key outcome, ¬ Holds s₀ key outcome) :
    HoldsOnlyPuts s₀ Holds := by
  intro puts s hs
  induction hs with
  | start => exact fun key outcome hh => absurd hh (h₀ key outcome)
  | get _ _ ih => exact fun key outcome hh => ih key outcome (h.of_get hh)
  | put _ _ _ ih =>
    intro key outcome hh
    rcases h.of_put hh with he | hh
    · exact he ▸ List.mem_cons_self
    · exact List.mem_cons_of_mem _ (ih key outcome hh)

theorem hits_holdOnlyPuts (h : Contents Holds) (h₀ : ∀ key outcome, ¬ Holds s₀ key outcome) :
    HoldsOnlyPuts s₀ Hits :=
  fun puts s hs key outcome hh => h.holdsOnlyPuts h₀ puts s hs key outcome (h.of_hits hh)

end Contents

end CacheLike

/-! ## Memories -/

namespace Memo

variable {α : Type}

theorem mem_of_find? {m : Memo α} {key : Text} {v : α} (h : m.find? key = some v) : (key, v) ∈ m.entries := by
  obtain ⟨before, after, he, -⟩ := List.lookup_eq_some_iff.1 h
  rw [he]
  exact List.mem_append_right _ List.mem_cons_self

theorem mem_of_mem_others {m : Memo α} {key : Text} {e : Text × α} (h : e ∈ m.others key) : e ∈ m.entries :=
  (List.mem_filter.1 h).1

theorem mem_of_mem_touch {m : Memo α} {key : Text} {e : Text × α} (h : e ∈ (m.touch key).entries) :
    e ∈ m.entries := by
  unfold touch at h
  split at h
  · rename_i v hv
    rcases List.mem_cons.1 h with rfl | h
    · exact mem_of_find? hv
    · exact mem_of_mem_others h
  · exact h

theorem mem_of_mem_put {m : Memo α} {key : Text} {v : α} {e : Text × α} (h : e ∈ (m.put key v).entries) :
    e = (key, v) ∨ e.1 ≠ key ∧ e ∈ m.entries := by
  rcases List.mem_cons.1 (List.mem_of_mem_take h) with rfl | h
  · exact .inl rfl
  · have hne : e.1 ≠ key := by simpa using (List.mem_filter.1 h).2
    exact .inr ⟨hne, mem_of_mem_others h⟩

end Memo

namespace Cache

open CacheLike (Contents Hits HoldsOnlyPuts)

/-- The entries of a cache. -/
def Holds (c : Cache) (key : Text) (outcome : Outcome) : Prop :=
  match c with
  | .memory m => (key, outcome) ∈ m.entries
  | _ => False

theorem holds_of_hits {c : Cache} {key : Text} {outcome : Outcome} (h : (c.get key).1 = .hit outcome) :
    c.Holds key outcome := by
  cases c with
  | null => cases h
  | broken => cases h
  | memory m =>
    simp only [get] at h
    split at h
    · rename_i o ho
      cases h
      exact Memo.mem_of_find? ho
    · cases h

theorem holds_of_get {c : Cache} {key key' : Text} {outcome : Outcome} (h : (c.get key').2.Holds key outcome) :
    c.Holds key outcome := by
  cases c with
  | null => exact h
  | broken => exact h
  | memory m =>
    simp only [get] at h
    split at h
    · exact Memo.mem_of_mem_touch h
    · exact h

/-- What is stored takes the place of what was held under its key. -/
theorem holds_of_put_of_ne {c : Cache} {key key' : Text} {outcome outcome' : Outcome}
    (h : (c.put key' outcome').Holds key outcome) :
    (key, outcome) = (key', outcome') ∨ key ≠ key' ∧ c.Holds key outcome := by
  cases c with
  | null => exact h.elim
  | broken => exact h.elim
  | memory m => exact Memo.mem_of_mem_put h

theorem holds_of_put {c : Cache} {key key' : Text} {outcome outcome' : Outcome}
    (h : (c.put key' outcome').Holds key outcome) : (key, outcome) = (key', outcome') ∨ c.Holds key outcome :=
  (holds_of_put_of_ne h).imp_right And.right

theorem contents_holds : Contents Cache.Holds := ⟨holds_of_hits, holds_of_get, holds_of_put⟩

theorem not_holds_ofCapacity (n : Nat) (key : Text) (outcome : Outcome) : ¬ (ofCapacity n).Holds key outcome := by
  unfold ofCapacity
  split
  · exact id
  · exact List.not_mem_nil

/-- A cache of any capacity holds only what was put, whatever it drops. -/
theorem holdsOnlyPuts_ofCapacity (n : Nat) : HoldsOnlyPuts (ofCapacity n) Cache.Holds :=
  contents_holds.holdsOnlyPuts (not_holds_ofCapacity n)

end Cache

/-! ## Failing accesses -/

/-- A cache whose accesses fail whenever the script says so. -/
structure Flaky (σ : Type) where
  /-- Whether the access at this time fails. -/
  fails : Nat → Bool
  /-- How many accesses there have been. -/
  time : Nat
  inner : σ

namespace Flaky

open CacheLike (Contents)

variable {σ : Type} [CacheLike σ]

/-- The cache after one more access. -/
def tick (f : Flaky σ) (inner : σ) : Flaky σ := { f with time := f.time + 1, inner }

/-- Looking up a key, unless the access fails. -/
def get (f : Flaky σ) (key : Text) : Lookup × Flaky σ :=
  if f.fails f.time then (.failed, f.tick f.inner)
  else ((CacheLike.get f.inner key).1, f.tick (CacheLike.get f.inner key).2)

/-- Storing an outcome under a key, unless the access fails. -/
def put (f : Flaky σ) (key : Text) (outcome : Outcome) : Flaky σ :=
  if f.fails f.time then f.tick f.inner else f.tick (CacheLike.put f.inner key outcome)

instance : CacheLike (Flaky σ) := ⟨get, put⟩

theorem contents {Holds : σ → Text → Outcome → Prop} (h : Contents Holds) :
    Contents fun (f : Flaky σ) key outcome => Holds f.inner key outcome where
  of_hits := by
    intro f key outcome hh
    change (get f key).1 = _ at hh
    unfold get at hh
    split at hh
    · cases hh
    · exact h.of_hits hh
  of_get := by
    intro f key key' outcome hh
    change Holds (get f key').2.inner key outcome at hh
    unfold get at hh
    split at hh
    · exact hh
    · exact h.of_get hh
  of_put := by
    intro f key outcome key' outcome' hh
    change Holds (put f key' outcome').inner key outcome at hh
    unfold put at hh
    split at hh
    · exact .inr hh
    · exact h.of_put hh

end Flaky

end JobPosting
