import JobPosting.Proofs.Caching
import JobPosting.Proofs.Recency

/-!
# Runs of a cache

A cache that starts empty and is accessed in any order remembers exactly what its capacity allows. A key is touched when
an outcome is stored under it or found under it; what is looked up in vain touches nothing.

* `Access`, `Cache.accessAll` : looking up and storing, one after the other; `Access.stored` lists the entries stored.
* `Cache.touches` : the keys that a run touches.
* `Cache.Recalls` : a cache recalls the entries stored and the keys touched so far; `Recalls.access` says that every
  access keeps it, and `Recalls.accessAll` that a run does.
* `Cache.remembers_exactly` : which lookups hit after a run, what they find, and how much is held.
-/

namespace JobPosting

/-! ## Accesses -/

inductive Access where
  | get (key : Text)
  | put (key : Text) (outcome : Outcome)
  deriving DecidableEq

namespace Access

/-- The entry that an access stores. -/
def put? : Access → Option (Text × Outcome)
  | get _ => none
  | put key outcome => some (key, outcome)

/-- The entries that a run stores, the latest one last. -/
def stored (accesses : List Access) : List (Text × Outcome) := accesses.filterMap put?

theorem stored_cons (a : Access) (accesses : List Access) :
    stored (a :: accesses) = a.put?.toList ++ stored accesses := by
  unfold stored
  rw [List.filterMap_cons]
  cases a.put? with
  | none => rfl
  | some e => rfl

end Access

namespace Cache

open Access (stored)

def access (c : Cache) : Access → Cache
  | .get key => (c.get key).2
  | .put key outcome => c.put key outcome

def accessAll (c : Cache) (accesses : List Access) : Cache := accesses.foldl access c

/-- The keys that an access touches: the one it stores, or the one it finds. -/
def touched (c : Cache) : Access → List Text
  | .get key => if (c.get key).1.isHit then [key] else []
  | .put key _ => [key]

/-- The keys that a run touches, the one touched last at the end. -/
def touches (c : Cache) : List Access → List Text
  | [] => []
  | a :: accesses => c.touched a ++ (c.access a).touches accesses

/-! ## What a cache recalls -/

/-- A cache of capacity `n` recalls the entries stored and the keys touched: it holds the keys touched last, only
stored keys were touched, and what it holds under a key is what was stored there last. -/
structure Recalls (n : Nat) (c : Cache) (entries : List (Text × Outcome)) (uses : List Text) : Prop where
  follows : c.Follows n uses
  mem_uses : ∀ key, key ∈ uses ↔ key ∈ entries.map Prod.fst
  latest : ∀ key outcome, c.Holds key outcome → entries.reverse.lookup key = some outcome

variable {n : Nat} {c : Cache} {entries : List (Text × Outcome)} {uses : List Text}

theorem recalls_ofCapacity (n : Nat) : Recalls n (ofCapacity n) [] [] where
  follows := follows_ofCapacity n
  mem_uses := fun _ => Iff.rfl
  latest := fun key outcome h => absurd h (not_holds_ofCapacity n key outcome)

theorem Recalls.get (h : c.Recalls n entries uses) (key : Text) :
    (c.get key).2.Recalls n entries (uses ++ c.touched (.get key)) := by
  by_cases hhit : (c.get key).1.isHit = true
  · have htouched : c.touched (.get key) = [key] := if_pos hhit
    have hkey : key ∈ uses := ((h.follows.isHit_get_iff key).1 hhit).mem
    rw [htouched]
    refine ⟨h.follows.get_of_isHit hhit, fun key' => ?_, fun key' outcome hk => h.latest key' outcome (holds_of_get hk)⟩
    rw [← h.mem_uses, List.mem_append, List.mem_singleton]
    refine ⟨?_, .inl⟩
    rintro (hm | rfl)
    · exact hm
    · exact hkey
  · have htouched : c.touched (.get key) = [] := if_neg hhit
    have hsame := h.follows.get_of_not_isHit hhit
    rw [htouched, List.append_nil, hsame]
    exact h

theorem Recalls.put (h : c.Recalls n entries uses) (key : Text) (outcome : Outcome) :
    (c.put key outcome).Recalls n (entries ++ [(key, outcome)]) (uses ++ [key]) where
  follows := h.follows.put key outcome
  mem_uses := by
    intro key'
    rw [List.map_append, List.mem_append, List.mem_append, h.mem_uses]
    rfl
  latest := by
    intro key' outcome' hk
    rw [List.reverse_append, List.reverse_singleton, List.singleton_append, List.lookup_cons]
    rcases holds_of_put_of_ne hk with he | ⟨hne, hk⟩
    · cases he
      rw [beq_self_eq_true]
    · rw [beq_false_of_ne hne]
      exact h.latest key' outcome' hk

theorem Recalls.access (h : c.Recalls n entries uses) (a : Access) :
    (c.access a).Recalls n (entries ++ a.put?.toList) (uses ++ c.touched a) := by
  cases a with
  | get key =>
    rw [show (Access.get key).put?.toList = [] from rfl, List.append_nil]
    exact h.get key
  | put key outcome => exact h.put key outcome

theorem Recalls.accessAll (h : c.Recalls n entries uses) (accesses : List Access) :
    (c.accessAll accesses).Recalls n (entries ++ stored accesses) (uses ++ c.touches accesses) := by
  induction accesses generalizing c entries uses with
  | nil =>
    rw [show stored [] = [] from rfl, touches, List.append_nil, List.append_nil]
    exact h
  | cons a accesses ih =>
    rw [Access.stored_cons, touches, ← List.append_assoc, ← List.append_assoc]
    exact ih (h.access a)

/-! ## What a lookup finds -/

theorem Recalls.isHit_get_iff (h : c.Recalls n entries uses) (key : Text) :
    (c.get key).1.isHit = true ↔ key ∈ entries.map Prod.fst ∧ UsedWithin n uses key := by
  rw [h.follows.isHit_get_iff, ← h.mem_uses, iff_and_self]
  exact UsedWithin.mem

theorem Recalls.size_eq (h : c.Recalls n entries uses) :
    c.size = min n (entries.map Prod.fst).dedup.length := by
  have hperm : uses.dedup.Perm (entries.map Prod.fst).dedup := by
    refine (List.perm_ext_iff_of_nodup (List.nodup_dedup _) (List.nodup_dedup _)).2 fun key => ?_
    rw [List.mem_dedup, List.mem_dedup]
    exact h.mem_uses key
  rw [h.follows.size_eq, hperm.length_eq]

/-- A cache of any capacity `n`, after any run from an empty start. Looking up a key hits if and only if an outcome was
stored under it and fewer than `n` other keys were touched since it was touched last; a hit finds what was stored there
last, be it that there is no record; looking up in vain is a miss and changes nothing; and as many outcomes are held as
keys were stored, up to `n`. -/
theorem remembers_exactly (n : Nat) (before : List Access) (key : Text) :
    let c := (ofCapacity n).accessAll before
    ((c.get key).1.isHit = true ↔
      key ∈ (stored before).map Prod.fst ∧ UsedWithin n ((ofCapacity n).touches before) key) ∧
    (∀ outcome, (c.get key).1 = .hit outcome → (stored before).reverse.lookup key = some outcome) ∧
    (¬(c.get key).1.isHit = true → c.get key = (.miss, c)) ∧
    c.size = min n ((stored before).map Prod.fst).dedup.length := by
  intro c
  have hrecalls : c.Recalls n (stored before) ((ofCapacity n).touches before) :=
    (recalls_ofCapacity n).accessAll before
  have hfound (outcome : Outcome) (hhit : (c.get key).1 = .hit outcome) :
      (stored before).reverse.lookup key = some outcome :=
    hrecalls.latest key outcome (holds_of_hits hhit)
  exact ⟨hrecalls.isHit_get_iff key, hfound, hrecalls.follows.get_of_not_isHit, hrecalls.size_eq⟩

/-- The key that was looked up stays, and the one that was used the longest time ago goes. -/
example :
    let c := (ofCapacity 2).accessAll [.put "a" none, .put "b" none, .get "a", .put "c" none]
    c.size = 2 ∧ (c.get "a").1 = .hit none ∧ (c.get "b").1 = .miss ∧ (c.get "c").1 = .hit none := by decide

end Cache

end JobPosting
