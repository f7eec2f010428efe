import JobPosting.Cache
import Mathlib.Data.List.Dedup

/-!
# What a memo still knows

A memo of capacity `n` knows the `n` keys that were used last, where a key is used when a value is stored under it or
found under it.

* `lastUsed` : the keys of some uses, the one used last in front.
* `UsedWithin` : a key has been used, and fewer than `n` other keys have been used since.
* `Memo.Follows` : the keys of a memo are those used last; `Follows.put` and `Follows.touch` say that each use keeps it.
* `Memo.Follows.isSome_find?_iff`, `Memo.Follows.size_eq` : what is found then, and how much is held.
* `Cache.Follows` : the same of a cache of some capacity, which may be zero.
-/

namespace JobPosting

/-! ## Uses -/

/-- The keys of some uses, the one used last in front. -/
def lastUsed (uses : List Text) : List Text := uses.dedup.reverse

/-- A key has been used, and fewer than `n` different other keys have been used since the latest time. -/
def UsedWithin (n : Nat) (uses : List Text) (key : Text) : Prop :=
  ∃ before since, uses = before ++ key :: since ∧ key ∉ since ∧ since.dedup.length < n

theorem UsedWithin.mem {n : Nat} {uses : List Text} {key : Text} (h : UsedWithin n uses key) : key ∈ uses := by
  obtain ⟨before, since, rfl, -, -⟩ := h
  exact List.mem_append_right _ List.mem_cons_self

/-- A list without repetitions keeps the latest of equal elements, so what is repeated later goes. -/
theorem dedup_append_eq_filter (us vs : List Text) :
    (us ++ vs).dedup = us.dedup.filter (· ∉ vs) ++ vs.dedup := by
  induction us with
  | nil => simp
  | cons u us ih =>
    rw [List.cons_append]
    by_cases hus : u ∈ us
    · rw [List.dedup_cons_of_mem (List.mem_append_left _ hus), List.dedup_cons_of_mem hus, ih]
    · by_cases hvs : u ∈ vs
      · rw [List.dedup_cons_of_mem (List.mem_append_right _ hvs), List.dedup_cons_of_notMem hus,
          List.filter_cons_of_neg (by simpa using hvs), ih]
      · have hnot : u ∉ us ++ vs := by simp [hus, hvs]
        rw [List.dedup_cons_of_notMem hnot, List.dedup_cons_of_notMem hus,
          List.filter_cons_of_pos (by simpa using hvs), ih, List.cons_append]

/-- Using a key brings it to the front. -/
theorem lastUsed_append_singleton (uses : List Text) (key : Text) :
    lastUsed (uses ++ [key]) = key :: (lastUsed uses).filter (· ≠ key) := by
  unfold lastUsed
  rw [dedup_append_eq_filter, List.reverse_append, (List.nodup_singleton key).dedup, ← List.filter_reverse]
  simp

theorem nodup_lastUsed (uses : List Text) : (lastUsed uses).Nodup :=
  List.nodup_reverse.2 uses.nodup_dedup

theorem mem_take_append_cons {α : Type} {as bs : List α} {a : α} (h : a ∉ as) {n : Nat} :
    a ∈ (as ++ a :: bs).take n ↔ as.length < n := by
  rw [List.take_append, List.mem_append]
  constructor
  · rintro (hm | hm)
    · exact absurd (List.mem_of_mem_take hm) h
    · have hpos : n - as.length ≠ 0 := by
        intro h0
        rw [h0] at hm
        cases hm
      omega
  · intro hlt
    obtain ⟨k, hk⟩ : ∃ k, n - as.length = k + 1 := ⟨n - as.length - 1, by omega⟩
    rw [hk, List.take_succ_cons]
    exact .inr List.mem_cons_self

/-- In front of a key stand the keys that have been used since. -/
theorem lastUsed_append_cons (before : List Text) {since : List Text} {key : Text} (h : key ∉ since) :
    ∃ older, lastUsed (before ++ key :: since) = lastUsed since ++ key :: older := by
  refine ⟨((lastUsed before).filter (· ≠ key)).filter (· ∉ since), ?_⟩
  have hsplit : before ++ key :: since = (before ++ [key]) ++ since := by simp
  rw [hsplit]
  unfold lastUsed
  rw [dedup_append_eq_filter, List.reverse_append, ← List.filter_reverse]
  have hfront := lastUsed_append_singleton before key
  unfold lastUsed at hfront
  rw [hfront, List.filter_cons_of_pos (by simpa using h)]

/-- The `n` keys used last are those that have been used with fewer than `n` others since. -/
theorem mem_take_lastUsed_iff {n : Nat} {uses : List Text} {key : Text} :
    key ∈ (lastUsed uses).take n ↔ UsedWithin n uses key := by
  have hiff {before since : List Text} (h : key ∉ since) :
      key ∈ (lastUsed (before ++ key :: since)).take n ↔ since.dedup.length < n := by
    obtain ⟨older, ho⟩ := lastUsed_append_cons before h
    have hnot : key ∉ lastUsed since := by simpa [lastUsed] using h
    rw [ho, mem_take_append_cons hnot, lastUsed, List.length_reverse]
  constructor
  · intro hm
    have huse : key ∈ uses.reverse := by simpa [lastUsed] using List.mem_of_mem_take hm
    obtain ⟨since, before, hs, hnot⟩ := List.eq_append_cons_of_mem huse
    have huses : uses = before.reverse ++ key :: since.reverse := by
      rw [← List.reverse_reverse uses, hs]
      simp
    have hnot : key ∉ since.reverse := by simpa using hnot
    rw [huses, hiff hnot] at hm
    exact ⟨before.reverse, since.reverse, huses, hnot, hm⟩
  · rintro ⟨before, since, rfl, hnot, hlt⟩
    exact (hiff hnot).2 hlt

/-- Dropping a key and then what does not fit is the same as keeping one more key and dropping it then. -/
theorem take_filter_take {keys : List Text} (h : keys.Nodup) (key : Text) (n : Nat) :
    ((keys.take (n + 1)).filter (· ≠ key)).take n = (keys.filter (· ≠ key)).take n := by
  induction keys generalizing n with
  | nil => rfl
  | cons k keys ih =>
    rw [List.nodup_cons] at h
    rw [List.take_succ_cons]
    by_cases hk : k = key
    · subst hk
      have hall : ∀ l : List Text, k ∉ l → l.filter (· ≠ k) = l := by
        intro l hl
        refine List.filter_eq_self.2 fun a ha => ?_
        simpa using fun hak : a = k => hl (hak ▸ ha)
      rw [List.filter_cons_of_neg (by simp), List.filter_cons_of_neg (by simp), hall keys h.1,
        hall _ fun hm => h.1 (List.mem_of_mem_take hm), List.take_take, Nat.min_self]
    · rw [List.filter_cons_of_pos (by simpa using hk), List.filter_cons_of_pos (by simpa using hk)]
      cases n with
      | zero => rfl
      | succ n => rw [List.take_succ_cons, List.take_succ_cons, ih h.2]

/-! ## Memos -/

namespace Memo

variable {α : Type} {m : Memo α} {uses : List Text}

/-- The keys of a memo, the one used last in front. -/
def keys (m : Memo α) : List Text := m.entries.map Prod.fst

/-- A memo holds the keys used last, as many as fit. -/
def Follows (m : Memo α) (uses : List Text) : Prop := m.keys = (lastUsed uses).take m.capacity

theorem follows_empty (n : Nat) : (Memo.empty n : Memo α).Follows [] := by
  simp [Follows, keys, Memo.empty, lastUsed]

theorem keys_others (m : Memo α) (key : Text) : (m.others key).map Prod.fst = m.keys.filter (· ≠ key) := by
  unfold others keys
  rw [List.filter_map]
  rfl

theorem isSome_find?_iff (m : Memo α) (key : Text) : (m.find? key).isSome = true ↔ key ∈ m.keys := by
  unfold find? keys
  rw [List.lookup_isSome_iff, List.mem_map]
  constructor
  · rintro ⟨e, he, hk⟩
    exact ⟨e, he, (eq_of_beq hk).symm⟩
  · rintro ⟨e, he, rfl⟩
    exact ⟨e, he, beq_self_eq_true _⟩

theorem Follows.isSome_find?_iff (h : m.Follows uses) (key : Text) :
    (m.find? key).isSome = true ↔ UsedWithin m.capacity uses key := by
  rw [Memo.isSome_find?_iff, h, mem_take_lastUsed_iff]

theorem Follows.size_eq (h : m.Follows uses) : m.size = min m.capacity uses.dedup.length := by
  have hlen := congrArg List.length h
  rw [keys, List.length_map, List.length_take, lastUsed, List.length_reverse] at hlen
  exact hlen

/-- The keys that are left when one comes to the front and what does not fit goes. -/
theorem Follows.take_cons (h : m.Follows uses) (key : Text) :
    (key :: m.keys.filter (· ≠ key)).take m.capacity = (lastUsed (uses ++ [key])).take m.capacity := by
  rw [lastUsed_append_singleton, h]
  cases m.capacity with
  | zero => rfl
  | succ n => rw [List.take_succ_cons, List.take_succ_cons, take_filter_take (nodup_lastUsed uses)]

theorem Follows.put (h : m.Follows uses) (key : Text) (v : α) : (m.put key v).Follows (uses ++ [key]) := by
  change (((key, v) :: m.others key).take m.capacity).map Prod.fst = _
  rw [List.map_take, List.map_cons, keys_others]
  exact h.take_cons key

theorem Follows.touch (h : m.Follows uses) {key : Text} (hk : (m.find? key).isSome = true) :
    (m.touch key).Follows (uses ++ [key]) := by
  obtain ⟨v, hv⟩ := Option.isSome_iff_exists.1 hk
  have hlt : (m.keys.filter (· ≠ key)).length < m.keys.length :=
    List.length_filter_lt_length_iff_exists.2 ⟨key, (Memo.isSome_find?_iff m key).1 hk, by simp⟩
  have hcap : m.keys.length ≤ m.capacity := by
    rw [h, List.length_take]
    exact Nat.min_le_left _ _
  have hkeys : (m.touch key).keys = key :: m.keys.filter (· ≠ key) := by
    unfold Memo.touch
    rw [hv]
    change key :: (m.others key).map Prod.fst = _
    rw [keys_others]
  have hcapacity : (m.touch key).capacity = m.capacity := by
    unfold Memo.touch
    rw [hv]
  have hroom : (key :: m.keys.filter (· ≠ key)).length ≤ m.capacity := by
    rw [List.length_cons]
    omega
  unfold Follows
  rw [hcapacity, ← h.take_cons key, hkeys]
  exact (List.take_of_length_le hroom).symm

end Memo

/-! ## Caches -/

namespace Cache

variable {n : Nat} {c : Cache} {uses : List Text}

/-- A cache of capacity `n` holds the keys used last, as many as fit. -/
def Follows (n : Nat) (c : Cache) (uses : List Text) : Prop :=
  match c with
  | .null => n = 0
  | .memory m => m.capacity = n ∧ m.Follows uses
  | .broken => False

theorem follows_ofCapacity (n : Nat) : (ofCapacity n).Follows n [] := by
  unfold ofCapacity
  split
  · assumption
  · exact ⟨rfl, Memo.follows_empty n⟩

theorem Follows.isHit_get_iff (h : c.Follows n uses) (key : Text) :
    (c.get key).1.isHit = true ↔ UsedWithin n uses key := by
  cases c with
  | null =>
    refine iff_of_false Bool.false_ne_true ?_
    rintro ⟨_, since, _, _, hlt⟩
    rw [show n = 0 from h] at hlt
    exact Nat.not_lt_zero _ hlt
  | memory m =>
    obtain ⟨rfl, hm⟩ := h
    rw [← hm.isSome_find?_iff, get]
    cases m.find? key with
    | none => simp [Lookup.isHit]
    | some v => simp [Lookup.isHit]
  | broken => exact h.elim

theorem Follows.size_eq (h : c.Follows n uses) : c.size = min n uses.dedup.length := by
  cases c with
  | null =>
    rw [show n = 0 from h, Nat.zero_min]
    rfl
  | memory m =>
    obtain ⟨rfl, hm⟩ := h
    exact hm.size_eq
  | broken => exact h.elim

theorem Follows.get_of_isHit (h : c.Follows n uses) {key : Text} (hk : (c.get key).1.isHit = true) :
    (c.get key).2.Follows n (uses ++ [key]) := by
  cases c with
  | null => exact h
  | memory m =>
    obtain ⟨rfl, hm⟩ := h
    rw [get] at hk ⊢
    cases hf : m.find? key with
    | none =>
      rw [hf] at hk
      cases hk
    | some v =>
      have hfound : (m.find? key).isSome = true := by
        rw [hf]
        rfl
      refine ⟨?_, hm.touch hfound⟩
      unfold Memo.touch
      rw [hf]
  | broken => exact h.elim

theorem Follows.get_of_not_isHit (h : c.Follows n uses) {key : Text} (hk : ¬(c.get key).1.isHit = true) :
    c.get key = (.miss, c) := by
  cases c with
  | null => rfl
  | memory m =>
    rw [get] at hk ⊢
    cases hf : m.find? key with
    | none => rfl
    | some v =>
      rw [hf] at hk
      exact absurd rfl hk
  | broken => exact h.elim

theorem Follows.put (h : c.Follows n uses) (key : Text) (outcome : Outcome) :
    (c.put key outcome).Follows n (uses ++ [key]) := by
  cases c with
  | null => exact h
  | memory m => exact ⟨h.1, h.2.put key outcome⟩
  | broken => exact h.elim

end Cache

end JobPosting
