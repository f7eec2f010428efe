import JobPosting.Unicode.Table
import Mathlib.Data.List.Forall2
import Mathlib.Data.Nat.Bitwise

/-!
# Searching tables of characters

What is found in a table is one of its items, and in a table in ascending order every character is found that one of the
items holds. What is to be checked about all items of a table can be checked on its rows as lists of characters, which
are evaluated faster than the strings that they are written as.

* `bits` : a set of characters as one number; `not_mem_of_bits` and `mem_of_bits` compare two of them.
* `Span.entries` : the characters of an item with their images.
* `Table.mem_of_find?`, `Table.exists_of_image?` : what is found stands in the table.
* `Table.isAscending`, `Table.find?_of_mem` : what stands in an ascending table is found.
* `Table.of_rows` : a check on rows of characters is one on the table.
-/

namespace JobPosting.Unicode

/-! ## Sets of characters -/

/-- A set of characters as the bits of one number, so that two sets are compared in one step. -/
def bits (ns : List Nat) : Nat := ns.foldr (fun n m => 2 ^ n ||| m) 0

theorem testBit_bits {ns : List Nat} {n : Nat} : (bits ns).testBit n = true ↔ n ∈ ns := by
  induction ns with
  | nil => simp [bits]
  | cons a r ih =>
    have hcons : bits (a :: r) = 2 ^ a ||| bits r := rfl
    rw [hcons, Nat.testBit_or, Nat.testBit_two_pow, Bool.or_eq_true, ih, decide_eq_true_eq, List.mem_cons, eq_comm]

theorem not_mem_of_bits {ns ms : List Nat} (h : bits ns &&& bits ms = 0) {n : Nat} (hn : n ∈ ns) : n ∉ ms := by
  intro hm
  have hboth : (bits ns &&& bits ms).testBit n = true := by
    rw [Nat.testBit_and, testBit_bits.2 hn, testBit_bits.2 hm]
    rfl
  rw [h, Nat.zero_testBit] at hboth
  cases hboth

theorem mem_of_bits {ns ms : List Nat} (h : bits ns &&& bits ms = bits ns) {n : Nat} (hn : n ∈ ns) : n ∈ ms := by
  have hbit := testBit_bits.2 hn
  rw [← h, Nat.testBit_and, Bool.and_eq_true] at hbit
  exact testBit_bits.1 hbit.2

/-- How far every `step`-th character from `first` to `last` is from the first one. -/
def distances (first last step : Nat) : List Nat := (List.range (last + 1 - first)).filter (· % step == 0)

theorem mem_distances_iff {first last step d : Nat} :
    d ∈ distances first last step ↔ d < last + 1 - first ∧ d % step = 0 := by
  rw [distances, List.mem_filter, List.mem_range, beq_iff_eq]

/-! ## Items -/

namespace Span

/-- What the character at distance `d` from the first one is sent to. -/
def images (s : Span) (d : Nat) : List Nat :=
  match s.image with
  | [n] => [n + d]
  | ns => ns

def characters (s : Span) : List Nat := (distances s.first s.last s.step).map (s.first + ·)

/-- The characters of an item, each with what it is sent to. -/
def entries (s : Span) : List (Nat × List Nat) :=
  (distances s.first s.last s.step).map fun d => (s.first + d, s.images d)

theorem holds_of_mem {s : Span} {n : Nat} (h : n ∈ s.characters) : s.holds n = true := by
  obtain ⟨d, hd, rfl⟩ := List.mem_map.1 h
  obtain ⟨hlast, hstep⟩ := mem_distances_iff.1 hd
  simp only [holds, Bool.and_eq_true, decide_eq_true_eq, beq_iff_eq, Nat.add_sub_cancel_left]
  exact ⟨⟨Nat.le_add_right _ _, by omega⟩, hstep⟩

theorem first_le_of_holds {s : Span} {n : Nat} (h : s.holds n = true) : s.first ≤ n ∧ n ≤ s.last := by
  simp only [holds, Bool.and_eq_true, decide_eq_true_eq] at h
  exact h.1

end Span

namespace Table

variable {t : Table} {n : Nat} {s : Span}

/-! ## What is found -/

theorem mem_of_find? (h : t.find? n = some s) : s ∈ t ∧ s.holds n = true := by
  unfold find? at h
  split at h
  · cases h
  · obtain ⟨hget, hholds⟩ := Option.filter_eq_some_iff.1 h
    exact ⟨Array.mem_of_getElem? hget, hholds⟩

theorem exists_entry_of_image? {c : Char} {u : Text} (h : t.image? c = some u) :
    ∃ s ∈ t, ∃ ns, (c.toNat, ns) ∈ s.entries ∧ u = ns.map Char.ofNat := by
  obtain ⟨s, hfind, rfl⟩ := Option.map_eq_some_iff.1 h
  obtain ⟨hmem, hholds⟩ := mem_of_find? hfind
  simp only [Span.holds, Bool.and_eq_true, decide_eq_true_eq, beq_iff_eq] at hholds
  refine ⟨s, hmem, s.images (c.toNat - s.first), List.mem_map.2 ⟨c.toNat - s.first, ?_, ?_⟩, ?_⟩
  · exact mem_distances_iff.2 ⟨by omega, hholds.2⟩
  · rw [Nat.add_sub_cancel' hholds.1.1]
  · rcases himage : s.image with _ | ⟨n, _ | ⟨m, r⟩⟩ <;> simp [Span.images, himage]

/-- Whether all characters of some items pass a check together with what they are sent to. -/
def all (check : Nat → List Nat → Bool) (ss : List Span) : Bool := ss.all fun s => s.entries.all fun e => check e.1 e.2

/-- What holds of all characters of a table holds of a character whose image is found. -/
theorem exists_of_image? {check : Nat → List Nat → Bool} (hall : all check t.toList = true) {c : Char} {u : Text}
    (h : t.image? c = some u) : ∃ ns, u = ns.map Char.ofNat ∧ check c.toNat ns = true := by
  obtain ⟨s, hs, ns, hentry, rfl⟩ := exists_entry_of_image? h
  exact ⟨ns, rfl, List.all_eq_true.1 (List.all_eq_true.1 hall s (Array.mem_toList_iff.2 hs)) _ hentry⟩

/-! ## What stands in a table -/

/-- Whether the items are in ascending order, none of them is empty, and the first one begins at `n` or behind it. -/
def isAscending (n : Nat) : List Span → Bool
  | [] => true
  | s :: r => Nat.ble n s.first && Nat.ble s.first s.last && isAscending (s.last + 1) r

theorem le_of_isAscending {ss : List Span} (h : isAscending n ss = true) {s : Span} (hs : s ∈ ss) :
    n ≤ s.first ∧ s.first ≤ s.last := by
  induction ss generalizing n with
  | nil => cases hs
  | cons a r ih =>
    simp only [isAscending, Bool.and_eq_true, Nat.ble_eq] at h
    rcases List.mem_cons.1 hs with rfl | hs
    · exact h.1
    · obtain ⟨hn, hle⟩ := ih h.2 hs
      exact ⟨by omega, hle⟩

theorem pairwise_of_isAscending {ss : List Span} (h : isAscending n ss = true) :
    ss.Pairwise fun a b => a.last < b.first := by
  induction ss generalizing n with
  | nil => exact .nil
  | cons a r ih =>
    simp only [isAscending, Bool.and_eq_true] at h
    exact .cons (fun b hb => (le_of_isAscending h.2 hb).1) (ih h.2)

/-- The search for the number of items before `n` stops behind the item `k` if it is the last one that begins at `n` or
before. -/
theorem countTo_eq {k lo hi : Nat} (hlo : lo ≤ k + 1) (hhi : k + 1 ≤ hi)
    (hbefore : ∀ i ≤ k, (t.getD i default).first ≤ n) (hbehind : ∀ i < hi, k < i → n < (t.getD i default).first) :
    countTo t n lo hi = k + 1 := by
  fun_induction countTo t n lo hi with
  | case1 lo hi hlt mid hle ih =>
    have hmid : mid ≤ k := by
      by_contra hnot
      exact absurd (hbehind mid (by omega) (by omega)) (by omega)
    exact ih (by omega) hhi hbehind
  | case2 lo hi hlt mid hnot ih =>
    have hmid : k < mid := by
      by_contra hle
      exact hnot (hbefore mid (by omega))
    exact ih hlo (by omega) fun i hi' hk => hbehind i (by omega) hk
  | case3 lo hi hnot => omega

/-- In an ascending table the item of a number is found. -/
theorem find?_of_mem (h : isAscending 0 t.toList = true) (hs : s ∈ t) (hn : s.holds n = true) : t.find? n = some s := by
  obtain ⟨k, hk, rfl⟩ := Array.mem_iff_getElem.1 hs
  obtain ⟨hfirst, hlast⟩ := Span.first_le_of_holds hn
  have hget : ∀ {i} (hi : i < t.size), t.getD i default = t[i] := fun hi => by rw [Array.getD, dif_pos hi]; rfl
  have horder : ∀ {i j} (hi : i < t.size) (hj : j < t.size), i < j → t[i].last < t[j].first := fun hi hj hij =>
    List.pairwise_iff_getElem.1 (pairwise_of_isAscending h) _ _ hi hj hij
  have hcount : countTo t n 0 t.size = k + 1 := by
    refine countTo_eq (Nat.zero_le _) hk (fun i hi => ?_) (fun i hi hki => ?_)
    · rw [hget (by omega)]
      rcases Nat.lt_or_eq_of_le hi with hlt | rfl
      · have hle := (le_of_isAscending h (Array.mem_toList_iff.2 (Array.getElem_mem (by omega : i < t.size)))).2
        have hbefore := horder (by omega) hk hlt
        omega
      · exact hfirst
    · rw [hget hi]
      have hbehind := horder hk hi hki
      omega
  simp only [find?, hcount]
  rw [Array.getElem?_eq_getElem hk]
  exact Option.filter_some_pos hn

/-! ## Rows -/

/-- The items that are written in some rows. -/
def items (rows : List Text) : List Span := rows.flatMap fun row => (Text.split ' ' row).map Span.read

theorem ofRows_eq {rows : List String} {texts : List Text}
    (h : List.Forall₂ (fun row text => row.toList = text) rows texts) :
    ofRows rows = (items texts).toArray := by
  refine congrArg List.toArray ?_
  unfold items
  induction h with
  | nil => rfl
  | cons hrow _ ih => rw [List.flatMap_cons, List.flatMap_cons, hrow, ih]

/-- What is checked on rows of characters holds of the table with these rows. -/
theorem of_rows {rows : List String} {texts : List Text} {p : List Span → Bool}
    (h : List.Forall₂ (fun row text => row.toList = text) rows texts) (hp : p (items texts) = true) :
    p (ofRows rows).toList = true := by
  rw [ofRows_eq h]
  exact hp

end Table

end JobPosting.Unicode
