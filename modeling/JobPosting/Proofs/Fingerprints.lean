import JobPosting.Fingerprint
import Mathlib.Data.List.Basic

/-!
# Fingerprints of different texts

The digest goes through the code units of a text one by one, and no step loses anything: from the digest after a step
and the unit that was mixed in, the digest before it can be told, and from the two digests the unit. Two texts can
therefore only have one fingerprint if their digests meet on the way, which takes more than one unit.

* `Digest.absorb_left_inj`, `Digest.absorb_right_inj` : a step is one-to-one in the digest and in the unit.
* `Digest.absorbAll_inj` : so is a whole run in the digest at its beginning.
* `Digest.digits_inj` : a digest can be read off its eight digits.
* `Text.OneUnitApart` : two texts that differ in one code unit.
* `fingerprint_collisions` : what texts of one fingerprint have in common.
-/

namespace JobPosting

/-! ## Digits -/

def hexDigits : List Char := "0123456789abcdef".toList

theorem hexDigit_mem {v : Nat} (h : v < 16) : hexDigit v ∈ hexDigits := by
  have hall : ∀ v < 16, hexDigit v ∈ hexDigits := by decide
  exact hall v h

theorem hexDigit_inj {v w : Nat} (hv : v < 16) (hw : w < 16) : hexDigit v = hexDigit w ↔ v = w := by
  have hall : ∀ v < 16, ∀ w < 16, hexDigit v = hexDigit w → v = w := by decide
  exact ⟨hall v hv w hw, congrArg hexDigit⟩

/-- Two numbers of at most `k` hexadecimal digits are the same if all their digits are. -/
theorem eq_of_digits_eq {k n m : Nat} (hn : n >>> (4 * k) = 0) (hm : m >>> (4 * k) = 0)
    (h : ∀ i < k, (n >>> (4 * i)) % 16 = (m >>> (4 * i)) % 16) : n = m := by
  induction k generalizing n m with
  | zero => exact hn.trans hm.symm
  | succ k ih =>
    have hshift : ∀ i a : Nat, a >>> (4 * (i + 1)) = a >>> 4 >>> (4 * i) := by
      intro i a
      rw [← Nat.shiftRight_add, Nat.mul_succ, Nat.add_comm]
    have hlow : n % 16 = m % 16 := h 0 (by omega)
    have hhigh : n >>> 4 = m >>> 4 := by
      refine ih (hshift k n ▸ hn) (hshift k m ▸ hm) fun i hi => ?_
      have hdigit := h (i + 1) (by omega)
      rwa [hshift, hshift] at hdigit
    rw [Nat.shiftRight_eq_div_pow, Nat.shiftRight_eq_div_pow] at hhigh
    omega

namespace Digest

variable {d e : UInt32}

theorem mem_digits {c : Char} (hc : c ∈ digits d) : c ∈ hexDigits := by
  obtain ⟨k, -, rfl⟩ := List.mem_map.1 hc
  exact hexDigit_mem (Nat.mod_lt _ (by decide))

theorem digits_inj : digits d = digits e ↔ d = e := by
  refine ⟨fun h => ?_, congrArg digits⟩
  have hplaces : ∀ i < 8, 4 * i ∈ [28, 24, 20, 16, 12, 8, 4, 0] := by decide
  have hd : d.toNat >>> (4 * 8) = 0 := Nat.shiftRight_eq_zero _ _ d.toNat_lt
  have he : e.toNat >>> (4 * 8) = 0 := Nat.shiftRight_eq_zero _ _ e.toNat_lt
  refine UInt32.toNat_inj.1 (eq_of_digits_eq hd he fun i hi => ?_)
  have hdigit : hexDigit ((d.toNat >>> (4 * i)) % 16) = hexDigit ((e.toNat >>> (4 * i)) % 16) :=
    List.map_inj_left.1 h _ (hplaces i hi)
  exact (hexDigit_inj (Nat.mod_lt _ (by decide)) (Nat.mod_lt _ (by decide))).1 hdigit

/-! ## Steps -/

/-- What undoes a multiplication by the factor, which is odd. -/
def cofactor : UInt32 := 0x359c449b

theorem factor_mul_cofactor : factor * cofactor = 1 := by decide

theorem mul_factor_inj : d * factor = e * factor ↔ d = e := by
  refine ⟨fun h => ?_, congrArg (· * factor)⟩
  calc d = d * (factor * cofactor) := by rw [factor_mul_cofactor, UInt32.mul_one]
    _ = e * (factor * cofactor) := by rw [← UInt32.mul_assoc, h, UInt32.mul_assoc]
    _ = e := by rw [factor_mul_cofactor, UInt32.mul_one]

theorem absorb_left_inj {u : Nat} : absorb d u = absorb e u ↔ d = e := by
  unfold absorb
  rw [mul_factor_inj, UInt32.xor_left_inj]

theorem absorb_right_inj {u v : Nat} (hu : u < 0x10000) (hv : v < 0x10000) : absorb d u = absorb d v ↔ u = v := by
  unfold absorb
  rw [mul_factor_inj, UInt32.xor_right_inj]
  refine ⟨fun h => ?_, congrArg UInt32.ofNat⟩
  have hsize : 0x10000 ≤ UInt32.size := by decide
  have h := congrArg UInt32.toNat h
  rwa [UInt32.toNat_ofNat_of_lt' (Nat.lt_of_lt_of_le hu hsize),
    UInt32.toNat_ofNat_of_lt' (Nat.lt_of_lt_of_le hv hsize)] at h

theorem absorbAll_append (us vs : List Nat) : absorbAll d (us ++ vs) = absorbAll (absorbAll d us) vs :=
  List.foldl_append

theorem absorbAll_inj {us : List Nat} : absorbAll d us = absorbAll e us ↔ d = e := by
  induction us generalizing d e with
  | nil => exact Iff.rfl
  | cons u us ih => exact ih.trans absorb_left_inj

/-- Runs over units of which one differs end in different digests. -/
theorem absorbAll_ne {front back : List Nat} {u v : Nat} (hu : u < 0x10000) (hv : v < 0x10000) (h : u ≠ v) :
    absorbAll d (front ++ u :: back) ≠ absorbAll d (front ++ v :: back) := by
  rw [absorbAll_append, absorbAll_append]
  intro heq
  exact h ((absorb_right_inj hu hv).1 (absorbAll_inj.1 heq))

end Digest

/-! ## Code units -/

namespace Text

theorem units_append (s t : Text) : units (s ++ t) = units s ++ units t := List.flatMap_append

theorem unit_lt {t : Text} {u : Nat} (h : u ∈ units t) : u < 0x10000 := by
  obtain ⟨c, -, hu⟩ := List.mem_flatMap.1 h
  have hc : c.toNat < 0x110000 := c.valid.elim (fun hlow => Nat.lt_trans hlow (by decide)) And.right
  unfold unitsOf at hu
  dsimp only at hu
  split at hu
  · rename_i hsmall
    rwa [List.mem_singleton.1 hu]
  · simp only [List.mem_cons, List.not_mem_nil, or_false] at hu
    omega

theorem units_cons_digit {c : Char} (h : isDigit c = true) (t : Text) : units (c :: t) = c.toNat :: units t := by
  have hc : c.toNat < 0x10000 := by
    simp only [isDigit, Bool.and_eq_true, decide_eq_true_eq, Char.le_def, UInt32.le_iff_toNat_le] at h
    exact Nat.lt_of_le_of_lt h.2 (by decide)
  show unitsOf c ++ units t = _
  rw [unitsOf, if_pos hc]
  rfl

/-- Two texts with equally many code units, all but one of which are the same. -/
def OneUnitApart (s t : Text) : Prop :=
  (units s).length = (units t).length ∧ ∃! i : Nat, (units s)[i]? ≠ (units t)[i]?

/-- Lists of one length that differ at one position only are the same before it and behind it. -/
theorem exists_of_existsUnique_ne {us vs : List Nat} (hlength : us.length = vs.length)
    (h : ∃! i : Nat, us[i]? ≠ vs[i]?) :
    ∃ front back u v, u ≠ v ∧ us = front ++ u :: back ∧ vs = front ++ v :: back := by
  obtain ⟨i, hne, hunique⟩ := h
  have hsame : ∀ j, j ≠ i → us[j]? = vs[j]? := fun j hj => Classical.not_not.1 fun hdiffer => hj (hunique j hdiffer)
  have hi : i < us.length := by
    by_contra hlong
    rw [List.getElem?_eq_none (by omega), List.getElem?_eq_none (by omega)] at hne
    exact hne rfl
  have hi' : i < vs.length := hlength ▸ hi
  have hfront : us.take i = vs.take i := by
    refine List.ext_getElem? fun j => ?_
    rw [List.getElem?_take, List.getElem?_take]
    split
    · rename_i hj
      exact hsame j (Nat.ne_of_lt hj)
    · rfl
  have hback : us.drop (i + 1) = vs.drop (i + 1) := by
    refine List.ext_getElem? fun j => ?_
    rw [List.getElem?_drop, List.getElem?_drop]
    exact hsame _ (by omega)
  refine ⟨us.take i, us.drop (i + 1), us[i], vs[i], fun heq => hne ?_, ?_, ?_⟩
  · rw [List.getElem?_eq_getElem hi, List.getElem?_eq_getElem hi', heq]
  · rw [← List.drop_eq_getElem_cons hi, List.take_append_drop]
  · rw [hfront, hback, ← List.drop_eq_getElem_cons hi', List.take_append_drop]

theorem oneUnitApart_of_units {s t : Text} (front back : List Nat) {u v : Nat} (hne : u ≠ v)
    (hs : units s = front ++ u :: back) (ht : units t = front ++ v :: back) : OneUnitApart s t := by
  refine ⟨by rw [hs, ht, List.length_append, List.length_append]; rfl, front.length, ?_, fun j hj => ?_⟩
  · show (units s)[front.length]? ≠ (units t)[front.length]?
    rw [hs, ht, List.getElem?_append_right (Nat.le_refl _), List.getElem?_append_right (Nat.le_refl _), Nat.sub_self]
    simpa using hne
  · by_contra hother
    rw [hs, ht, List.getElem?_append, List.getElem?_append] at hj
    split at hj
    · exact hj rfl
    · obtain ⟨k, hk⟩ : ∃ k, j - front.length = k + 1 := Nat.exists_eq_succ_of_ne_zero (by omega)
      rw [hk] at hj
      exact hj rfl

theorem oneUnitApart_digit {c d : Char} (hc : isDigit c = true) (hd : isDigit d = true) (hne : c ≠ d) (front back : Text) :
    OneUnitApart (front ++ c :: back) (front ++ d :: back) := by
  refine oneUnitApart_of_units (units front) (units back) (fun heq => hne (Char.toNat_inj.1 heq)) ?_ ?_
  · rw [units_append, units_cons_digit hc]
  · rw [units_append, units_cons_digit hd]

end Text

/-! ## Fingerprints -/

theorem fingerprint_inj {s t : Text} : fingerprint s = fingerprint t ↔ digest s = digest t := Digest.digits_inj

theorem digest_append (s t : Text) : digest (s ++ t) = Digest.absorbAll (digest s) (Text.units t) := by
  unfold digest
  rw [Text.units_append, Digest.absorbAll_append]

theorem fingerprint_append_inj {s t : Text} (rest : Text) :
    fingerprint (s ++ rest) = fingerprint (t ++ rest) ↔ fingerprint s = fingerprint t := by
  rw [fingerprint_inj, fingerprint_inj, digest_append, digest_append, Digest.absorbAll_inj]

theorem fingerprint_ne_of_oneUnitApart {s t : Text} (h : Text.OneUnitApart s t) : fingerprint s ≠ fingerprint t := by
  obtain ⟨front, back, u, v, hne, hs, ht⟩ := Text.exists_of_existsUnique_ne h.1 h.2
  have hu : u < 0x10000 := Text.unit_lt (hs ▸ List.mem_append_right _ List.mem_cons_self)
  have hv : v < 0x10000 := Text.unit_lt (ht ▸ List.mem_append_right _ List.mem_cons_self)
  rw [Ne, fingerprint_inj]
  unfold digest
  rw [hs, ht]
  exact Digest.absorbAll_ne hu hv hne

/-- A fingerprint has eight hexadecimal digits. Putting the same text behind two texts neither makes their fingerprints
equal nor tells them apart. Texts that are one code unit apart have different fingerprints, and so have texts that are
one digit apart. -/
theorem fingerprint_collisions (s t : Text) :
    ((fingerprint s).length = 8 ∧ ∀ c ∈ fingerprint s, c ∈ hexDigits) ∧
    (∀ rest, fingerprint (s ++ rest) = fingerprint (t ++ rest) ↔ fingerprint s = fingerprint t) ∧
    (Text.OneUnitApart s t → fingerprint s ≠ fingerprint t) ∧
    ∀ c d, Text.isDigit c = true → Text.isDigit d = true → c ≠ d →
      fingerprint (s ++ c :: t) ≠ fingerprint (s ++ d :: t) := by
  refine ⟨⟨fingerprint_length s, fun c hc => Digest.mem_digits hc⟩, fingerprint_append_inj,
    fingerprint_ne_of_oneUnitApart, fun c d hc hd hne => ?_⟩
  exact fingerprint_ne_of_oneUnitApart (Text.oneUnitApart_digit hc hd hne s t)

/-- Two characters outside the basic plane that share their first unit, and two slugs that differ in a digit. -/
theorem fingerprint_collisions_pairs :
    Text.OneUnitApart "😀" "😁" ∧ fingerprint "😀" ≠ fingerprint "😁" ∧
      fingerprint "/jobs/1042-rust" ≠ fingerprint "/jobs/1043-rust" := by
  have hsmile : Text.units "😀" = [0xD83D] ++ 0xDE00 :: [] := by decide
  have hgrin : Text.units "😁" = [0xD83D] ++ 0xDE01 :: [] := by decide
  have hapart : Text.OneUnitApart "😀" "😁" := Text.oneUnitApart_of_units [0xD83D] [] (by decide) hsmile hgrin
  obtain ⟨-, -, hunit, -⟩ := fingerprint_collisions "😀" "😁"
  obtain ⟨-, -, -, hdigit⟩ := fingerprint_collisions "/jobs/104" "-rust"
  exact ⟨hapart, hunit hapart, hdigit '2' '3' (by decide) (by decide) (by decide)⟩

end JobPosting
