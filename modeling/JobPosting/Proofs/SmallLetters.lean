import JobPosting.Proofs.CharacterTables
import JobPosting.Proofs.CleanUp
import JobPosting.Text.Lowercase

/-!
# Small letters stay as they are

A text in small letters consists of characters that have no other small form, so that it is its own small form. Writing
a text in small letters makes no difference to where its blanks and its points stand.

* `isSmall` : a character that is its own small form.
* `Text.lowercaseAfter_cons` : what becomes of one character, whatever stands around it.
* `Text.isSmall_of_mem_lowercase`, `Text.lowercase_eq_self` : small letters are what is left, and they are left alone.
* `Text.trim_lowercase_trim` : a text without blanks at its ends has none in small letters either.
-/

namespace JobPosting

/-! ## Characters -/

/-- A character that is its own small form. -/
def isSmall (c : Char) : Bool := smallForm c = [c]

/-- A small form has small characters only; they are blanks or points if the character is. -/
structure IsSmallForm (c : Char) (form : Text) : Prop where
  ne_nil : form ≠ []
  small : ∀ d ∈ form, isSmall d = true
  blank : ∀ d ∈ form, isBlank d = isBlank c
  point : '.' ∈ form ↔ c = '.'

theorem IsSmallForm.singleton {c d : Char} (hsmall : isSmall d = true) (hblank : isBlank d = isBlank c)
    (hpoint : d = '.' ↔ c = '.') : IsSmallForm c [d] where
  ne_nil := List.cons_ne_nil _ _
  small := by simpa using hsmall
  blank := by simpa using hblank
  point := by rw [List.mem_singleton, eq_comm, hpoint]

namespace Unicode

/-! ## Runs of capitals -/

def blanks : List Nat :=
  [9, 10, 11, 12, 13, 0x20, 0x85, 0xA0, 0x1680] ++ List.range' 0x2000 11 ++ [0x2028, 0x2029, 0x202F, 0x205F, 0x3000]

theorem isBlank_iff_mem_blanks {c : Char} : isBlank c = true ↔ c.toNat ∈ blanks := by
  simp only [isBlank, blanks, Bool.or_eq_true, Bool.and_eq_true, decide_eq_true_eq, List.mem_append, List.mem_cons,
    List.mem_range'_1, List.not_mem_nil, or_false]
  omega

namespace CaseRun

variable {r : CaseRun} {n : Nat}

def capitals (r : CaseRun) : List Nat := (distances r.first r.last r.step).map (r.first + ·)

def smalls (r : CaseRun) : List Nat := (distances r.first r.last r.step).map (r.image + ·)

theorem mem_distances (h : r.holds n = true) : n - r.first ∈ distances r.first r.last r.step ∧ r.first ≤ n := by
  simp only [holds, Bool.and_eq_true, decide_eq_true_eq, beq_iff_eq] at h
  exact ⟨mem_distances_iff.2 ⟨by omega, h.2⟩, h.1.1⟩

theorem mem_capitals (h : r.holds n = true) : n ∈ r.capitals :=
  List.mem_map.2 ⟨n - r.first, (mem_distances h).1, Nat.add_sub_cancel' (mem_distances h).2⟩

theorem small_mem_smalls (h : r.holds n = true) : r.small n ∈ r.smalls :=
  List.mem_map.2 ⟨n - r.first, (mem_distances h).1, rfl⟩

end CaseRun

def capitalLetters : List Nat := caseRuns.flatMap CaseRun.capitals

def smallLetters : List Nat := caseRuns.flatMap CaseRun.smalls

theorem not_holds_of_not_mem {n : Nat} (h : n ∉ capitalLetters) : ∀ r ∈ caseRuns, r.holds n = false :=
  fun r hr => Bool.eq_false_iff.2 fun hholds => h (List.mem_flatMap.2 ⟨r, hr, CaseRun.mem_capitals hholds⟩)

/-- A small letter stands behind the capitals of ASCII; it is no capital, and no blank. -/
theorem smallLetters_checked :
    bits smallLetters &&& bits (List.range 0x5B ++ 0x130 :: (capitalLetters ++ blanks)) = 0 ∧
      ∀ n ∈ smallLetters, n.isValidChar := by
  decide +kernel

theorem capitalLetters_checked : bits capitalLetters &&& bits blanks = 0 := by decide +kernel

end Unicode

/-! ## Small forms -/

/-- Behind the capitals of ASCII, what is none of the other capitals is small. -/
theorem isSmall_of_not_mem {c : Char} (hcapital : 0x5A < c.toNat) (hdotted : c.toNat ≠ 0x130)
    (h : c.toNat ∉ Unicode.capitalLetters) : isSmall c = true := by
  unfold isSmall smallForm
  by_cases hascii : c.toNat < 0x80
  · have hlower : c.toLower = c :=
      Text.forall_ascii (P := fun c => 0x5A < c.toNat → c.toLower = c) (by decide) hascii hcapital
    rw [if_pos hascii, hlower]
    exact decide_eq_true rfl
  · have hnone : Unicode.smallLetter? c.toNat = none := by
      unfold Unicode.smallLetter?
      rw [List.find?_eq_none.2 fun r hr => by simp [Unicode.not_holds_of_not_mem h r hr]]
      rfl
    have hne : c ≠ 'İ' := fun heq => hdotted (heq ▸ rfl)
    rw [if_neg hascii, if_neg hne, hnone]
    exact decide_eq_true rfl

theorem toNat_charOfNat {n : Nat} (h : n.isValidChar) : (Char.ofNat n).toNat = n := by
  unfold Char.ofNat
  rw [dif_pos h]
  rfl

theorem isSmallForm_of_ascii {c : Char} (h : c.toNat < 0x80) : IsSmallForm c [c.toLower] := by
  obtain ⟨hsmall, hblank, hpoint⟩ : isSmall c.toLower = true ∧ isBlank c.toLower = isBlank c ∧ (c.toLower = '.' ↔ c = '.') :=
    Text.forall_ascii
      (P := fun c => isSmall c.toLower = true ∧ isBlank c.toLower = isBlank c ∧ (c.toLower = '.' ↔ c = '.'))
      (by decide) h
  exact .singleton hsmall hblank hpoint

theorem isSmallForm_of_holds {c : Char} {r : Unicode.CaseRun} (hr : r ∈ Unicode.caseRuns) (h : r.holds c.toNat = true)
    (hwide : ¬c.toNat < 0x80) : IsSmallForm c [Char.ofNat (r.small c.toNat)] := by
  have hletter : r.small c.toNat ∈ Unicode.smallLetters :=
    List.mem_flatMap.2 ⟨r, hr, Unicode.CaseRun.small_mem_smalls h⟩
  have hcapital : c.toNat ∈ Unicode.capitalLetters := List.mem_flatMap.2 ⟨r, hr, Unicode.CaseRun.mem_capitals h⟩
  have htoNat := toNat_charOfNat (Unicode.smallLetters_checked.2 _ hletter)
  have hother := Unicode.not_mem_of_bits Unicode.smallLetters_checked.1 hletter
  rw [← htoNat] at hother
  simp only [List.mem_append, List.mem_range, List.mem_cons, not_or] at hother
  obtain ⟨habove, hdotted, hsmall, himage⟩ := hother
  have hpoint : Char.ofNat (r.small c.toNat) ≠ '.' := fun hdot => habove (by rw [hdot]; decide)
  rw [← Unicode.isBlank_iff_mem_blanks] at himage
  have hblank := Unicode.not_mem_of_bits Unicode.capitalLetters_checked hcapital
  rw [← Unicode.isBlank_iff_mem_blanks] at hblank
  refine .singleton (isSmall_of_not_mem (by omega) hdotted hsmall) (by simp [himage, hblank]) (iff_of_false hpoint ?_)
  rintro rfl
  exact hwide (by decide)

/-- A final sigma is small, and so are the other one and the parts of a small letter with a dot. -/
theorem isSmall_special : (∀ c ∈ ['σ', 'ς', 'i', '\u0307'], isSmall c = true) ∧ isSmall 'Σ' = false := by
  decide +kernel

theorem isSmallForm_smallForm (c : Char) : IsSmallForm c (smallForm c) := by
  by_cases hascii : c.toNat < 0x80
  · rw [smallForm, if_pos hascii]
    exact isSmallForm_of_ascii hascii
  by_cases hdotted : c = 'İ'
  · subst hdotted
    refine ⟨by decide, fun d hd => isSmall_special.1 d ?_, by decide, by decide⟩
    exact List.mem_cons_of_mem _ (List.mem_cons_of_mem _ hd)
  cases hs : Unicode.caseRuns.find? (·.holds c.toNat) with
  | none =>
    have hsame : smallForm c = [c] := by
      rw [smallForm, if_neg hascii, if_neg hdotted, Unicode.smallLetter?, hs]
      rfl
    rw [hsame]
    exact .singleton (decide_eq_true hsame) rfl Iff.rfl
  | some r =>
    have hform : smallForm c = [Char.ofNat (r.small c.toNat)] := by
      rw [smallForm, if_neg hascii, if_neg hdotted, Unicode.smallLetter?, hs]
      rfl
    rw [hform]
    have hholds : r.holds c.toNat = true := by simpa using List.find?_some hs
    exact isSmallForm_of_holds (List.mem_of_find?_eq_some hs) hholds hascii

theorem isSmallForm_sigma {c : Char} (h : c = 'σ' ∨ c = 'ς') : IsSmallForm 'Σ' [c] := by
  rcases h with rfl | rfl <;> exact .singleton (isSmall_special.1 _ (by decide)) (by decide) (by decide)

/-! ## Texts -/

namespace Text

/-- One character is written in small letters, and the rest as it is behind it. -/
theorem lowercaseAfter_cons (earlier : Text) (c : Char) (r : Text) :
    ∃ form, IsSmallForm c form ∧ (isSmall c = true → form = [c]) ∧
      lowercaseAfter earlier (c :: r) = form ++ lowercaseAfter (c :: earlier) r := by
  by_cases hsigma : c = 'Σ'
  · subst hsigma
    refine ⟨_, isSmallForm_sigma ?_, fun hsmall => absurd hsmall (Bool.eq_false_iff.1 isSmall_special.2), rfl⟩
    exact (ite_eq_or_eq (endsWord earlier r = true) 'ς' 'σ').symm
  · refine ⟨smallForm c, isSmallForm_smallForm c, of_decide_eq_true, ?_⟩
    rw [lowercaseAfter, if_neg hsigma]

variable {t : Text}

theorem isSmall_of_mem_lowercaseAfter {earlier : Text} {c : Char} (hc : c ∈ lowercaseAfter earlier t) :
    isSmall c = true := by
  induction t generalizing earlier with
  | nil => cases hc
  | cons d r ih =>
    obtain ⟨form, hform, -, heq⟩ := lowercaseAfter_cons earlier d r
    rw [heq] at hc
    exact (List.mem_append.1 hc).elim (hform.small c) ih

theorem isSmall_of_mem_lowercase {c : Char} (hc : c ∈ lowercase t) : isSmall c = true :=
  isSmall_of_mem_lowercaseAfter hc

theorem lowercaseAfter_eq_self (h : ∀ c ∈ t, isSmall c = true) (earlier : Text) : lowercaseAfter earlier t = t := by
  induction t generalizing earlier with
  | nil => rfl
  | cons c r ih =>
    obtain ⟨form, -, hsame, heq⟩ := lowercaseAfter_cons earlier c r
    rw [heq, hsame (h c List.mem_cons_self), ih fun d hd => h d (List.mem_cons_of_mem c hd)]
    rfl

theorem lowercase_eq_self (h : ∀ c ∈ t, isSmall c = true) : lowercase t = t := lowercaseAfter_eq_self h []

theorem point_mem_lowercaseAfter {earlier : Text} : '.' ∈ lowercaseAfter earlier t ↔ '.' ∈ t := by
  induction t generalizing earlier with
  | nil => exact Iff.rfl
  | cons c r ih =>
    obtain ⟨form, hform, -, heq⟩ := lowercaseAfter_cons earlier c r
    rw [heq, List.mem_append, hform.point, ih, List.mem_cons, eq_comm]

/-! ## Blanks at the ends -/

theorem trim_eq_self_iff : trim t = t ↔ t.head?.map isBlank ≠ some true ∧ t.getLast?.map isBlank ≠ some true := by
  constructor
  · intro h
    have hhead : t.head?.map isBlank ≠ some true := h ▸ head?_trim t
    refine ⟨hhead, trimEnd_eq_self_iff.1 ?_⟩
    rw [← trim_eq_trimEnd hhead, h]
  · rintro ⟨hhead, hlast⟩
    rw [trim_eq_trimEnd hhead, trimEnd_eq_self_iff.2 hlast]

theorem trim_trim (t : Text) : trim (trim t) = trim t := by
  rw [trim_eq_trimEnd (head?_trim t)]
  exact List.rdropWhile_idempotent isBlank _

theorem head?_lowercaseAfter (earlier : Text) : (lowercaseAfter earlier t).head?.map isBlank = t.head?.map isBlank := by
  cases t with
  | nil => rfl
  | cons c r =>
    obtain ⟨form, hform, -, heq⟩ := lowercaseAfter_cons earlier c r
    obtain ⟨d, form, rfl⟩ := List.exists_cons_of_ne_nil hform.ne_nil
    rw [heq]
    exact congrArg some (hform.blank d List.mem_cons_self)

theorem getLast?_lowercaseAfter (earlier : Text) :
    (lowercaseAfter earlier t).getLast?.map isBlank = t.getLast?.map isBlank := by
  induction t generalizing earlier with
  | nil => rfl
  | cons c r ih =>
    obtain ⟨form, hform, -, heq⟩ := lowercaseAfter_cons earlier c r
    have hform' : form.getLast?.map isBlank = some (isBlank c) := by
      rw [List.getLast?_eq_some_getLast hform.ne_nil]
      exact congrArg some (hform.blank _ (List.getLast_mem hform.ne_nil))
    rw [heq, List.getLast?_append, Option.map_or, ih, hform', ← List.singleton_append, List.getLast?_append,
      Option.map_or]
    rfl

/-- A text without blanks at its ends has none in small letters either. -/
theorem trim_lowercase_trim (t : Text) : trim (lowercase (trim t)) = lowercase (trim t) := by
  have htrim := trim_eq_self_iff.1 (trim_trim t)
  rw [trim_eq_self_iff]
  unfold lowercase
  rwa [head?_lowercaseAfter, getLast?_lowercaseAfter]

end Text

end JobPosting
