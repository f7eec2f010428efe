import JobPosting.Text

/-!
# Blank characters

The characters with the property White_Space, and what depends on them: trimming both ends of a text and telling
whether it shows anything at all.

* `Text.isBlank_iff` : a text is blank when trimming leaves nothing.
-/

namespace JobPosting

/-- The property White_Space. -/
def isBlank (c : Char) : Bool :=
  let n := c.toNat
  (9 ≤ n && n ≤ 13) || n = 0x20 || n = 0x85 || n = 0xA0 || n = 0x1680 || (0x2000 ≤ n && n ≤ 0x200A) ||
    n = 0x2028 || n = 0x2029 || n = 0x202F || n = 0x205F || n = 0x3000

namespace Text

def trimEnd (t : Text) : Text := (t.reverse.dropWhile isBlank).reverse

def trim (t : Text) : Text := trimEnd (t.dropWhile isBlank)

theorem trim_sublist (t : Text) : (trim t).Sublist t := by
  have hend : ∀ s, (trimEnd s).Sublist s := by
    intro s
    have h := (List.dropWhile_sublist (l := s.reverse) isBlank).reverse
    rwa [List.reverse_reverse] at h
  exact (hend _).trans (List.dropWhile_sublist _)

def IsBlank (t : Text) : Prop := trim t = []

instance (t : Text) : Decidable (IsBlank t) := inferInstanceAs (Decidable (trim t = []))

theorem dropWhile_eq_nil {p : Char → Bool} {t : Text} : t.dropWhile p = [] ↔ ∀ c ∈ t, p c = true := by
  induction t with
  | nil => simp
  | cons c r ih => by_cases h : p c = true <;> simp [h, ih]

theorem trimEnd_eq_nil {t : Text} : trimEnd t = [] ↔ ∀ c ∈ t, JobPosting.isBlank c = true := by
  rw [trimEnd, List.reverse_eq_nil_iff, dropWhile_eq_nil]
  simp only [List.mem_reverse]

theorem isBlank_iff {t : Text} : IsBlank t ↔ ∀ c ∈ t, JobPosting.isBlank c = true := by
  constructor
  · intro h c hc
    have hd := trimEnd_eq_nil.1 h
    induction t with
    | nil => simp at hc
    | cons d r ih =>
      by_cases hb : JobPosting.isBlank d = true
      · rcases List.mem_cons.1 hc with rfl | hc
        · exact hb
        · exact ih (by simpa [IsBlank, trim, hb] using h) hc (by simpa [List.dropWhile_cons, hb] using hd)
      · exact absurd (hd d (by simp [hb])) hb
  · intro h
    rw [IsBlank, trim, dropWhile_eq_nil.2 h]
    rfl

end Text

end JobPosting
