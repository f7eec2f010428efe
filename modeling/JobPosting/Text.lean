/-!
# Text

A text is a list of characters, so that every rule of the library is a function on lists.

* `Text.lower`, `Text.SameLetters` : ASCII letter case.
* `Text.split`, `Text.cut?` : pieces between separators, and the two sides of the first separator.
* `Text.stripPrefix?`, `Text.stripSuffix?` : what is left beside a known beginning or end.
* `Text.join` : pieces with a separator between them.

`join_split` says that splitting loses nothing, `split_append` that it works piece by piece, `cut?_eq_some_iff` where a
text is cut, `stripPrefix?_eq_some_iff` and `stripSuffix?_eq_some_iff` what is left of a text.
-/

namespace JobPosting

/-- Texts are lists of characters. -/
abbrev Text := List Char

instance : Coe String Text := ⟨String.toList⟩

/-- What is said of all characters of a text is decided along the text, not character by character of the whole type. -/
instance (priority := 1100) decidableForallMem (p : Char → Prop) [DecidablePred p] (t : Text) :
    Decidable (∀ c ∈ t, p c) := List.decidableBAll p t

namespace Text

/-! ## Letter case -/

/-- ASCII capitals become small; every other character stays. -/
def lower (t : Text) : Text := t.map Char.toLower

/-- Two texts that differ at most in the case of ASCII letters. -/
def SameLetters (a b : Text) : Prop := lower a = lower b

instance (a b : Text) : Decidable (SameLetters a b) := inferInstanceAs (Decidable (lower a = lower b))

def isDigit (c : Char) : Bool := '0' ≤ c && c ≤ '9'

def isLetter (c : Char) : Bool := ('a' ≤ c && c ≤ 'z') || ('A' ≤ c && c ≤ 'Z')

def isAscii (c : Char) : Bool := c.toNat < 0x80

/-- What can be said of every character of ASCII can be tried out. -/
theorem forall_ascii {P : Char → Prop} (h : ∀ n < 0x80, P (Char.ofNat n)) {c : Char} (hc : c.toNat < 0x80) : P c :=
  Char.ofNat_toNat c ▸ h c.toNat hc

/-! ## Pieces -/

/-- The pieces between separators: one more than there are separators. -/
def split (sep : Char) : Text → List Text
  | [] => [[]]
  | c :: r =>
    if c = sep then [] :: split sep r
    else match split sep r with
      | [] => [[c]]
      | p :: ps => (c :: p) :: ps

theorem split_ne_nil (sep : Char) (t : Text) : split sep t ≠ [] := by
  cases t with
  | nil => simp [split]
  | cons c r =>
    rw [split]
    split
    · simp
    · split <;> simp

def join (sep : Text) (ps : List Text) : Text := List.intercalate sep ps

/-- Everything before the first separator. -/
def before (sep : Char) (t : Text) : Text := t.takeWhile (· ≠ sep)

/-- The two sides of the first separator, if there is one. -/
def cut? (sep : Char) : Text → Option (Text × Text)
  | [] => none
  | c :: r => if c = sep then some ([], r) else (cut? sep r).map fun (a, b) => (c :: a, b)

/-- What follows the beginning `p`. -/
def stripPrefix? (p t : Text) : Option Text := p.isPrefixOf? t

/-- What precedes the end `s`. -/
def stripSuffix? (s t : Text) : Option Text := s.isSuffixOf? t

theorem stripPrefix?_nil (t : Text) : stripPrefix? [] t = some t := rfl

theorem stripPrefix?_cons_nil (c : Char) (p : Text) : stripPrefix? (c :: p) [] = none := rfl

theorem stripPrefix?_cons_cons (c d : Char) (p t : Text) :
    stripPrefix? (c :: p) (d :: t) = if c == d then stripPrefix? p t else none := rfl

theorem stripPrefix?_eq_some_iff {p t r : Text} : stripPrefix? p t = some r ↔ t = p ++ r := by
  induction p generalizing t with
  | nil => rw [stripPrefix?_nil, Option.some.injEq, List.nil_append]
  | cons c p ih =>
    cases t with
    | nil => simp [stripPrefix?_cons_nil]
    | cons d t =>
      by_cases h : c = d
      · subst h
        simpa [stripPrefix?_cons_cons] using ih
      · simp [stripPrefix?_cons_cons, h, Ne.symm h]

theorem stripSuffix?_eq_some_iff {s t r : Text} : stripSuffix? s t = some r ↔ t = r ++ s := by
  have h : stripSuffix? s t = (stripPrefix? s.reverse t.reverse).map List.reverse := rfl
  rw [h, Option.map_eq_some_iff]
  constructor
  · rintro ⟨u, hu, rfl⟩
    simpa using congrArg List.reverse (stripPrefix?_eq_some_iff.1 hu)
  · rintro rfl
    exact ⟨r.reverse, stripPrefix?_eq_some_iff.2 (by simp), by simp⟩

def removeFirst (needle : Text) : Text → Text
  | [] => []
  | c :: r =>
    match stripPrefix? needle (c :: r) with
    | some rest => rest
    | none => c :: removeFirst needle r

def containsText (needle : Text) : Text → Bool
  | [] => needle.isEmpty
  | c :: r => needle.isPrefixOf (c :: r) || containsText needle r

def nonEmpty? (t : Text) : Option Text := if t = [] then none else some t

@[simp] theorem nonEmpty?_nil : nonEmpty? [] = none := rfl

@[simp] theorem nonEmpty?_cons (c : Char) (r : Text) : nonEmpty? (c :: r) = some (c :: r) := rfl

theorem nonEmpty?_eq_some_iff {t u : Text} : nonEmpty? t = some u ↔ t = u ∧ u ≠ [] := by
  cases t with
  | nil => simp [eq_comm]
  | cons c r => simp +contextual [eq_comm]

theorem ne_nil_of_nonEmpty? {t u : Text} (h : nonEmpty? t = some u) : u ≠ [] := (nonEmpty?_eq_some_iff.1 h).2

/-- A value that counts as given: present and not empty. -/
def given : Option Text → Option Text
  | some t => nonEmpty? t
  | none => none

theorem given_eq_some_iff {o : Option Text} {t : Text} : given o = some t ↔ o = some t ∧ t ≠ [] := by
  cases o with
  | none => simp [given]
  | some s => rw [given, nonEmpty?_eq_some_iff, Option.some.injEq]

def padRight (width : Nat) (t : Text) : Text := t ++ List.replicate (width - t.length) ' '

/-! ## First separators -/

theorem cut?_eq_some_iff {sep : Char} {t a b : Text} : cut? sep t = some (a, b) ↔ t = a ++ sep :: b ∧ sep ∉ a := by
  induction t generalizing a with
  | nil => simp [cut?]
  | cons c r ih =>
    rw [cut?]
    by_cases hc : c = sep
    · subst hc
      cases a with
      | nil => simp
      | cons d a => simp +contextual [eq_comm]
    · rw [if_neg hc, Option.map_eq_some_iff]
      cases a with
      | nil => simp [hc]
      | cons d a =>
        constructor
        · rintro ⟨⟨x, y⟩, hxy, he⟩
          cases he
          obtain ⟨rfl, hn⟩ := ih.1 hxy
          exact ⟨rfl, by simp [hn, Ne.symm hc]⟩
        · rintro ⟨he, hn⟩
          obtain ⟨rfl, rfl⟩ := List.cons.inj he
          exact ⟨(a, b), ih.2 ⟨rfl, fun h => hn (List.mem_cons_of_mem _ h)⟩, rfl⟩

theorem before_append_cons {sep : Char} {a : Text} (h : sep ∉ a) (b : Text) : before sep (a ++ sep :: b) = a := by
  induction a with
  | nil => simp [before]
  | cons c a ih =>
    simp only [List.mem_cons, not_or] at h
    simpa [before, Ne.symm h.1] using ih h.2

theorem before_eq_self {sep : Char} {t : Text} (h : sep ∉ t) : before sep t = t := by
  induction t with
  | nil => rfl
  | cons c r ih =>
    simp only [List.mem_cons, not_or] at h
    simpa [before, Ne.symm h.1] using ih h.2

theorem split_eq_singleton {sep : Char} {t : Text} (h : sep ∉ t) : split sep t = [t] := by
  induction t with
  | nil => rfl
  | cons c r ih =>
    simp only [List.mem_cons, not_or] at h
    simp [split, ih h.2, Ne.symm h.1]

/-! ## Splitting loses nothing -/

theorem split_cons_ne {sep c : Char} (h : c ≠ sep) (r : Text) :
    ∃ p ps, split sep r = p :: ps ∧ split sep (c :: r) = (c :: p) :: ps := by
  match hr : split sep r with
  | [] => exact absurd hr (split_ne_nil sep r)
  | p :: ps => exact ⟨p, ps, rfl, by simp [split, h, hr]⟩

theorem join_split (sep : Char) (t : Text) : join [sep] (split sep t) = t := by
  induction t with
  | nil => simp [split, join, List.intercalate]
  | cons c r ih =>
    by_cases h : c = sep
    · subst h
      match hr : split c r with
      | [] => exact absurd hr (split_ne_nil c r)
      | p :: ps =>
        rw [hr] at ih
        simp only [split, hr, if_true]
        simpa [join, List.intercalate, List.intersperse] using ih
    · obtain ⟨p, ps, hr, hc⟩ := split_cons_ne h r
      rw [hr] at ih
      rw [hc]
      cases ps with
      | nil => simpa [join, List.intercalate, List.intersperse] using ih
      | cons q qs => simpa [join, List.intercalate, List.intersperse] using ih

theorem split_append (sep : Char) (s t : Text) : split sep (s ++ sep :: t) = split sep s ++ split sep t := by
  induction s with
  | nil => simp [split]
  | cons c s ih =>
    by_cases h : c = sep
    · subst h
      simp [split, ih]
    · obtain ⟨p, ps, hs, hc⟩ := split_cons_ne h s
      obtain ⟨q, qs, hst, hct⟩ := split_cons_ne h (s ++ sep :: t)
      rw [hs] at ih
      rw [List.cons_append, hct, hc]
      obtain ⟨rfl, rfl⟩ := List.cons.inj (hst.symm.trans ih)
      rfl

theorem split_inj {sep : Char} {s t : Text} (h : split sep s = split sep t) : s = t := by
  rw [← join_split sep s, h, join_split]

theorem join_append (sep : Char) {ps qs : List Text} (hp : ps ≠ []) (hq : qs ≠ []) :
    join [sep] (ps ++ qs) = join [sep] ps ++ sep :: join [sep] qs := by
  induction ps with
  | nil => exact absurd rfl hp
  | cons p ps ih =>
    cases ps with
    | nil =>
      obtain ⟨q, qs, rfl⟩ := List.exists_cons_of_ne_nil hq
      simp [join, List.intercalate, List.intersperse]
    | cons p' ps =>
      have ih := ih (List.cons_ne_nil _ _)
      simp only [join, List.intercalate, List.cons_append, List.intersperse_cons_cons, List.flatten_cons,
        List.append_assoc] at ih ⊢
      rw [ih]

end Text

end JobPosting
