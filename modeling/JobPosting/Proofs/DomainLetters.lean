import JobPosting.Proofs.CharacterTables
import JobPosting.Proofs.SmallLetters
import JobPosting.Proofs.UrlParts

/-!
# Domain names in small letters

A domain name in ASCII has no capitals, in whatever letters it is written. Capitals of ASCII are replaced by small
letters, and so are the Latin letters that are taken apart into a capital of ASCII and marks; nothing else is taken apart
into one of these, or replaced by one, and nothing is composed to a letter of ASCII.

* `Unicode.isLatinCapital` : a capital of ASCII, or a letter that consists of one and of marks.
* `Unicode.exists_image?_domainReplacements` : such letters outside ASCII are replaced.
* `Domain.not_isCapital_of_normalize?` : a name in its canonical form has no capital of ASCII.
* `Host.isSmall_of_read` : a host consists of small characters.
-/

namespace JobPosting

namespace Unicode

/-! ## Latin capitals -/

/-- The blocks that Latin letters stand in which consist of a letter of ASCII and of marks. -/
def isLatin (n : Nat) : Bool :=
  (Nat.ble 0x80 n && Nat.blt n 0x250) ||
    (Nat.ble 0x1E00 n && (Nat.blt n 0x1F00 || Nat.beq n 0x212A || Nat.beq n 0x212B))

/-- The Latin capitals outside ASCII: the one with a dot, and those of the Latin runs. -/
def wideCapitals : List Nat := 0x130 :: (caseRuns.filter fun r => isLatin r.first).flatMap CaseRun.capitals

/-- Whether a character is a capital of ASCII or another Latin capital. -/
def isLatinCapital (n : Nat) : Bool :=
  (Nat.ble 0x41 n && Nat.ble n 0x5A) || (isLatin n && (bits wideCapitals).testBit n)

def holdsCapitals (ss : List Span) : Bool :=
  bits wideCapitals &&& bits (ss.flatMap fun s => if isLatin s.first then s.characters else []) == bits wideCapitals

/-- Whether no Latin capital takes the place of a character. -/
def sinks (_ : Nat) (ns : List Nat) : Bool := ns.all (!isLatinCapital ·)

/-- Whether no Latin capital takes the place of another character. -/
def keepsSmall (n : Nat) (ns : List Nat) : Bool := isLatinCapital n || ns.all (!isLatinCapital ·)

/-! ## Tables -/

theorem domainReplacements_checked :
    (Table.isAscending 0 domainReplacements.toList && holdsCapitals domainReplacements.toList &&
      Table.all sinks domainReplacements.toList) = true := by
  apply Table.of_rows (p := fun ss => Table.isAscending 0 ss && holdsCapitals ss && Table.all sinks ss)
  · dsimp only
    repeat (apply List.Forall₂.cons; exact String.toList_ofList)
    exact .nil
  · decide +kernel

/-- Two characters are composed to one that does not stand in ASCII. -/
theorem compositions_checked :
    ((compositions.toList.all fun s => s.image.length == 2 && Nat.ble 0x80 s.first) &&
      Table.all keepsSmall compositions.toList) = true := by
  apply Table.of_rows (p := fun ss => (ss.all fun s => s.image.length == 2 && Nat.ble 0x80 s.first) &&
    Table.all keepsSmall ss)
  · dsimp only
    repeat (apply List.Forall₂.cons; exact String.toList_ofList)
    exact .nil
  · decide +kernel

theorem decompositions_checked : Table.all keepsSmall decompositions.toList = true := by
  apply Table.of_rows
  · dsimp only
    repeat (apply List.Forall₂.cons; exact String.toList_ofList)
    exact .nil
  · decide +kernel

/-! ## Replacement -/

theorem isLatinCapital_charOfNat {n : Nat} (h : isLatinCapital n = false) :
    isLatinCapital (Char.ofNat n).toNat = false := by
  by_cases hvalid : n.isValidChar
  · rwa [toNat_charOfNat hvalid]
  · rw [Char.ofNat, dif_neg hvalid]
    rfl

/-- A text without Latin capitals. -/
def Small (t : Text) : Prop := ∀ c ∈ t, isLatinCapital c.toNat = false

theorem small_of_codes {ns : List Nat} (h : ns.all (!isLatinCapital ·) = true) : Small (ns.map Char.ofNat) := by
  intro c hc
  obtain ⟨n, hn, rfl⟩ := List.mem_map.1 hc
  exact isLatinCapital_charOfNat (by simpa using List.all_eq_true.1 h n hn)

theorem small_flatMap {f : Char → Text} (h : ∀ c, isLatinCapital c.toNat = false → Small (f c)) {t : Text}
    (ht : Small t) : Small (t.flatMap f) := by
  intro d hd
  obtain ⟨c, hc, hmem⟩ := List.mem_flatMap.1 hd
  exact h c (ht c hc) d hmem

theorem small_of_image?_domainReplacements {c : Char} {u : Text} (h : domainReplacements.image? c = some u) :
    Small u := by
  have hchecked := domainReplacements_checked
  simp only [Bool.and_eq_true] at hchecked
  obtain ⟨ns, rfl, hsinks⟩ := Table.exists_of_image? hchecked.2 h
  exact small_of_codes hsinks

theorem exists_image?_domainReplacements {c : Char} (h : isLatinCapital c.toNat = true) (hwide : ¬c.toNat < 0x80) :
    ∃ u, domainReplacements.image? c = some u := by
  have hchecked := domainReplacements_checked
  simp only [Bool.and_eq_true] at hchecked
  have hheld := hchecked.1.2
  rw [holdsCapitals, beq_iff_eq] at hheld
  simp only [isLatinCapital, Bool.or_eq_true, Bool.and_eq_true, Nat.ble_eq, testBit_bits] at h
  have hcapital : c.toNat ∈ wideCapitals := (h.resolve_left (by omega)).2
  obtain ⟨s, hs, hn⟩ := List.mem_flatMap.1 (mem_of_bits hheld hcapital)
  have hholds : s.holds c.toNat = true := by
    split at hn
    · exact Span.holds_of_mem hn
    · cases hn
  exact ⟨_, congrArg (Option.map _) (Table.find?_of_mem hchecked.1.1 (Array.mem_toList_iff.1 hs) hholds)⟩

/-! ## Taking apart -/

theorem small_of_keepsSmall {t : Table} (hall : Table.all keepsSmall t.toList = true) {c : Char}
    (h : isLatinCapital c.toNat = false) {u : Text} (hu : t.image? c = some u) : Small u := by
  obtain ⟨ns, rfl, hkeeps⟩ := Table.exists_of_image? hall hu
  rw [keepsSmall, h, Bool.false_or] at hkeeps
  exact small_of_codes hkeeps

/-- The parts of a syllable stand far behind the first block of Latin letters and before the next one. -/
theorem small_hangulParts {n : Nat} {u : Text} (h : Hangul.parts? n = some u) : Small u := by
  have hbetween : ∀ m, 0x1100 ≤ m → m < 0x1E00 → isLatinCapital (Char.ofNat m).toNat = false := by
    intro m hle hlt
    apply isLatinCapital_charOfNat
    rw [Bool.eq_false_iff]
    intro hcapital
    simp only [isLatinCapital, isLatin, Bool.or_eq_true, Bool.and_eq_true, Nat.ble_eq, Nat.blt_eq] at hcapital
    omega
  unfold Hangul.parts? at h
  split at h
  · rename_i hsyllable
    simp only [Bool.and_eq_true, decide_eq_true_eq] at hsyllable
    obtain rfl := Option.some.inj h
    have hpair : Small [Char.ofNat (0x1100 + (n - 0xAC00) / 588), Char.ofNat (0x1161 + (n - 0xAC00) % 588 / 28)] := by
      intro c hc
      rcases List.mem_cons.1 hc with rfl | hc
      · exact hbetween _ (by omega) (by omega)
      · rw [List.mem_singleton.1 hc]
        exact hbetween _ (by omega) (by omega)
    split
    · exact hpair
    · intro c hc
      rcases List.mem_append.1 hc with hc | hc
      · exact hpair c hc
      · rw [List.mem_singleton.1 hc]
        exact hbetween _ (by omega) (by omega)
  · cases h

theorem small_parts {c : Char} (h : isLatinCapital c.toNat = false) : Small (parts c) := by
  have hcompositions := compositions_checked
  rw [Bool.and_eq_true] at hcompositions
  unfold parts
  rw [Option.orElse_eq_or, Option.orElse_eq_or]
  cases hangul : Hangul.parts? c.toNat with
  | some u =>
    rw [Option.some_or, Option.getD_some]
    exact small_hangulParts hangul
  | none =>
    rw [Option.none_or]
    cases hcomposition : compositions.image? c with
    | some u =>
      rw [Option.some_or, Option.getD_some]
      exact small_of_keepsSmall hcompositions.2 h hcomposition
    | none =>
      rw [Option.none_or]
      cases hdecomposition : decompositions.image? c with
      | some u =>
        rw [Option.getD_some]
        exact small_of_keepsSmall decompositions_checked h hdecomposition
      | none =>
        intro d hd
        rwa [List.mem_singleton.1 hd]

theorem small_decompose {t : Text} (h : Small t) : Small (decompose t) :=
  small_flatMap (fun _ => small_parts) (small_flatMap (fun _ => small_parts) (small_flatMap (fun _ => small_parts) h))

theorem placeMark_perm (c : Char) (t : Text) : (placeMark c t).Perm (c :: t) := by
  induction t with
  | nil => exact .refl _
  | cons d r ih =>
    rw [placeMark]
    split
    · exact (ih.cons d).trans (.swap c d r)
    · exact .refl _

theorem orderMarks_perm (t : Text) : (orderMarks t).Perm t := by
  induction t with
  | nil => exact .refl _
  | cons c r ih => exact (placeMark_perm c (orderMarks r)).trans (ih.cons c)

/-! ## Putting together -/

def IsCapital (c : Char) : Prop := 'A' ≤ c ∧ c ≤ 'Z'

theorem isCapital_iff {c : Char} : IsCapital c ↔ 0x41 ≤ c.toNat ∧ c.toNat ≤ 0x5A := Iff.rfl

theorem isLatinCapital_of_isCapital {c : Char} (h : IsCapital c) : isLatinCapital c.toNat = true := by
  simp only [isLatinCapital, Bool.or_eq_true, Bool.and_eq_true, Nat.ble_eq]
  exact .inl (isCapital_iff.1 h)

theorem not_isCapital_charOfNat {n : Nat} (h : 0x80 ≤ n) : ¬IsCapital (Char.ofNat n) := by
  rw [isCapital_iff]
  by_cases hvalid : n.isValidChar
  · rw [toNat_charOfNat hvalid]
    omega
  · rw [Char.ofNat, dif_neg hvalid]
    decide

theorem not_isCapital_hangulJoin? {a b : Nat} {c : Char} (h : Hangul.join? a b = some c) : ¬IsCapital c := by
  unfold Hangul.join? at h
  split at h
  · obtain rfl := Option.some.inj h
    exact not_isCapital_charOfNat (by omega)
  · split at h
    · rename_i hsyllable
      simp only [Bool.and_eq_true, decide_eq_true_eq] at hsyllable
      obtain rfl := Option.some.inj h
      exact not_isCapital_charOfNat (by omega)
    · cases h

/-- The item of the pairs that belongs to a composition. -/
def pairOf (s : Span) : Span :=
  match s.image with
  | [a, b] => ⟨pairKey a b, pairKey a b, 1, [s.first]⟩
  | _ => s

theorem exists_composition_of_mem_pairs {item : Span} (h : item ∈ pairs) :
    ∃ s ∈ compositions.toList, item = pairOf s := by
  have hmem := List.mem_mergeSort.1 (List.mem_toArray.1 h)
  obtain ⟨s, hs, rfl⟩ := List.mem_map.1 hmem
  exact ⟨s, hs, rfl⟩

theorem not_isCapital_join? {a b c : Char} (h : join? a b = some c) : ¬IsCapital c := by
  have hchecked := compositions_checked
  rw [Bool.and_eq_true] at hchecked
  unfold join? at h
  rw [Option.orElse_eq_or] at h
  cases hangul : Hangul.join? a.toNat b.toNat with
  | some d =>
    rw [hangul, Option.some_or] at h
    cases h
    exact not_isCapital_hangulJoin? hangul
  | none =>
    rw [hangul, Option.none_or] at h
    obtain ⟨n, hn, rfl⟩ := Option.map_eq_some_iff.1 h
    obtain ⟨item, hitem, himage⟩ := Option.bind_eq_some_iff.1 hn
    obtain ⟨s, hs, rfl⟩ := exists_composition_of_mem_pairs (Table.mem_of_find? hitem).1
    have hchecked := List.all_eq_true.1 hchecked.1 s hs
    simp only [Bool.and_eq_true, beq_iff_eq, Nat.ble_eq] at hchecked
    obtain ⟨x, y, hxy⟩ := List.length_eq_two.1 hchecked.1
    rw [pairOf, hxy] at himage
    obtain rfl := Option.some.inj himage
    exact not_isCapital_charOfNat hchecked.2

/-- Every character of a composed text stands in the text, or two characters are joined to it. -/
theorem mem_composeAfter {s : Char} {marks t : Text} {c : Char} (hc : c ∈ composeAfter s marks t) :
    c = s ∨ c ∈ marks ∨ c ∈ t ∨ ∃ a b, join? a b = some c := by
  induction t generalizing s marks with
  | nil =>
    rcases List.mem_cons.1 hc with rfl | hc
    · exact .inl rfl
    · exact .inr (.inl (List.mem_reverse.1 hc))
  | cons d r ih =>
    unfold composeAfter at hc
    dsimp only at hc
    split at hc
    · rename_i u hu
      have hjoin : join? s d = some u := by
        split at hu
        · exact hu
        · cases hu
      obtain rfl | hc | hc | hrest := ih hc
      · exact .inr (.inr (.inr ⟨s, d, hjoin⟩))
      · exact .inr (.inl hc)
      · exact .inr (.inr (.inl (List.mem_cons_of_mem d hc)))
      · exact .inr (.inr (.inr hrest))
    · split at hc
      · rcases List.mem_cons.1 hc with rfl | hc
        · exact .inl rfl
        · rcases List.mem_append.1 hc with hc | hc
          · exact .inr (.inl (List.mem_reverse.1 hc))
          · obtain rfl | hc | hc | hrest := ih hc
            · exact .inr (.inr (.inl List.mem_cons_self))
            · cases hc
            · exact .inr (.inr (.inl (List.mem_cons_of_mem d hc)))
            · exact .inr (.inr (.inr hrest))
      · obtain rfl | hc | hc | hrest := ih hc
        · exact .inl rfl
        · rcases List.mem_cons.1 hc with rfl | hc
          · exact .inr (.inr (.inl List.mem_cons_self))
          · exact .inr (.inl hc)
        · exact .inr (.inr (.inl (List.mem_cons_of_mem d hc)))
        · exact .inr (.inr (.inr hrest))

theorem mem_compose {t : Text} {c : Char} (hc : c ∈ compose t) : c ∈ t ∨ ∃ a b, join? a b = some c := by
  induction t with
  | nil => cases hc
  | cons d r ih =>
    rw [compose] at hc
    split at hc
    · obtain rfl | hc | hc | hjoin := mem_composeAfter hc
      · exact .inl List.mem_cons_self
      · cases hc
      · exact .inl (List.mem_cons_of_mem d hc)
      · exact .inr hjoin
    · rcases List.mem_cons.1 hc with rfl | hc
      · exact .inl List.mem_cons_self
      · exact (ih hc).imp_left (List.mem_cons_of_mem d)

theorem not_isCapital_of_mem_composedForm {t : Text} (h : Small t) {c : Char} (hc : c ∈ composedForm t) :
    ¬IsCapital c := by
  obtain hmem | ⟨a, b, hjoin⟩ := mem_compose hc
  · intro hcapital
    have hsmall := small_decompose h c ((orderMarks_perm _).subset hmem)
    rw [isLatinCapital_of_isCapital hcapital] at hsmall
    cases hsmall
  · exact not_isCapital_join? hjoin

end Unicode

/-! ## Domain names -/

namespace Domain

open Unicode (IsCapital Small)

theorem small_of_replace? {c : Char} {u : Text} (h : replace? c = some u) : Small u := by
  unfold replace? at h
  split at h
  · rename_i hascii
    obtain rfl := Option.some.inj h
    intro d hd
    rw [List.mem_singleton.1 hd]
    exact Text.forall_ascii (P := fun c => Unicode.isLatinCapital c.toLower.toNat = false) (by decide)
      (of_decide_eq_true hascii)
  · rename_i hwide
    split at h
    · cases h
    · cases himage : Unicode.domainReplacements.image? c with
      | some u' =>
        rw [himage] at h
        obtain rfl := Option.some.inj h
        exact Unicode.small_of_image?_domainReplacements himage
      | none =>
        rw [himage] at h
        obtain rfl := Option.some.inj h
        intro d hd
        obtain rfl := List.mem_singleton.1 hd
        by_contra hcapital
        obtain ⟨u', hu'⟩ := Unicode.exists_image?_domainReplacements (by simpa using hcapital)
          (by simpa [Text.isAscii] using hwide)
        rw [himage] at hu'
        cases hu'

/-- A name in its canonical form has no capital of ASCII. -/
theorem not_isCapital_of_normalize? {name t : Text} (h : normalize? name = some t) {c : Char} (hc : c ∈ t) :
    ¬IsCapital c := by
  obtain ⟨pieces, hpieces, rfl⟩ := Option.map_eq_some_iff.1 h
  refine Unicode.not_isCapital_of_mem_composedForm (fun d hd => ?_) hc
  obtain ⟨piece, hpiece, hmem⟩ := List.mem_flatten.1 hd
  obtain ⟨e, -, he⟩ := exists_of_mem_mapM hpieces hpiece
  exact small_of_replace? he d hmem

theorem not_isCapital_of_isSign {c : Char} (h : Punycode.isSign c = true) : ¬IsCapital c :=
  Text.forall_ascii (P := fun c => Punycode.isSign c = true → ¬(0x41 ≤ c.toNat ∧ c.toNat ≤ 0x5A)) (by decide)
    (of_decide_eq_true (Punycode.isAscii_of_isSign h)) h

theorem not_isCapital_of_toAscii? {name t : Text} (h : toAscii? name = some t) {c : Char} (hc : c ∈ t) :
    ¬IsCapital c := by
  obtain ⟨-, -, horigin⟩ := of_mem_toAscii? h hc
  cases horigin with
  | plain hlower => exact Text.not_capital_of_mem_lower hlower
  | normal ht hmem => exact not_isCapital_of_normalize? ht hmem
  | sign hsign => exact not_isCapital_of_isSign hsign
  | point hpoint =>
    rw [hpoint, Unicode.isCapital_iff]
    decide

end Domain

theorem isSmall_of_not_isCapital {c : Char} (hascii : Text.isAscii c = true) (h : ¬Unicode.IsCapital c) :
    isSmall c = true :=
  Text.forall_ascii (P := fun c => ¬(0x41 ≤ c.toNat ∧ c.toNat ≤ 0x5A) → isSmall c = true) (by decide)
    (of_decide_eq_true hascii) h

/-- A host consists of small characters. -/
theorem Host.isSmall_of_read {t host : Text} (h : read t = .ok host) {c : Char} (hc : c ∈ host) : isSmall c = true := by
  obtain ⟨-, haddress | ⟨name, hname⟩⟩ := of_read h
  · have hall : ∀ d ∈ "0123456789abcdef.:[]".toList, isSmall d = true := by decide
    exact hall c (List.contains_iff_mem.1 (haddress c hc))
  · exact isSmall_of_not_isCapital (Domain.of_mem_toAscii? hname hc).1 (Domain.not_isCapital_of_toAscii? hname hc)

end JobPosting
