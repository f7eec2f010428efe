import JobPosting.Proofs.Fragments

/-!
# Visible characters

Whatever stands in the text that a URL is read from, its parts are written in the ASCII characters that show something:
what is not one of them is percent encoded, or becomes a digit of an address or of a label in Punycode, or makes the
text no URL.

* `Text.Visible` : a text of such characters only.
* `Punycode.mem_encode`, `Punycode.ascii_of_decode?` : what Punycode is written in.
* `Domain.of_mem_toAscii?` : where the characters of a domain name in ASCII come from.
* `Host.visible_of_read`, `Path.visible_read` : hosts and segments are visible.
* `Url.visible_of_read` : so is every URL of the web.
-/

namespace JobPosting

namespace Text

/-- An ASCII character that shows something. -/
def isVisible (c : Char) : Bool := 0x20 < c.toNat && c.toNat < 0x7F

/-- A text of such characters only. -/
def Visible (t : Text) : Prop := ∀ c ∈ t, isVisible c = true

instance (t : Text) : Decidable (Visible t) := inferInstanceAs (Decidable (∀ c ∈ t, isVisible c = true))

theorem isBlank_eq_false_of_isVisible {c : Char} (h : isVisible c = true) : JobPosting.isBlank c = false := by
  simp only [isVisible, Bool.and_eq_true, decide_eq_true_eq] at h
  simp only [JobPosting.isBlank, Bool.or_eq_false_iff, Bool.and_eq_false_iff, decide_eq_false_iff_not]
  omega

theorem isVisible_of_isDigit {c : Char} (h : isDigit c = true) : isVisible c = true := by
  simp only [isDigit, Bool.and_eq_true, decide_eq_true_eq, Char.le_def, UInt32.le_iff_toNat_le] at h
  have hbounds : 0x30 ≤ c.toNat ∧ c.toNat ≤ 0x39 := h
  simp only [isVisible, Bool.and_eq_true, decide_eq_true_eq]
  omega

variable {s t : Text}

theorem visible_nil : Visible [] := fun _ hc => absurd hc List.not_mem_nil

theorem visible_of_ne_nil (h : t ≠ [] → Visible t) : Visible t := by
  by_cases ht : t = []
  · rw [ht]
    exact visible_nil
  · exact h ht

theorem Visible.append (hs : Visible s) (ht : Visible t) : Visible (s ++ t) :=
  fun c hc => (List.mem_append.1 hc).elim (hs c) (ht c)

theorem Visible.cons {c : Char} (hc : isVisible c = true) (ht : Visible t) : Visible (c :: t) := by
  intro d hd
  rcases List.mem_cons.1 hd with rfl | hd
  · exact hc
  · exact ht d hd

theorem visible_flatMap {α : Type} {f : α → Text} {l : List α} (h : ∀ a ∈ l, Visible (f a)) : Visible (l.flatMap f) := by
  intro c hc
  obtain ⟨a, ha, hmem⟩ := List.mem_flatMap.1 hc
  exact h a ha c hmem

theorem mem_join {sep : Text} {ps : List Text} {c : Char} (hc : c ∈ join sep ps) : c ∈ sep ∨ ∃ p ∈ ps, c ∈ p := by
  induction ps with
  | nil => cases hc
  | cons p ps ih =>
    cases ps with
    | nil =>
      have hjoin : join sep [p] = p := by simp [join, List.intercalate, List.intersperse]
      rw [hjoin] at hc
      exact .inr ⟨p, List.mem_cons_self, hc⟩
    | cons q qs =>
      have hjoin : join sep (p :: q :: qs) = p ++ (sep ++ join sep (q :: qs)) := by
        simp [join, List.intercalate, List.intersperse]
      rw [hjoin] at hc
      rcases List.mem_append.1 hc with hc | hc
      · exact .inr ⟨p, List.mem_cons_self, hc⟩
      · rcases List.mem_append.1 hc with hc | hc
        · exact .inl hc
        · obtain hsep | ⟨r, hr, hmem⟩ := ih hc
          · exact .inl hsep
          · exact .inr ⟨r, List.mem_cons_of_mem p hr, hmem⟩

theorem mem_of_mem_split {sep : Char} {p : Text} (hp : p ∈ split sep t) {c : Char} (hc : c ∈ p) : c ∈ t := by
  induction t generalizing p with
  | nil =>
    rw [List.mem_singleton.1 hp] at hc
    cases hc
  | cons d r ih =>
    by_cases hd : d = sep
    · rw [split, if_pos hd] at hp
      rcases List.mem_cons.1 hp with rfl | hp
      · cases hc
      · exact List.mem_cons_of_mem d (ih hp hc)
    · obtain ⟨q, qs, hr, hdr⟩ := split_cons_ne hd r
      rw [hdr] at hp
      rcases List.mem_cons.1 hp with rfl | hp
      · rcases List.mem_cons.1 hc with rfl | hc
        · exact List.mem_cons_self
        · exact List.mem_cons_of_mem d (ih (hr ▸ List.mem_cons_self) hc)
      · exact List.mem_cons_of_mem d (ih (hr ▸ List.mem_cons_of_mem q hp) hc)

theorem not_mem_of_mem_split {sep : Char} {p : Text} (hp : p ∈ split sep t) : sep ∉ p := by
  induction t generalizing p with
  | nil =>
    rw [List.mem_singleton.1 hp]
    exact List.not_mem_nil
  | cons c r ih =>
    by_cases hc : c = sep
    · rw [split, if_pos hc] at hp
      rcases List.mem_cons.1 hp with rfl | hp
      · exact List.not_mem_nil
      · exact ih hp
    · obtain ⟨q, qs, hr, hcr⟩ := split_cons_ne hc r
      rw [hcr] at hp
      rcases List.mem_cons.1 hp with rfl | hp
      · have hq : sep ∉ q := ih (hr ▸ List.mem_cons_self)
        simp [hq, Ne.symm hc]
      · exact ih (hr ▸ List.mem_cons_of_mem q hp)

/-! ## Encoded characters -/

theorem visible_percentByte (b : UInt8) : Visible (percentByte b) := by
  have hdigit : ∀ v < 16, isVisible (hexCapital v) = true := by decide
  have hb : b.toNat < 256 := b.toNat_lt
  exact .cons (by decide) (.cons (hdigit _ (by omega)) (.cons (hdigit _ (by omega)) visible_nil))

/-- Encoding leaves visible characters only if the set has all others. -/
theorem visible_percentEncode {set : Char → Bool} (hset : ∀ c, set c = false → isVisible c = true) (t : Text) :
    Visible (percentEncode set t) := by
  apply visible_flatMap
  intro c _
  cases hc : set c with
  | true => exact visible_flatMap fun b _ => visible_percentByte b
  | false => exact .cons (hset c hc) visible_nil

theorem isVisible_of_encoded {c : Char} (hc : isControlOrWide c = false) (hblank : c ≠ ' ') : isVisible c = true := by
  have hne : c.toNat ≠ 0x20 := by
    intro h
    apply hblank
    rw [← Char.ofNat_toNat c, h]
  simp only [isControlOrWide, Bool.or_eq_false_iff, decide_eq_false_iff_not] at hc
  simp only [isVisible, Bool.and_eq_true, decide_eq_true_eq]
  omega

/-! ## Digits -/

theorem mem_toDigits {base : Nat} (h : 1 < base) (hle : base ≤ 16) {n : Nat} {c : Char}
    (hc : c ∈ Nat.toDigits base n) : ∃ d < 16, c = Nat.digitChar d := by
  induction n using Nat.strongRecOn with
  | ind n ih =>
    rw [Nat.toDigits_eq_if h] at hc
    split at hc
    · exact ⟨n, by omega, List.mem_singleton.1 hc⟩
    · have hmod : n % base < base := Nat.mod_lt n (by omega)
      have hdiv : n / base < n := Nat.div_lt_self (by omega) h
      rcases List.mem_append.1 hc with hc | hc
      · exact ih _ hdiv hc
      · exact ⟨n % base, by omega, List.mem_singleton.1 hc⟩

end Text

/-! ## Punycode -/

namespace Punycode

/-- A character that is added in Punycode: a small letter, a decimal digit or a hyphen. -/
def isSign (c : Char) : Bool := ('a' ≤ c && c ≤ 'z') || ('0' ≤ c && c ≤ '9') || c = '-'

theorem isSign_digit {v : Nat} (h : v < 36) : isSign (digit v) = true := by
  have hall : ∀ v < 36, isSign (digit v) = true := by decide
  exact hall v h

theorem isAscii_of_isSign {c : Char} (h : isSign c = true) : Text.isAscii c = true := by
  simp only [isSign, Bool.or_eq_true, Bool.and_eq_true, decide_eq_true_eq, Char.le_def, UInt32.le_iff_toNat_le] at h
  simp only [Text.isAscii, decide_eq_true_eq]
  rcases h with (⟨-, h⟩ | ⟨-, h⟩) | rfl
  · exact Nat.lt_of_le_of_lt h (by decide)
  · exact Nat.lt_of_le_of_lt h (by decide)
  · decide

theorem isSign_of_mem_digits {bias place n : Nat} {c : Char} (hc : c ∈ digits bias place n) : isSign c = true := by
  fun_induction digits bias place n with
  | case1 place n t ht =>
    rw [List.mem_singleton.1 hc]
    have hle : t ≤ 26 := threshold_le place bias
    exact isSign_digit (by omega)
  | case2 place n t ht ih =>
    rcases List.mem_cons.1 hc with rfl | hc
    · have hpos : 0 < t := threshold_pos place bias
      have hle : t ≤ 26 := threshold_le place bias
      have hmod : (n - t) % (36 - t) < 36 - t := Nat.mod_lt _ (by omega)
      exact isSign_digit (by omega)
    · exact ih hc

/-- What has been written consists of signs. -/
def Writer.Signs (w : Writer) : Prop := ∀ c ∈ w.out, isSign c = true

theorem Writer.signs_see (basic m : Nat) {w : Writer} (h : w.Signs) (c : Char) : (see basic m w c).Signs := by
  unfold see
  split
  · exact h
  · split
    · exact fun d hd => (List.mem_append.1 hd).elim (h d) isSign_of_mem_digits
    · exact h

theorem Writer.signs_writeAll {label : Text} {basic : Nat} {w : Writer} (h : w.Signs) (n : Nat) (ms : List Nat) :
    (writeAll label basic w n ms).Signs := by
  induction ms generalizing w n with
  | nil => exact h
  | cons m ms ih =>
    have hfold : ∀ (cs : Text) (v : Writer), v.Signs → (cs.foldl (see basic m) v).Signs := by
      intro cs
      induction cs with
      | nil => exact fun v hv => hv
      | cons c cs ihc => exact fun v hv => ihc _ (signs_see basic m hv c)
    unfold writeAll
    apply ih
    apply hfold
    exact h

/-- A label in Punycode consists of its ASCII characters and of signs. -/
theorem mem_encode {label : Text} {c : Char} (hc : c ∈ encode label) :
    (c ∈ label ∧ Text.isAscii c = true) ∨ isSign c = true := by
  have htail : ∀ basic ms, (Writer.writeAll label basic ⟨[], 0, 72, basic⟩ 0x80 ms).Signs :=
    fun basic ms => Writer.signs_writeAll (fun c hc => absurd hc List.not_mem_nil) 0x80 ms
  unfold encode at hc
  dsimp only at hc
  split at hc
  · exact .inr (htail _ _ c hc)
  · rcases List.mem_append.1 hc with hc | hc
    · exact .inl (List.mem_filter.1 hc)
    · rcases List.mem_cons.1 hc with rfl | hc
      · exact .inr (by decide)
      · exact .inr (htail _ _ c hc)

def Ascii (t : Text) : Prop := ∀ c ∈ t, Text.isAscii c = true

instance (t : Text) : Decidable (Ascii t) := inferInstanceAs (Decidable (∀ c ∈ t, Text.isAscii c = true))

theorem ascii_of_value? {c : Char} {v : Nat} (h : value? c = some v) : Text.isAscii c = true := by
  unfold value? at h
  dsimp only at h
  rw [Text.isAscii, decide_eq_true_eq]
  split at h
  · rename_i hr
    simp only [Bool.and_eq_true, decide_eq_true_eq] at hr
    omega
  · split at h
    · rename_i hr
      simp only [Bool.and_eq_true, decide_eq_true_eq] at hr
      omega
    · split at h
      · rename_i hr
        simp only [Bool.and_eq_true, decide_eq_true_eq] at hr
        omega
      · cases h

theorem Reader.ascii_of_foldlM {tail : Text} {r r' : Reader} (h : tail.foldlM step? r = some r') : Ascii tail := by
  induction tail generalizing r with
  | nil => exact fun c hc => absurd hc List.not_mem_nil
  | cons c tail ih =>
    rw [List.foldlM_cons] at h
    obtain ⟨next, hnext, hrest⟩ := Option.bind_eq_some_iff.1 h
    intro d hd
    rcases List.mem_cons.1 hd with rfl | hd
    · unfold step? at hnext
      split at hnext
      · cases hnext
      · rename_i v hv
        exact ascii_of_value? hv
    · exact ih hrest d hd

/-- The two parts of a text in Punycode make up the whole text, but for the hyphen between them. -/
theorem mem_cutBasic {t : Text} {c : Char} (hc : c ∈ t) : c ∈ (cutBasic t).1 ∨ c = '-' ∨ c ∈ (cutBasic t).2 := by
  let tail := (t.reverse.takeWhile (· ≠ '-')).reverse
  have hsplit : (t.reverse.dropWhile (· ≠ '-')).reverse ++ tail = t := by
    rw [← List.reverse_append, List.takeWhile_append_dropWhile, List.reverse_reverse]
  cases hrest : t.reverse.dropWhile (· ≠ '-') with
  | nil =>
    have hwhole : (t.reverse.takeWhile (· ≠ '-')).reverse = t := by
      rw [hrest, List.reverse_nil, List.nil_append] at hsplit
      exact hsplit
    have hcut : cutBasic t = ([], t) := by
      unfold cutBasic
      dsimp only
      rw [hwhole, if_neg (by omega)]
    rw [hcut]
    exact .inr (.inr hc)
  | cons d r =>
    have hd : d = '-' := by
      have hnot := List.head?_dropWhile_not (· ≠ '-') t.reverse
      rw [hrest] at hnot
      simpa using hnot
    rw [hrest, hd, List.reverse_cons, List.append_assoc, List.singleton_append] at hsplit
    have hlen : t.length = r.reverse.length + (tail.length + 1) := by
      rw [← hsplit, List.length_append, List.length_cons]
    unfold cutBasic
    dsimp only
    split
    · have htake : t.take (t.length - tail.length - 1) = r.reverse := by
        have hleft : (r.reverse ++ '-' :: tail).take r.reverse.length = r.reverse := List.take_left
        rw [hsplit] at hleft
        rw [show t.length - tail.length - 1 = r.reverse.length by omega, hleft]
      rw [← hsplit] at hc
      rcases List.mem_append.1 hc with hc | hc
      · left
        show c ∈ t.take (t.length - tail.length - 1)
        rw [htake]
        exact hc
      · exact .inr (List.mem_cons.1 hc)
    · exact .inr (.inr hc)

theorem ascii_of_decode? {t label : Text} (h : decode? t = some label) : Ascii t := by
  unfold decode? at h
  dsimp only at h
  split at h
  · cases h
  · rename_i hbasic
    split at h
    · rename_i r hr
      have htail := Reader.ascii_of_foldlM hr
      intro c hc
      obtain hc | rfl | hc := mem_cutBasic hc
      · simp only [Bool.not_eq_true, Bool.not_eq_false', List.all_eq_true] at hbasic
        exact hbasic c hc
      · decide
      · exact htail c hc
    · cases h

end Punycode

/-! ## Hosts -/

theorem exists_of_mem_mapM {α β : Type} {f : α → Option β} {l : List α} {bs : List β} (h : l.mapM f = some bs) {b : β}
    (hb : b ∈ bs) : ∃ a ∈ l, f a = some b := by
  induction l generalizing bs with
  | nil =>
    cases h
    cases hb
  | cons a l ih =>
    rw [List.mapM_cons] at h
    obtain ⟨first, hfirst, h⟩ := Option.bind_eq_some_iff.1 h
    obtain ⟨rest, hrest, h⟩ := Option.bind_eq_some_iff.1 h
    cases h
    rcases List.mem_cons.1 hb with rfl | hb
    · exact ⟨a, List.mem_cons_self, hfirst⟩
    · obtain ⟨a', ha', hf⟩ := ih hrest hb
      exact ⟨a', List.mem_cons_of_mem a ha', hf⟩

namespace Domain

open Punycode (Ascii)

/-- A label is written in ASCII: in characters of the label itself and in signs of Punycode. -/
theorem Label.of_mem_written {t : Text} {l : Label} (h : read? t = some l) {c : Char} (hc : c ∈ l.written) :
    Text.isAscii c = true ∧ (c ∈ t ∨ Punycode.isSign c = true) := by
  unfold read? at h
  split at h
  · rename_i code hcode
    split at h
    · rename_i shown hshown
      split at h
      · cases h
        have hdecode : ∃ label, Punycode.decode? code = some label := by
          unfold ofPunycode? at hshown
          split at hshown
          · cases hshown
          · split at hshown
            · cases hshown
            · rename_i label hlabel
              exact ⟨label, hlabel⟩
        obtain ⟨label, hlabel⟩ := hdecode
        have hmark : Ascii mark := by decide
        refine ⟨?_, .inl hc⟩
        rw [Text.stripPrefix?_eq_some_iff.1 hcode] at hc
        exact (List.mem_append.1 hc).elim (hmark c) (Punycode.ascii_of_decode? hlabel c)
      · cases h
    · cases h
  · split at h
    · cases h
    · split at h
      · rename_i hascii
        cases h
        exact ⟨List.all_eq_true.1 hascii c hc, .inl hc⟩
      · split at h
        · cases h
        · cases h
          have hmark : ∀ d ∈ mark, Punycode.isSign d = true := by decide
          rcases List.mem_append.1 hc with hc | hc
          · exact ⟨Punycode.isAscii_of_isSign (hmark c hc), .inr (hmark c hc)⟩
          · obtain ⟨hmem, hascii⟩ | hsign := Punycode.mem_encode hc
            · exact ⟨hascii, .inl hmem⟩
            · exact ⟨Punycode.isAscii_of_isSign hsign, .inr hsign⟩

theorem ascii_lower {t : Text} (h : Ascii t) : Ascii (Text.lower t) := by
  intro c hc
  obtain ⟨d, hd, rfl⟩ := List.mem_map.1 hc
  exact Text.forall_ascii (P := fun d => Text.isAscii d.toLower = true) (by decide) (of_decide_eq_true (h d hd))

/-- Where a character of a domain name in ASCII comes from. -/
inductive Origin (name : Text) (c : Char) : Prop where
  /-- The name in small letters. -/
  | plain (h : c ∈ Text.lower name)
  /-- The name in its canonical form. -/
  | normal {t : Text} (ht : normalize? name = some t) (hc : c ∈ t)
  /-- The signs of Punycode. -/
  | sign (h : Punycode.isSign c = true)
  /-- The points between labels. -/
  | point (h : c = '.')

theorem of_mem_toLabels? {name : Text} {labels : List Text} (h : toLabels? name = some labels) {l : Text}
    (hl : l ∈ labels) {c : Char} (hc : c ∈ l) : Text.isAscii c = true ∧ Origin name c := by
  unfold toLabels? at h
  split at h
  · cases h
  · rename_i t ht
    split at h
    · cases h
    · rename_i ls hls
      split at h
      · cases h
      · cases h
        obtain ⟨label, hlabel, rfl⟩ := List.mem_map.1 hl
        obtain ⟨piece, hpiece, hread⟩ := exists_of_mem_mapM hls hlabel
        obtain ⟨hascii, hmem | hsign⟩ := Label.of_mem_written hread hc
        · exact ⟨hascii, .normal ht (Text.mem_of_mem_split hpiece hmem)⟩
        · exact ⟨hascii, .sign hsign⟩

theorem of_mem_toAscii? {name t : Text} (h : toAscii? name = some t) {c : Char} (hc : c ∈ t) :
    Text.isAscii c = true ∧ isForbidden c = false ∧ Origin name c := by
  obtain ⟨hwritten, hforbidden⟩ := Option.filter_eq_some_iff.1 h
  simp only [Bool.not_eq_true', List.any_eq_false] at hforbidden
  have hallowed : isForbidden c = false := Bool.eq_false_iff.2 (hforbidden c hc)
  split at hwritten
  · rename_i hplain
    cases hwritten
    simp only [isPlain, Bool.and_eq_true, List.all_eq_true] at hplain
    exact ⟨ascii_lower hplain.1 c hc, hallowed, .plain hc⟩
  · obtain ⟨labels, hlabels, rfl⟩ := Option.map_eq_some_iff.1 hwritten
    obtain hc | ⟨l, hl, hc⟩ := Text.mem_join hc
    · obtain rfl := List.mem_singleton.1 hc
      exact ⟨by decide, hallowed, .point rfl⟩
    · obtain ⟨hascii, horigin⟩ := of_mem_toLabels? hlabels hl hc
      exact ⟨hascii, hallowed, horigin⟩

theorem isVisible_of_not_isForbidden {c : Char} (ha : Text.isAscii c = true) (hf : isForbidden c = false) :
    Text.isVisible c = true := by
  simp only [isForbidden, Bool.or_eq_false_iff, decide_eq_false_iff_not] at hf
  simp only [Text.isAscii, decide_eq_true_eq] at ha
  simp only [Text.isVisible, Bool.and_eq_true, decide_eq_true_eq]
  omega

/-- A domain name is visible: it is ASCII, whichever way it is brought into its usual form, and what is left in it of
ASCII shows something. -/
theorem visible_of_toAscii? {name t : Text} (h : toAscii? name = some t) : Text.Visible t := fun _ hc =>
  have hmem := of_mem_toAscii? h hc
  isVisible_of_not_isForbidden hmem.1 hmem.2.1

end Domain

namespace Host

def isAddressChar (c : Char) : Bool := "0123456789abcdef.:[]".toList.contains c

variable {c : Char}

theorem isVisible_of_isAddressChar (h : isAddressChar c = true) : Text.isVisible c = true := by
  have hall : ∀ c ∈ "0123456789abcdef.:[]".toList, Text.isVisible c = true := by decide
  exact hall c (List.contains_iff_mem.1 h)

theorem isAddressChar_of_mem_toDigits {base : Nat} (h : 1 < base) (hle : base ≤ 16) {n : Nat}
    (hc : c ∈ Nat.toDigits base n) : isAddressChar c = true := by
  have hdigit : ∀ d < 16, isAddressChar (Nat.digitChar d) = true := by decide
  obtain ⟨d, hd, rfl⟩ := Text.mem_toDigits h hle hc
  exact hdigit d hd

theorem isAddressChar_of_mem_ipv4 {n : Nat} (hc : c ∈ Ipv4.print n) : isAddressChar c = true := by
  obtain hc | ⟨p, hp, hc⟩ := Text.mem_join hc
  · rw [List.mem_singleton.1 hc]
    decide
  · obtain ⟨k, -, rfl⟩ := List.mem_map.1 hp
    exact isAddressChar_of_mem_toDigits (by decide) (by decide) hc

theorem isAddressChar_of_mem_printGroups {groups : List Nat} (hc : c ∈ Ipv6.printGroups groups) :
    isAddressChar c = true := by
  obtain hc | ⟨p, hp, hc⟩ := Text.mem_join hc
  · rw [List.mem_singleton.1 hc]
    decide
  · obtain ⟨g, -, rfl⟩ := List.mem_map.1 hp
    exact isAddressChar_of_mem_toDigits (by decide) (by decide) hc

theorem isAddressChar_of_mem_ipv6 {groups : List Nat} (hc : c ∈ Ipv6.print groups) : isAddressChar c = true := by
  unfold Ipv6.print at hc
  dsimp only at hc
  split at hc
  · exact isAddressChar_of_mem_printGroups hc
  · have hgap : ∀ c ∈ "::".toList, isAddressChar c = true := by decide
    rcases List.mem_append.1 hc with hc | hc
    · exact (List.mem_append.1 hc).elim isAddressChar_of_mem_printGroups (hgap c)
    · exact isAddressChar_of_mem_printGroups hc

theorem ipv4_ne_nil (n : Nat) : Ipv4.print n ≠ [] := by
  simp [Ipv4.print, Text.join, List.intercalate, List.intersperse]

/-- A host is an address or a domain name, and not empty. -/
theorem of_read {t host : Text} (h : read t = .ok host) :
    host ≠ [] ∧ ((∀ c ∈ host, isAddressChar c = true) ∨ ∃ name, Domain.toAscii? name = some host) := by
  unfold read at h
  split at h
  · unfold readBracketed at h
    split at h
    · cases h
      refine ⟨List.cons_ne_nil _ _, .inl ?_⟩
      intro c hc
      rcases List.mem_cons.1 hc with rfl | hc
      · decide
      · rcases List.mem_append.1 hc with hc | hc
        · exact isAddressChar_of_mem_ipv6 hc
        · rw [List.mem_singleton.1 hc]
          decide
    · cases h
  · split at h
    · cases h
    · rename_i name hname
      split at h
      · cases h
      · rename_i hne
        split at h
        · split at h
          · cases h
            exact ⟨ipv4_ne_nil _, .inl fun c hc => isAddressChar_of_mem_ipv4 hc⟩
          · cases h
        · cases h
          exact ⟨hne, .inr ⟨_, hname⟩⟩

theorem visible_of_read {t host : Text} (h : read t = .ok host) : Text.Visible host := by
  obtain ⟨-, haddress | ⟨name, hname⟩⟩ := of_read h
  · exact fun c hc => isVisible_of_isAddressChar (haddress c hc)
  · exact Domain.visible_of_toAscii? hname

end Host

/-! ## Paths -/

namespace Path

section
variable {P : Text → Prop} {segments : List Text}

theorem forall_up (h : ∀ s ∈ segments, P s) : ∀ s ∈ up segments, P s := by
  intro s hs
  apply h
  unfold up at hs
  split at hs
  · split at hs
    · exact hs
    · exact List.dropLast_subset _ hs
  · cases hs

theorem forall_concat (h : ∀ s ∈ segments, P s) {t : Text} (ht : P t) : ∀ s ∈ segments ++ [t], P s := by
  intro s hs
  rcases List.mem_append.1 hs with hs | hs
  · exact h s hs
  · rw [List.mem_singleton.1 hs]
    exact ht

theorem forall_step (h : ∀ s ∈ segments, P s) {piece : Text} (hp : P (Text.percentEncode Url.pathSet piece)) :
    ∀ s ∈ step segments piece, P s := by
  unfold step
  split
  · exact forall_up h
  · split
    · exact h
    · exact forall_concat h hp

theorem forall_finish (hnil : P []) (h : ∀ s ∈ segments, P s) {piece : Text}
    (hp : P (Text.percentEncode Url.pathSet piece)) : ∀ s ∈ finish segments piece, P s := by
  unfold finish
  split
  · exact forall_concat (forall_up h) hnil
  · split
    · exact forall_concat h hnil
    · exact forall_concat h hp

theorem pieces_ne_nil (t : Text) : pieces t ≠ [] := Text.split_ne_nil _ _

/-- What holds of the empty segment and of every encoded piece holds of all segments of a path. -/
theorem forall_read (hnil : P []) {t : Text}
    (h : ∀ piece ∈ pieces (t.drop 1), P (Text.percentEncode Url.pathSet piece)) : ∀ s ∈ read t, P s := by
  have hfold : ∀ ps segments : List Text, (∀ p ∈ ps, P (Text.percentEncode Url.pathSet p)) →
      (∀ s ∈ segments, P s) → ∀ s ∈ ps.foldl step segments, P s := by
    intro ps
    induction ps with
    | nil => exact fun segments _ hs => hs
    | cons p ps ih =>
      exact fun segments hp hs =>
        ih _ (fun q hq => hp q (List.mem_cons_of_mem p hq)) (forall_step hs (hp p List.mem_cons_self))
  have hlast : (pieces (t.drop 1)).getLastD [] ∈ pieces (t.drop 1) := by
    rw [List.getLastD_eq_getLast?, List.getLast?_eq_some_getLast (pieces_ne_nil _)]
    exact List.getLast_mem _
  exact forall_finish hnil
    (hfold _ [] (fun p hp => h p (List.dropLast_subset _ hp)) fun s hs => absurd hs List.not_mem_nil) (h _ hlast)

end

theorem isVisible_of_pathSet {c : Char} (h : Url.pathSet c = false) : Text.isVisible c = true := by
  simp only [Url.pathSet, Url.fragmentSet, Bool.or_eq_false_iff, List.contains_cons, beq_eq_false_iff_ne, ne_eq] at h
  exact Text.isVisible_of_encoded h.1.1 h.1.2.1

theorem visible_read (t : Text) : ∀ s ∈ read t, Text.Visible s :=
  forall_read Text.visible_nil fun piece _ => Text.visible_percentEncode (fun _ => isVisible_of_pathSet) piece

end Path

/-! ## URLs -/

namespace Url

theorem of_readAuthority {t credentials host : Text} {portNumber : Option Nat}
    (h : readAuthority t = .ok (credentials, host, portNumber)) :
    (∃ name, credentials = encodeCredentials name) ∧ ∃ name, Host.read name = .ok host := by
  unfold readAuthority at h
  dsimp only at h
  by_cases hempty : (cutPort false (cutCredentials t).2).1 = []
  · rw [if_pos hempty] at h
    cases h
  · rw [if_neg hempty] at h
    obtain ⟨name, hhost, hrest⟩ := of_bind_eq_ok h
    obtain ⟨n, -, hparts⟩ := of_bind_eq_ok hrest
    cases hparts
    exact ⟨⟨_, rfl⟩, _, hhost⟩

theorem visible_encodeCredentials (t : Text) : Text.Visible (encodeCredentials t) := by
  have hset : ∀ c, userinfoSet c = false → Text.isVisible c = true := by
    intro c hc
    simp only [userinfoSet, Bool.or_eq_false_iff] at hc
    exact Path.isVisible_of_pathSet hc.1
  unfold encodeCredentials
  dsimp only
  split
  · exact Text.visible_nil
  · refine ((Text.visible_percentEncode hset _).append ?_).append (by decide)
    split
    · exact Text.visible_nil
    · exact .cons (by decide) (Text.visible_percentEncode hset _)

/-- All parts of a URL are visible. -/
structure Visible (w : Url) : Prop where
  credentials : Text.Visible w.credentials
  host : Text.Visible w.host
  path : ∀ s ∈ w.path, Text.Visible s
  query : ∀ q ∈ w.query, Text.Visible q
  fragment : ∀ f ∈ w.fragment, Text.Visible f

variable {w : Url}

theorem visible_of_readWeb {scheme : WebScheme} {front : Text} {query fragment : Option Text}
    (h : readWeb scheme front query fragment = .ok w) : w.Visible := by
  have hquery : ∀ c, querySet c = false → Text.isVisible c = true := by
    intro c hc
    simp only [querySet, Bool.or_eq_false_iff, List.contains_cons, beq_eq_false_iff_ne, ne_eq] at hc
    exact Text.isVisible_of_encoded hc.1 hc.2.1
  have hfragment : ∀ c, fragmentSet c = false → Text.isVisible c = true := by
    intro c hc
    simp only [fragmentSet, Bool.or_eq_false_iff, List.contains_cons, beq_eq_false_iff_ne, ne_eq] at hc
    exact Text.isVisible_of_encoded hc.1 hc.2.1
  obtain ⟨⟨portNumber, hauthority⟩, hpath, hq, hf⟩ := of_readWeb h
  obtain ⟨⟨name, hname⟩, hostName, hhost⟩ := of_readAuthority hauthority
  exact {
    credentials := by
      rw [hname]
      exact visible_encodeCredentials name
    host := Host.visible_of_read hhost
    path := by
      rw [hpath]
      exact Path.visible_read _
    query := by
      rw [hq]
      intro q hq
      obtain ⟨t, -, rfl⟩ := Option.map_eq_some_iff.1 hq
      exact Text.visible_percentEncode hquery t
    fragment := by
      rw [hf]
      intro f hf
      obtain ⟨t, -, rfl⟩ := Option.map_eq_some_iff.1 hf
      exact Text.visible_percentEncode hfragment t }

theorem exists_read_host {t : Text} (h : read t = .ok (some w)) : ∃ name, Host.read name = .ok w.host := by
  obtain ⟨scheme, rest, web, -, -, hw⟩ := exists_readWeb h
  obtain ⟨⟨portNumber, hauthority⟩, -⟩ := of_readWeb hw
  exact (of_readAuthority hauthority).2

/-- Every URL of the web is visible, whatever stands in the text that it is read from. -/
theorem visible_of_read {t : Text} (h : read t = .ok (some w)) : w.Visible := by
  obtain ⟨scheme, rest, web, -, -, hw⟩ := exists_readWeb h
  exact visible_of_readWeb hw

end Url

theorem HostName.withoutWww_append (host : Text) : withoutWww ("www.".toList ++ host) = host := by
  unfold withoutWww
  rw [Text.stripPrefix?_eq_some_iff.2 rfl]
  rfl

theorem HostName.withoutWww_eq_self {host : Text} (h : ¬"www.".toList <+: host) : withoutWww host = host := by
  unfold withoutWww
  cases hstrip : Text.stripPrefix? "www." host with
  | none => rfl
  | some rest => exact absurd ⟨rest, (Text.stripPrefix?_eq_some_iff.1 hstrip).symm⟩ h

theorem HostName.mem_of_mem_withoutWww {host : Text} {c : Char} (hc : c ∈ withoutWww host) : c ∈ host := by
  by_cases h : "www.".toList <+: host
  · obtain ⟨rest, rfl⟩ := h
    rw [withoutWww_append] at hc
    exact List.mem_append_right _ hc
  · rwa [withoutWww_eq_self h] at hc

namespace PostingUrl

theorem isVisible_toLower {c : Char} (h : Text.isVisible c = true) : Text.isVisible c.toLower = true := by
  have hascii : c.toNat < 0x80 := by
    simp only [Text.isVisible, Bool.and_eq_true, decide_eq_true_eq] at h
    omega
  exact Text.forall_ascii (P := fun c => Text.isVisible c = true → Text.isVisible c.toLower = true) (by decide) hascii h

theorem visible_of_read? {t : Text} {u : PostingUrl} (h : read? t = some u) :
    Text.Visible u.host ∧ ∀ s ∈ u.segments, Text.Visible s := by
  obtain ⟨w, hw, rfl⟩ := read?_eq_some_iff.1 h
  have hvisible := Url.visible_of_read hw
  have hlower : Text.Visible (Text.lower w.host) := by
    intro c hc
    obtain ⟨d, hd, rfl⟩ := List.mem_map.1 hc
    exact isVisible_toLower (hvisible.host d hd)
  constructor
  · exact fun c hc => hlower c (HostName.mem_of_mem_withoutWww hc)
  · exact fun s hs => hvisible.path s (List.mem_filter.1 hs).1

end PostingUrl

end JobPosting
