import JobPosting.Text.FormEncoded
import JobPosting.Url.Basic

/-!
# What encoding does to a text

Percent encoding takes the characters of a set out of a text and puts percent signs and hexadecimal digits in their
place. Decoding brings them back, also where percent signs of the text itself stand around them: a byte that is no
hexadecimal digit and no percent sign may be encoded or not, and is decoded to the same.

* `Text.not_mem_percentEncode` : what does not stand in an encoded text.
* `Text.Spelled` : bytes with some of them encoded, beside the same bytes with none of these encoded.
* `Text.Spelled.percentDecodeBytes_eq` : both are decoded to the same.
* `Text.formDecode_percentEncode` : so a name or a value of a query survives the encoding of the query.
-/

namespace JobPosting.Text

/-! ## Characters of encoded texts -/

/-- A character that encoded bytes are written with. -/
def isCode (c : Char) : Bool := "%0123456789ABCDEF".toList.contains c

theorem isCode_of_mem_percentByte {b : UInt8} {c : Char} (h : c ∈ percentByte b) : isCode c = true := by
  have hdigit : ∀ v < 16, isCode (hexCapital v) = true := by decide
  have hb : b.toNat < 256 := b.toNat_lt
  simp only [percentByte, List.mem_cons, List.not_mem_nil, or_false] at h
  rcases h with rfl | rfl | rfl
  · decide
  · exact hdigit _ (by omega)
  · exact hdigit _ (by omega)

variable {set : Char → Bool}

theorem percentEncode_append (set : Char → Bool) (s t : Text) :
    percentEncode set (s ++ t) = percentEncode set s ++ percentEncode set t := List.flatMap_append

theorem percentEncode_cons_of_not {c : Char} (h : set c = false) (t : Text) :
    percentEncode set (c :: t) = c :: percentEncode set t := by
  show (if set c then _ else [c]) ++ percentEncode set t = _
  rw [h]
  rfl

/-- A character that no byte is written with is no part of how another one is encoded. -/
theorem not_mem_encoded {c d : Char} (hcode : isCode c = false) (hne : d ≠ c) :
    c ∉ (if set d then (String.utf8EncodeChar d).flatMap percentByte else [d]) := by
  split
  · intro hmem
    obtain ⟨b, -, hb⟩ := List.mem_flatMap.1 hmem
    rw [isCode_of_mem_percentByte hb] at hcode
    cases hcode
  · simpa using hne.symm

/-- Such a character stands in an encoded text only if it is left as it is. -/
theorem not_mem_percentEncode {c : Char} (hcode : isCode c = false) {t : Text} (h : c ∈ t → set c = true) :
    c ∉ percentEncode set t := by
  intro hc
  obtain ⟨d, hd, hmem⟩ := List.mem_flatMap.1 hc
  by_cases hdc : d = c
  · subst hdc
    rw [if_pos (h hd)] at hmem
    obtain ⟨b, -, hb⟩ := List.mem_flatMap.1 hmem
    rw [isCode_of_mem_percentByte hb] at hcode
    cases hcode
  · exact not_mem_encoded hcode hdc hmem

/-! ## Bytes -/

theorem bytes_append (s t : Text) : bytes (s ++ t) = bytes s ++ bytes t := List.flatMap_append

theorem percentDecodeBytes_cons {b : UInt8} (h : b ≠ 0x25) (bs : List UInt8) :
    percentDecodeBytes (b :: bs) = b :: percentDecodeBytes bs := by
  rcases bs with _ | ⟨c, _ | ⟨d, bs⟩⟩
  · simp [percentDecodeBytes, h]
  · simp [percentDecodeBytes, h]
  · simp [percentDecodeBytes, h]

/-- The byte that the two hexadecimal digits at the beginning of some bytes stand for. -/
def hexPair? : List UInt8 → Option UInt8
  | h :: l :: _ => (hexByte? h).bind fun x => (hexByte? l).map fun y => UInt8.ofNat (x * 16 + y)
  | _ => none

theorem hexPair?_cons_cons (h l : UInt8) (bs : List UInt8) :
    hexPair? (h :: l :: bs) = (hexByte? h).bind fun x => (hexByte? l).map fun y => UInt8.ofNat (x * 16 + y) := rfl

theorem hexByte?_percent : hexByte? 0x25 = none := by decide

theorem hexPair?_of_first {b : UInt8} (h : hexByte? b = none) (bs : List UInt8) : hexPair? (b :: bs) = none := by
  cases bs with
  | nil => rfl
  | cons c bs =>
    rw [hexPair?_cons_cons, h]
    rfl

theorem hexPair?_of_second (b : UInt8) {c : UInt8} (h : hexByte? c = none) (bs : List UInt8) :
    hexPair? (b :: c :: bs) = none := by
  rw [hexPair?_cons_cons, h]
  cases hexByte? b <;> rfl

theorem percentDecodeBytes_percent (bs : List UInt8) :
    percentDecodeBytes (0x25 :: bs) =
      match hexPair? bs with
      | some v => v :: percentDecodeBytes (bs.drop 2)
      | none => 0x25 :: percentDecodeBytes bs := by
  rcases bs with _ | ⟨h, _ | ⟨l, bs⟩⟩
  · rfl
  · by_cases hh : h = 0x25
    · subst hh
      rfl
    · rw [percentDecodeBytes_cons hh]
      rfl
  · rw [percentDecodeBytes, if_pos rfl, hexPair?_cons_cons]
    cases hexByte? h with
    | none => rfl
    | some x => cases hexByte? l <;> rfl

theorem percentDecodeBytes_drop_two {bs : List UInt8} {v : UInt8} (h : hexPair? bs = some v) :
    percentDecodeBytes (bs.drop 2) = (percentDecodeBytes bs).drop 2 := by
  obtain ⟨x, y, r, rfl⟩ : ∃ x y r, bs = x :: y :: r := by
    rcases bs with _ | ⟨x, _ | ⟨y, r⟩⟩
    · cases h
    · cases h
    · exact ⟨x, y, r, rfl⟩
  have hx : x ≠ 0x25 := by
    rintro rfl
    rw [hexPair?_of_first hexByte?_percent] at h
    cases h
  have hy : y ≠ 0x25 := by
    rintro rfl
    rw [hexPair?_of_second x hexByte?_percent] at h
    cases h
  rw [percentDecodeBytes_cons hx, percentDecodeBytes_cons hy]
  rfl

theorem bytes_percentByte (b : UInt8) : ∃ h l, bytes (percentByte b) = [0x25, h, l] ∧
    hexByte? h = some (b.toNat / 16) ∧ hexByte? l = some (b.toNat % 16) := by
  have hdigit : ∀ v < 16, ∃ d, bytes [hexCapital v] = [d] ∧ hexByte? d = some v := by
    intro v hv
    exact ⟨UInt8.ofNat (hexCapital v).toNat, by revert v; decide, by revert v; decide⟩
  have hb : b.toNat < 256 := b.toNat_lt
  obtain ⟨h, hbytes, hvalue⟩ := hdigit (b.toNat / 16) (by omega)
  obtain ⟨l, lbytes, lvalue⟩ := hdigit (b.toNat % 16) (by omega)
  refine ⟨h, l, ?_, hvalue, lvalue⟩
  calc bytes (percentByte b)
      = bytes ['%'] ++ (bytes [hexCapital (b.toNat / 16)] ++ bytes [hexCapital (b.toNat % 16)]) := by
        rw [← bytes_append, ← bytes_append]
        rfl
    _ = [0x25, h, l] := by
        rw [hbytes, lbytes]
        rfl

theorem percentDecodeBytes_percentByte (b : UInt8) (bs : List UInt8) :
    percentDecodeBytes (bytes (percentByte b) ++ bs) = b :: percentDecodeBytes bs := by
  obtain ⟨h, l, hbytes, hh, hl⟩ := bytes_percentByte b
  have hvalue : UInt8.ofNat (b.toNat / 16 * 16 + b.toNat % 16) = b := by
    rw [Nat.div_add_mod', UInt8.ofNat_toNat]
  have hpair : hexPair? (h :: l :: bs) = some b := by
    rw [hexPair?_cons_cons, hh, hl]
    exact congrArg some hvalue
  rw [hbytes]
  show percentDecodeBytes (0x25 :: h :: l :: bs) = _
  rw [percentDecodeBytes_percent, hpair]
  rfl

/-! ## Encoded or not -/

/-- A byte that is no hexadecimal digit and no percent sign, so that nothing depends on whether it is encoded. -/
def isBare (b : UInt8) : Bool := (hexByte? b).isNone && b ≠ 0x25

/-- The first bytes are the second ones with some bare bytes encoded. -/
inductive Spelled : List UInt8 → List UInt8 → Prop where
  | nil : Spelled [] []
  | kept (b : UInt8) {s r : List UInt8} : Spelled s r → Spelled (b :: s) (b :: r)
  | coded {b : UInt8} {s r : List UInt8} : isBare b = true → Spelled s r → Spelled (bytes (percentByte b) ++ s) (b :: r)

namespace Spelled

variable {s r s' r' : List UInt8}

theorem append (h : Spelled s r) (h' : Spelled s' r') : Spelled (s ++ s') (r ++ r') := by
  induction h with
  | nil => exact h'
  | kept b _ ih => exact .kept b ih
  | coded hb _ ih =>
    rw [List.append_assoc]
    exact .coded hb ih

theorem refl (s : List UInt8) : Spelled s s := by
  induction s with
  | nil => exact .nil
  | cons b s ih => exact .kept b ih

/-- Both begin with the same two hexadecimal digits, or neither begins with two. -/
theorem hexPair?_eq (h : Spelled s r) : hexPair? s = hexPair? r := by
  have hbare : ∀ {b : UInt8}, isBare b = true → hexByte? b = none := by
    intro b hb
    simp only [isBare, Bool.and_eq_true, Option.isNone_iff_eq_none] at hb
    exact hb.1
  have hcoded : ∀ (b : UInt8) (s : List UInt8), ∃ s', bytes (percentByte b) ++ s = 0x25 :: s' := by
    intro b s
    obtain ⟨x, y, hbytes, -⟩ := bytes_percentByte b
    exact ⟨[x, y] ++ s, by rw [hbytes]; rfl⟩
  cases h with
  | nil => rfl
  | @coded b s r hb h =>
    obtain ⟨s', hs⟩ := hcoded b s
    rw [hs, hexPair?_of_first hexByte?_percent, hexPair?_of_first (hbare hb)]
  | @kept b s r h =>
    cases h with
    | nil => rfl
    | kept c h => rfl
    | @coded c s r hc h =>
      obtain ⟨s', hs⟩ := hcoded c s
      rw [hs, hexPair?_of_second b hexByte?_percent, hexPair?_of_second b (hbare hc)]

/-- Bytes are decoded to the same whether bare ones are encoded or not. -/
theorem percentDecodeBytes_eq (h : Spelled s r) : percentDecodeBytes s = percentDecodeBytes r := by
  induction h with
  | nil => rfl
  | @coded b s r hb _ ih =>
    simp only [isBare, Bool.and_eq_true, decide_eq_true_eq] at hb
    rw [percentDecodeBytes_percentByte, percentDecodeBytes_cons hb.2, ih]
  | @kept b s r h ih =>
    have hdigits : hexPair? s = hexPair? r := h.hexPair?_eq
    by_cases hpercent : b = 0x25
    · subst hpercent
      rw [percentDecodeBytes_percent, percentDecodeBytes_percent, hdigits]
      cases hpair : hexPair? r with
      | none => exact congrArg _ ih
      | some v =>
        dsimp only
        rw [percentDecodeBytes_drop_two (hdigits.trans hpair), percentDecodeBytes_drop_two hpair, ih]
    · rw [percentDecodeBytes_cons hpercent, percentDecodeBytes_cons hpercent, ih]

/-- Bare bytes may all be encoded. -/
theorem of_isBare {bs : List UInt8} (h : ∀ b ∈ bs, isBare b = true) : Spelled (bytes (bs.flatMap percentByte)) bs := by
  induction bs with
  | nil => exact .nil
  | cons b bs ih =>
    rw [List.flatMap_cons, bytes_append]
    exact .coded (h b List.mem_cons_self) (ih fun c hc => h c (List.mem_cons_of_mem b hc))

end Spelled

/-! ## Form values -/

theorem toNat_of_mem_utf8EncodeChar {c : Char} (hc : 0x80 ≤ c.toNat) {b : UInt8} (hb : b ∈ String.utf8EncodeChar c) :
    0x80 ≤ b.toNat := by
  have hwide : ¬c.val.toNat ≤ 127 := Nat.not_le.2 hc
  simp only [String.utf8EncodeChar, if_neg hwide] at hb
  split at hb
  · simp only [List.mem_cons, List.not_mem_nil, or_false] at hb
    rcases hb with rfl | rfl <;> simp only [UInt8.toNat_ofNat'] <;> omega
  · split at hb
    · simp only [List.mem_cons, List.not_mem_nil, or_false] at hb
      rcases hb with rfl | rfl | rfl <;> simp only [UInt8.toNat_ofNat'] <;> omega
    · simp only [List.mem_cons, List.not_mem_nil, or_false] at hb
      rcases hb with rfl | rfl | rfl | rfl <;> simp only [UInt8.toNat_ofNat'] <;> omega

theorem isBare_of_le {b : UInt8} (h : 0x80 ≤ b.toNat) : isBare b = true := by
  have hall : ∀ n < 0x100, 0x80 ≤ n → isBare (UInt8.ofNat n) = true := by decide +kernel
  have hb := hall b.toNat b.toNat_lt h
  rwa [UInt8.ofNat_toNat] at hb

theorem isBare_of_querySet {c : Char} (h : Url.querySet c = true) : ∀ b ∈ String.utf8EncodeChar c, isBare b = true := by
  by_cases hc : 0x80 ≤ c.toNat
  · exact fun b hb => isBare_of_le (toNat_of_mem_utf8EncodeChar hc hb)
  · exact forall_ascii (P := fun c => Url.querySet c = true → ∀ b ∈ String.utf8EncodeChar c, isBare b = true)
      (by decide +kernel) (Nat.not_le.1 hc) h

/-- A name or a value of a query is decoded to the same after encoding. -/
theorem formDecode_percentEncode (t : Text) : formDecode (percentEncode Url.querySet t) = formDecode t := by
  let toBlank (c : Char) : Char := if c = '+' then ' ' else c
  have hcode : ∀ bs : List UInt8, (bs.flatMap percentByte).map toBlank = bs.flatMap percentByte := by
    intro bs
    have hsame : ∀ c ∈ bs.flatMap percentByte, toBlank c = id c := by
      refine fun c hc => if_neg ?_
      rintro rfl
      obtain ⟨b, -, hb⟩ := List.mem_flatMap.1 hc
      exact absurd (isCode_of_mem_percentByte hb) (by decide)
    rw [List.map_congr_left hsame, List.map_id]
  have hspelled : Spelled (bytes ((percentEncode Url.querySet t).map toBlank)) (bytes (t.map toBlank)) := by
    induction t with
    | nil => exact .nil
    | cons c t ih =>
      have hchar : Spelled (bytes ((percentEncode Url.querySet [c]).map toBlank)) (bytes [toBlank c]) := by
        cases hset : Url.querySet c with
        | false =>
          rw [percentEncode_cons_of_not hset]
          exact .refl _
        | true =>
          have hplus : toBlank c = c := by
            refine if_neg ?_
            rintro rfl
            cases hset
          have hbytes : percentEncode Url.querySet [c] = (String.utf8EncodeChar c).flatMap percentByte := by
            simp [percentEncode, hset]
          rw [hbytes, hcode, hplus]
          simpa [bytes] using Spelled.of_isBare (isBare_of_querySet hset)
      have happend := hchar.append ih
      rwa [← bytes_append, ← bytes_append, ← List.map_append, ← percentEncode_append] at happend
  unfold formDecode percentDecode
  rw [hspelled.percentDecodeBytes_eq]

end JobPosting.Text
