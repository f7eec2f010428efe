import JobPosting.Json.Token
import JobPosting.Record
import Mathlib.Data.List.Forall2

/-!
# What a JSON text says

A value can be read back from what is printed of it: its tokens are there, whatever blanks stand between them, and no
other value has the same ones. Numbers are left out, for a token does not tell which number it is.

* `Json.cutToken?_quote` : a text in quotes is read as that text.
* `Json.spelling` : the tokens of a value; `Json.spelling_append_inj` says that they tell the value and where it ends.
* `Json.Says` : a text is JSON for a value, and for no other one (`Json.Says.unique`).
* `Json.Spells` : a text has some tokens, whatever follows it.
* `Json.says_print`, `Json.says_printPretty` : what is printed of a value says that value.
* `Json.Same` : values that differ at most in the order of fields, as `Json.sortKeys_same` says of a sorted one.
* `Json.textFields` : named texts as fields; `Json.lookup_textFields` reads them back.
* `Record.entries` : what a record holds under each name; it holds no number, and no name twice
  (`Record.isPlain_answer`).
-/

namespace JobPosting

namespace Json

/-! ## Texts in quotes -/

/-- A character that stands for itself between quotes. -/
def IsBare (c : Char) : Prop := c ≠ '"' ∧ c ≠ '\\' ∧ 0x20 ≤ c.toNat

instance (c : Char) : Decidable (IsBare c) := inferInstanceAs (Decidable (_ ∧ _))

theorem isBare_hexDigit {v : Nat} (h : v < 16) : IsBare (hexDigit v) := by
  revert v
  decide

theorem unit?_controlCode {n : Nat} (h : n < 0x20) :
    unit? '0' '0' (hexDigit (n / 16)) (hexDigit (n % 16)) = some n := by
  revert n
  decide

theorem quoteChar_control {n : Nat} (h : n < 0x20) :
    quoteChar (Char.ofNat n) = controlCode (Char.ofNat n) ∨
    "bfnrt".toList.any fun e => quoteChar (Char.ofNat n) = ['\\', e] ∧ shortEscape? e = some (Char.ofNat n) := by
  revert n
  decide

/-- A character is written as itself, as a short escape, or by its code. -/
theorem quoteChar_cases (c : Char) :
    (quoteChar c = [c] ∧ IsBare c) ∨
    (∃ e, quoteChar c = ['\\', e] ∧ e ≠ 'u' ∧ shortEscape? e = some c) ∨
    (quoteChar c = controlCode c ∧ c.toNat < 0x20) := by
  by_cases hquote : c = '"'
  · subst hquote
    exact .inr (.inl ⟨'"', rfl, by decide, rfl⟩)
  by_cases hback : c = '\\'
  · subst hback
    exact .inr (.inl ⟨'\\', rfl, by decide, rfl⟩)
  by_cases hcode : 0x20 ≤ c.toNat
  · exact .inl ⟨by simp [quoteChar, hquote, hback, hcode], hquote, hback, hcode⟩
  · have hlt : c.toNat < 0x20 := by omega
    have hcontrol := quoteChar_control hlt
    rw [Char.ofNat_toNat] at hcontrol
    rcases hcontrol with hwritten | hshort
    · exact .inr (.inr ⟨hwritten, hlt⟩)
    · obtain ⟨e, he, hwritten⟩ := List.any_eq_true.1 hshort
      rw [decide_eq_true_eq] at hwritten
      refine .inr (.inl ⟨e, hwritten.1, ?_, hwritten.2⟩)
      rintro rfl
      exact absurd he (by decide)

theorem cutQuoted?_bare {c : Char} (h : IsBare c) (r : Text) :
    cutQuoted? (c :: r) = (cutQuoted? r).map fun (a, b) => (c :: a, b) := by
  obtain ⟨hquote, hback, hcode⟩ := h
  rw [cutQuoted?]
  · rw [if_neg (by omega)]
  · exact hquote
  · intro _ _ h
    exact absurd h hback

theorem cutQuoted?_quoteChar (c : Char) (r : Text) :
    cutQuoted? (quoteChar c ++ r) = (cutQuoted? r).map fun (a, b) => (quoteChar c ++ a, b) := by
  rcases quoteChar_cases c with ⟨h, hbare⟩ | ⟨e, h, -, -⟩ | ⟨h, hcode⟩
  · rw [h]
    exact cutQuoted?_bare hbare r
  · rw [h]
    rfl
  · rw [h]
    have hzero : IsBare '0' := by decide
    have hhigh : IsBare (hexDigit (c.toNat / 16)) := isBare_hexDigit (by omega)
    have hlow : IsBare (hexDigit (c.toNat % 16)) := isBare_hexDigit (by omega)
    simp only [controlCode, List.cons_append, List.nil_append, cutQuoted?, cutQuoted?_bare hzero, cutQuoted?_bare hhigh,
      cutQuoted?_bare hlow, Option.map_map]
    rfl

theorem escapesOk_bare {c : Char} (h : c ≠ '\\') (r : Text) : escapesOk (c :: r) = escapesOk r := by
  rw [escapesOk] <;> simp [h]

theorem escapesOk_short {e : Char} (h : e ≠ 'u') (r : Text) :
    escapesOk ('\\' :: e :: r) = ((shortEscape? e).isSome && escapesOk r) := by
  rw [escapesOk]
  simp [h]

theorem escapesOk_quoteChar (c : Char) (r : Text) : escapesOk (quoteChar c ++ r) = escapesOk r := by
  rcases quoteChar_cases c with ⟨h, hbare⟩ | ⟨e, h, he, hshort⟩ | ⟨h, hcode⟩
  · rw [h]
    exact escapesOk_bare hbare.2.1 r
  · rw [h, List.cons_append, List.singleton_append, escapesOk_short he, hshort]
    rfl
  · rw [h]
    simp only [controlCode, List.cons_append, List.nil_append, escapesOk, unit?_controlCode hcode]
    rfl

theorem unquoteAfter?_bare {c : Char} (h : c ≠ '\\') (r : Text) :
    unquoteAfter? none (c :: r) = (unquoteAfter? none r).map (c :: ·) := by
  rw [unquoteAfter?] <;> simp [h]

theorem unquoteAfter?_short {c e : Char} (he : e ≠ 'u') (h : shortEscape? e = some c) (r : Text) :
    unquoteAfter? none ('\\' :: e :: r) = (unquoteAfter? none r).map (c :: ·) := by
  rw [unquoteAfter?]
  · intro _ _ _ _ _ hu
    exact absurd hu he
  · exact h

theorem unquoteAfter?_code {n : Nat} {a b c d : Char} (h : unit? a b c d = some n) (hn : n < 0xD800) (r : Text) :
    unquoteAfter? none ('\\' :: 'u' :: a :: b :: c :: d :: r) = (unquoteAfter? none r).map (Char.ofNat n :: ·) := by
  have hfirst : isFirstHalf n = false := by
    simp only [isFirstHalf, Bool.and_eq_false_iff, decide_eq_false_iff_not]
    omega
  have hsecond : isSecondHalf n = false := by
    simp only [isSecondHalf, Bool.and_eq_false_iff, decide_eq_false_iff_not]
    omega
  rw [unquoteAfter?.eq_def]
  simp only [h, hfirst, hsecond, Bool.false_eq_true, if_false]

theorem unquoteAfter?_quoteChar (c : Char) (r : Text) :
    unquoteAfter? none (quoteChar c ++ r) = (unquoteAfter? none r).map (c :: ·) := by
  rcases quoteChar_cases c with ⟨h, hbare⟩ | ⟨e, h, he, hshort⟩ | ⟨h, hcode⟩
  · rw [h]
    exact unquoteAfter?_bare hbare.2.1 r
  · rw [h, List.cons_append, List.singleton_append, unquoteAfter?_short he hshort]
  · rw [h]
    have hunit := unquoteAfter?_code (unit?_controlCode hcode) (by omega) r
    rwa [Char.ofNat_toNat] at hunit

theorem cutQuoted?_quoted (t r : Text) :
    cutQuoted? (t.flatMap quoteChar ++ '"' :: r) = some (t.flatMap quoteChar, r) := by
  induction t with
  | nil => rfl
  | cons c t ih => rw [List.flatMap_cons, List.append_assoc, cutQuoted?_quoteChar, ih, Option.map_some]

theorem escapesOk_quoted (t : Text) : escapesOk (t.flatMap quoteChar) = true := by
  induction t with
  | nil => rfl
  | cons c t ih => rw [List.flatMap_cons, escapesOk_quoteChar, ih]

theorem unquote?_quoted (t : Text) : unquote? (t.flatMap quoteChar) = some t := by
  unfold unquote?
  induction t with
  | nil => rfl
  | cons c t ih => rw [List.flatMap_cons, unquoteAfter?_quoteChar, ih, Option.map_some]

/-- A text in quotes is read as that text, whatever follows it. -/
theorem cutToken?_quote (t r : Text) : cutToken? (quote t ++ r) = some (.text (some t), r) := by
  have hquote : quote t ++ r = '"' :: (t.flatMap quoteChar ++ '"' :: r) := by simp [quote]
  have hmark : marks.lookup '"' = none := rfl
  rw [hquote, cutToken?, hmark]
  dsimp only
  rw [if_pos rfl, cutQuoted?_quoted]
  dsimp only
  rw [if_pos (escapesOk_quoted t), unquote?_quoted]

/-! ## The tokens of a value -/

mutual

/-- Whether a value holds no number, and no object with two fields of one name. -/
def isPlain : Json → Bool
  | .number _ => false
  | .list items => arePlain items
  | .object fields => (fields.map Prod.fst).Nodup && havePlain fields
  | _ => true

def arePlain : List Json → Bool
  | [] => true
  | v :: vs => isPlain v && arePlain vs

def havePlain : List (Text × Json) → Bool
  | [] => true
  | (_, v) :: fs => isPlain v && havePlain fs

end

theorem arePlain_eq_all (vs : List Json) : arePlain vs = vs.all isPlain := by
  induction vs with
  | nil => rfl
  | cons v vs ih => rw [arePlain, ih, List.all_cons]

theorem havePlain_eq_all (fs : List (Text × Json)) : havePlain fs = fs.all fun f => isPlain f.2 := by
  induction fs with
  | nil => rfl
  | cons f fs ih => rw [havePlain, ih, List.all_cons]

mutual

/-- The tokens of a value. -/
def spelling : Json → List Token
  | .null => [.null]
  | .bool b => [.bool b]
  | .number _ => [.number true]
  | .text t => [.text (some t)]
  | .list items => .openList :: [.comma].intercalate (itemSpellings items) ++ [.closeList]
  | .object fields => .openObject :: [.comma].intercalate (fieldSpellings fields) ++ [.closeObject]

def itemSpellings : List Json → List (List Token)
  | [] => []
  | v :: vs => spelling v :: itemSpellings vs

def fieldSpellings : List (Text × Json) → List (List Token)
  | [] => []
  | (name, v) :: fs => (.text (some name) :: .colon :: spelling v) :: fieldSpellings fs

end

/-- A text is JSON for this value. -/
structure Says (t : Text) (v : Json) : Prop where
  plain : v.isPlain = true
  tokens : tokens t = v.spelling

/-! ### No other value has the same tokens -/

theorem intercalate_cons {α : Type} (c : α) (x : List α) (xs : List (List α)) :
    [c].intercalate (x :: xs) = x ++ xs.flatMap (c :: ·) := by
  induction xs generalizing x with
  | nil => simp [List.intercalate]
  | cons y xs ih =>
    have hy := ih y
    simp only [List.intercalate, List.intersperse_cons_cons, List.flatten_cons] at hy ⊢
    rw [hy]
    rfl

theorem spelling_append_ne_closeList (v : Json) (r s : List Token) : spelling v ++ r ≠ .closeList :: s := by
  cases v <;> simp [spelling]

mutual

/-- The tokens of a value tell the value and where it ends. -/
theorem spelling_append_inj {v w : Json} {r s : List Token} (hv : v.isPlain = true) (hw : w.isPlain = true)
    (h : spelling v ++ r = spelling w ++ s) : v = w ∧ r = s := by
  match v, w with
  | .number _, _ => cases hv
  | _, .number _ => cases hw
  | .list [], .list [] => simpa [spelling, itemSpellings] using h
  | .list (v :: vs), .list [] =>
    simp only [spelling, itemSpellings, intercalate_cons, List.cons_append, List.append_assoc] at h
    exact absurd (List.cons.inj h).2 (spelling_append_ne_closeList v _ _)
  | .list [], .list (w :: ws) =>
    simp only [spelling, itemSpellings, intercalate_cons, List.cons_append, List.append_assoc] at h
    exact absurd (List.cons.inj h).2.symm (spelling_append_ne_closeList w _ _)
  | .list (v :: vs), .list (w :: ws) =>
    simp only [spelling, itemSpellings, intercalate_cons, List.cons_append, List.append_assoc, List.cons.injEq,
      true_and] at h
    simp only [isPlain, arePlain, Bool.and_eq_true] at hv hw
    obtain ⟨rfl, hrest⟩ := spelling_append_inj hv.1 hw.1 h
    obtain ⟨rfl, hend⟩ := itemSpellings_inj hv.2 hw.2 hrest
    exact ⟨rfl, hend⟩
  | .object [], .object [] => simpa [spelling, fieldSpellings] using h
  | .object (f :: fs), .object [] => simp [spelling, fieldSpellings, intercalate_cons] at h
  | .object [], .object (g :: gs) => simp [spelling, fieldSpellings, intercalate_cons] at h
  | .object ((name, v) :: fs), .object ((name', w) :: gs) =>
    simp only [spelling, fieldSpellings, intercalate_cons, List.cons_append, List.append_assoc, List.cons.injEq,
      true_and, Token.text.injEq, Option.some.injEq] at h
    simp only [isPlain, havePlain, Bool.and_eq_true] at hv hw
    obtain ⟨rfl, h⟩ := h
    obtain ⟨rfl, hrest⟩ := spelling_append_inj hv.2.1 hw.2.1 h
    obtain ⟨rfl, hend⟩ := fieldSpellings_inj hv.2.2 hw.2.2 hrest
    exact ⟨rfl, hend⟩
  | .null, .null | .bool _, .bool _ | .text _, .text _ => simpa [spelling] using h
  | .null, .bool _ | .null, .text _ | .null, .list _ | .null, .object _ => simp [spelling] at h
  | .bool _, .null | .bool _, .text _ | .bool _, .list _ | .bool _, .object _ => simp [spelling] at h
  | .text _, .null | .text _, .bool _ | .text _, .list _ | .text _, .object _ => simp [spelling] at h
  | .list _, .null | .list _, .bool _ | .list _, .text _ | .list _, .object _ => simp [spelling] at h
  | .object _, .null | .object _, .bool _ | .object _, .text _ | .object _, .list _ => simp [spelling] at h

theorem itemSpellings_inj {vs ws : List Json} {r s : List Token} (hv : arePlain vs = true) (hw : arePlain ws = true)
    (h : (itemSpellings vs).flatMap (.comma :: ·) ++ ([.closeList] ++ r) =
      (itemSpellings ws).flatMap (.comma :: ·) ++ ([.closeList] ++ s)) : vs = ws ∧ r = s := by
  match vs, ws with
  | [], [] => simpa [itemSpellings] using h
  | [], w :: ws => simp [itemSpellings] at h
  | v :: vs, [] => simp [itemSpellings] at h
  | v :: vs, w :: ws =>
    simp only [itemSpellings, List.flatMap_cons, List.cons_append, List.append_assoc, List.cons.injEq, true_and] at h
    simp only [arePlain, Bool.and_eq_true] at hv hw
    obtain ⟨rfl, hrest⟩ := spelling_append_inj hv.1 hw.1 h
    obtain ⟨rfl, hend⟩ := itemSpellings_inj hv.2 hw.2 hrest
    exact ⟨rfl, hend⟩

theorem fieldSpellings_inj {fs gs : List (Text × Json)} {r s : List Token} (hv : havePlain fs = true)
    (hw : havePlain gs = true)
    (h : (fieldSpellings fs).flatMap (.comma :: ·) ++ ([.closeObject] ++ r) =
      (fieldSpellings gs).flatMap (.comma :: ·) ++ ([.closeObject] ++ s)) : fs = gs ∧ r = s := by
  match fs, gs with
  | [], [] => simpa [fieldSpellings] using h
  | [], g :: gs => simp [fieldSpellings] at h
  | f :: fs, [] => simp [fieldSpellings] at h
  | (name, v) :: fs, (name', w) :: gs =>
    simp only [fieldSpellings, List.flatMap_cons, List.cons_append, List.append_assoc, List.cons.injEq, true_and,
      Token.text.injEq, Option.some.injEq] at h
    simp only [havePlain, Bool.and_eq_true] at hv hw
    obtain ⟨rfl, h⟩ := h
    obtain ⟨rfl, hrest⟩ := spelling_append_inj hv.1 hw.1 h
    obtain ⟨rfl, hend⟩ := fieldSpellings_inj hv.2 hw.2 hrest
    exact ⟨rfl, hend⟩

end

/-- A text says at most one value. -/
theorem Says.unique {t : Text} {v w : Json} (hv : Says t v) (hw : Says t w) : v = w := by
  have h : spelling v ++ [] = spelling w ++ [] := by rw [List.append_nil, List.append_nil, ← hv.tokens, hw.tokens]
  exact (spelling_append_inj hv.plain hw.plain h).1

/-! ## Texts with their tokens -/

/-- A text has these tokens, whatever follows it. -/
structure Spells (t : Text) (ts : List Token) : Prop where
  length_le : ts.length ≤ t.length
  tokensFrom : ∀ fuel r, Json.tokensFrom (fuel + ts.length) (t ++ r) = ts ++ Json.tokensFrom fuel r

theorem tokensFrom_nil (fuel : Nat) : tokensFrom fuel [] = [] := by
  cases fuel <;> rfl

namespace Spells

theorem tokens {t : Text} {ts : List Token} (h : Spells t ts) : Json.tokens t = ts := by
  have hlength := h.length_le
  have hfrom := h.tokensFrom (t.length - ts.length) []
  rw [show t.length - ts.length + ts.length = t.length by omega, List.append_nil, tokensFrom_nil,
    List.append_nil] at hfrom
  exact hfrom

theorem append {t u : Text} {ts us : List Token} (ht : Spells t ts) (hu : Spells u us) :
    Spells (t ++ u) (ts ++ us) where
  length_le := by
    have htle := ht.length_le
    have hule := hu.length_le
    rw [List.length_append, List.length_append]
    omega
  tokensFrom fuel r := by
    rw [List.length_append, show fuel + (ts.length + us.length) = fuel + us.length + ts.length by omega,
      List.append_assoc, ht.tokensFrom, hu.tokensFrom, List.append_assoc]

theorem gap {t : Text} (h : ∀ c ∈ t, isGap c = true) : Spells t [] where
  length_le := Nat.zero_le _
  tokensFrom fuel r := by
    cases fuel with
    | zero => rfl
    | succ fuel =>
      show Json.tokensFrom (fuel + 1) (t ++ r) = Json.tokensFrom (fuel + 1) r
      rw [Json.tokensFrom, Json.tokensFrom, List.dropWhile_append_of_pos h]

theorem single {c : Char} {t : Text} {k : Token} (hc : isGap c = false)
    (h : ∀ r, cutToken? (c :: t ++ r) = some (k, r)) : Spells (c :: t) [k] where
  length_le := Nat.le_add_left 1 _
  tokensFrom fuel r := by
    rw [List.length_singleton, Json.tokensFrom, List.cons_append, List.dropWhile_cons_of_neg (by simp [hc])]
    dsimp only
    rw [← List.cons_append, h r]
    rfl

theorem mark {c : Char} {k : Token} (h : (c, k) ∈ marks) : Spells [c] [k] := by
  have hall : ∀ e ∈ marks, isGap e.1 = false ∧ marks.lookup e.1 = some e.2 := by decide
  obtain ⟨hgap, hlookup⟩ := hall _ h
  refine single hgap fun r => ?_
  rw [List.singleton_append, cutToken?, hlookup]

theorem quote (t : Text) : Spells (Json.quote t) [.text (some t)] := single rfl (cutToken?_quote t)

theorem null : Spells (print .null) [.null] := single rfl fun _ => rfl

theorem bool (b : Bool) : Spells (print (.bool b)) [.bool b] := by
  cases b with
  | true => exact single rfl fun _ => rfl
  | false => exact single rfl fun _ => rfl

/-! ### Items between brackets -/

theorem join {sep : Text} {items : List Text} {spelled : List (List Token)} (hsep : Spells sep [.comma])
    (h : List.Forall₂ Spells items spelled) : Spells (Text.join sep items) ([.comma].intercalate spelled) := by
  induction h with
  | nil => exact gap (fun c hc => nomatch hc)
  | cons hitem hitems ih =>
    cases hitems with
    | nil => simpa [Text.join, List.intercalate] using hitem
    | cons _ _ =>
      have hall := hitem.append (hsep.append ih)
      simpa [Text.join, List.intercalate, List.intersperse_cons_cons] using hall

variable {opening closing : Char} {o c : Token} {items : List Text} {spelled : List (List Token)}

theorem enclose {inner : Text} {ks : List Token} (ho : (opening, o) ∈ marks) (hc : (closing, c) ∈ marks)
    (h : Spells inner ks) : Spells (opening :: inner ++ [closing]) (o :: ks ++ [c]) := by
  have hall := (mark ho).append (h.append (mark hc))
  rwa [List.singleton_append, List.singleton_append, ← List.cons_append, ← List.cons_append] at hall

theorem isGap_newLine (depth : Nat) : ∀ c ∈ newLine depth, isGap c = true := by
  intro c hc
  rcases List.mem_cons.1 hc with rfl | hc
  · rfl
  · rw [List.eq_of_mem_replicate hc]
    rfl

theorem block (depth : Nat) (ho : (opening, o) ∈ marks) (hc : (closing, c) ∈ marks)
    (h : List.Forall₂ Spells items spelled) :
    Spells (Json.block opening closing depth items) (o :: [.comma].intercalate spelled ++ [c]) := by
  unfold Json.block
  split
  · rename_i hitems
    rw [hitems] at h
    cases h
    have hnone : Spells [] [] := gap fun c hc => nomatch hc
    exact enclose ho hc hnone
  · have hline : ∀ d, Spells (newLine d) [] := fun d => gap (isGap_newLine d)
    have hsep : Spells (',' :: newLine (depth + 1)) [.comma] :=
      (mark (show (',', .comma) ∈ marks by decide)).append (hline (depth + 1))
    have hall := enclose ho hc ((hline (depth + 1)).append ((join hsep h).append (hline depth)))
    simpa using hall

end Spells

/-! ## Printed values -/

theorem spells_field {name sep inner : Text} {ks : List Token} (hsep : Spells sep [.colon]) (h : Spells inner ks) :
    Spells (quote name ++ (sep ++ inner)) (.text (some name) :: .colon :: ks) :=
  (Spells.quote name).append (hsep.append h)

theorem spells_colon : Spells [':'] [.colon] := Spells.mark (by decide)

theorem spells_colonBlank : Spells [':', ' '] [.colon] := by
  have hblank : Spells [' '] [] := Spells.gap fun c hc => by rw [List.mem_singleton.1 hc]; rfl
  exact spells_colon.append hblank

mutual

theorem spells_print {v : Json} (h : v.isPlain = true) : Spells (print v) (spelling v) := by
  match v with
  | .null => exact Spells.null
  | .bool b => exact Spells.bool b
  | .number n => cases h
  | .text t => exact Spells.quote t
  | .list items =>
    rw [print, spelling]
    exact Spells.enclose (by decide) (by decide) (Spells.join (Spells.mark (by decide)) (spells_printItems h))
  | .object fields =>
    rw [isPlain, Bool.and_eq_true] at h
    rw [print, spelling]
    exact Spells.enclose (by decide) (by decide) (Spells.join (Spells.mark (by decide)) (spells_printFields h.2))

theorem spells_printItems {vs : List Json} (h : arePlain vs = true) :
    List.Forall₂ Spells (printItems vs) (itemSpellings vs) := by
  match vs with
  | [] => exact .nil
  | v :: vs =>
    rw [arePlain, Bool.and_eq_true] at h
    exact .cons (spells_print h.1) (spells_printItems h.2)

theorem spells_printFields {fs : List (Text × Json)} (h : havePlain fs = true) :
    List.Forall₂ Spells (printFields fs) (fieldSpellings fs) := by
  match fs with
  | [] => exact .nil
  | (name, v) :: fs =>
    rw [havePlain, Bool.and_eq_true] at h
    exact .cons (spells_field spells_colon (spells_print h.1)) (spells_printFields h.2)

end

mutual

theorem spells_printPretty (depth : Nat) {v : Json} (h : v.isPlain = true) :
    Spells (printPretty depth v) (spelling v) := by
  match v with
  | .null | .bool _ | .text _ | .number _ => exact spells_print h
  | .list items =>
    rw [printPretty, spelling]
    exact Spells.block depth (by decide) (by decide) (spells_prettyItems (depth + 1) h)
  | .object fields =>
    rw [isPlain, Bool.and_eq_true] at h
    rw [printPretty, spelling]
    exact Spells.block depth (by decide) (by decide) (spells_prettyFields (depth + 1) h.2)

theorem spells_prettyItems (depth : Nat) {vs : List Json} (h : arePlain vs = true) :
    List.Forall₂ Spells (prettyItems depth vs) (itemSpellings vs) := by
  match vs with
  | [] => exact .nil
  | v :: vs =>
    rw [arePlain, Bool.and_eq_true] at h
    exact .cons (spells_printPretty depth h.1) (spells_prettyItems depth h.2)

theorem spells_prettyFields (depth : Nat) {fs : List (Text × Json)} (h : havePlain fs = true) :
    List.Forall₂ Spells (prettyFields depth fs) (fieldSpellings fs) := by
  match fs with
  | [] => exact .nil
  | (name, v) :: fs =>
    rw [havePlain, Bool.and_eq_true] at h
    exact .cons (spells_field spells_colonBlank (spells_printPretty depth h.1)) (spells_prettyFields depth h.2)

end

/-- What is printed of a value says that value. -/
theorem says_print {v : Json} (h : v.isPlain = true) : Says (print v) v := ⟨h, (spells_print h).tokens⟩

/-- So does what is printed with one item a line, with blanks behind it or not. -/
theorem says_printPretty {v : Json} (h : v.isPlain = true) (gap : Text) (hgap : ∀ c ∈ gap, isGap c = true) :
    Says (printPretty 0 v ++ gap) v := by
  have hall := ((spells_printPretty 0 h).append (Spells.gap hgap)).tokens
  rw [List.append_nil] at hall
  exact ⟨h, hall⟩

/-! ## The order of fields -/

/-- Values that differ at most in the order of fields. -/
inductive Same : Json → Json → Prop where
  | refl (v : Json) : Same v v
  | list {vs ws : List Json} : List.Forall₂ Same vs ws → Same (.list vs) (.list ws)
  /-- The names are distinct, so that their order makes no difference. -/
  | object {fs gs hs : List (Text × Json)} : (hs.map Prod.fst).Nodup → fs.Perm gs →
      gs.map Prod.fst = hs.map Prod.fst → List.Forall₂ Same (gs.map Prod.snd) (hs.map Prod.snd) →
      Same (.object fs) (.object hs)

theorem map_fst_sortFields (fs : List (Text × Json)) : (sortFields fs).map Prod.fst = fs.map Prod.fst := by
  induction fs with
  | nil => rfl
  | cons f fs ih => rw [sortFields, List.map_cons, List.map_cons, ih]

mutual

theorem sortKeys_same {v : Json} (h : v.isPlain = true) : Same v.sortKeys v := by
  match v with
  | .null | .bool _ | .text _ | .number _ => exact .refl _
  | .list items =>
    rw [sortKeys]
    exact .list (sortItems_same h)
  | .object fields =>
    rw [isPlain, Bool.and_eq_true, decide_eq_true_eq] at h
    rw [sortKeys]
    exact .object h.1 (List.mergeSort_perm _ _) (map_fst_sortFields fields) (sortFields_same h.2)

theorem sortItems_same {vs : List Json} (h : arePlain vs = true) : List.Forall₂ Same (sortItems vs) vs := by
  match vs with
  | [] => exact .nil
  | v :: vs =>
    rw [arePlain, Bool.and_eq_true] at h
    exact .cons (sortKeys_same h.1) (sortItems_same h.2)

theorem sortFields_same {fs : List (Text × Json)} (h : havePlain fs = true) :
    List.Forall₂ Same ((sortFields fs).map Prod.snd) (fs.map Prod.snd) := by
  match fs with
  | [] => exact .nil
  | (name, v) :: fs =>
    rw [havePlain, Bool.and_eq_true] at h
    exact .cons (sortKeys_same h.1) (sortFields_same h.2)

end

mutual

theorem isPlain_sortKeys (v : Json) : v.sortKeys.isPlain = v.isPlain := by
  match v with
  | .null | .bool _ | .text _ | .number _ => rfl
  | .list items => rw [sortKeys, isPlain, isPlain, arePlain_sortItems items]
  | .object fields =>
    have hperm := List.mergeSort_perm (sortFields fields) fun a b => nameLe a.1 b.1
    have hnames := (hperm.map Prod.fst).nodup_iff
    rw [map_fst_sortFields] at hnames
    rw [sortKeys, isPlain, isPlain, havePlain_eq_all, hperm.all_eq, ← havePlain_eq_all, havePlain_sortFields fields,
      decide_eq_decide.2 hnames]

theorem arePlain_sortItems (vs : List Json) : arePlain (sortItems vs) = arePlain vs := by
  match vs with
  | [] => rfl
  | v :: vs => rw [sortItems, arePlain, arePlain, isPlain_sortKeys v, arePlain_sortItems vs]

theorem havePlain_sortFields (fs : List (Text × Json)) : havePlain (sortFields fs) = havePlain fs := by
  match fs with
  | [] => rfl
  | (name, v) :: fs => rw [sortFields, havePlain, havePlain, isPlain_sortKeys v, havePlain_sortFields fs]

end

end Json

/-! ## Fields that hold texts -/

namespace Json

/-- Named texts as fields; a name without a text is left out. -/
def textFields (entries : List (Text × Option Text)) : List (Text × Json) :=
  entries.flatMap fun e => textField? e.1 e.2

variable {entries : List (Text × Option Text)}

theorem textFields_cons (e : Text × Option Text) (entries : List (Text × Option Text)) :
    textFields (e :: entries) = textField? e.1 e.2 ++ textFields entries := List.flatMap_cons

theorem mem_textFields_iff {f : Text × Json} :
    f ∈ textFields entries ↔ ∃ name t, (name, some t) ∈ entries ∧ f = (name, .text t) := by
  rw [textFields, List.mem_flatMap]
  constructor
  · rintro ⟨⟨name, value⟩, he, hf⟩
    obtain ⟨t, ht, rfl⟩ := List.mem_map.1 hf
    obtain rfl := Option.mem_toList.1 ht
    exact ⟨name, t, he, rfl⟩
  · rintro ⟨name, t, he, rfl⟩
    exact ⟨(name, some t), he, List.mem_singleton_self _⟩

/-- Of distinct names, each is found. -/
theorem lookup_of_mem {α : Type} {l : List (Text × α)} (h : (l.map Prod.fst).Nodup) {e : Text × α} (he : e ∈ l) :
    l.lookup e.1 = some e.2 := by
  induction l with
  | nil => cases he
  | cons d l ih =>
    obtain ⟨hd, hl⟩ := List.nodup_cons.1 h
    rcases List.mem_cons.1 he with rfl | he
    · exact List.lookup_cons_self
    · have hne : e.1 ≠ d.1 := ne_of_mem_of_not_mem (List.mem_map_of_mem he) hd
      rw [List.lookup_cons, beq_false_of_ne hne]
      exact ih hl he

theorem map_fst_textFields_sublist (entries : List (Text × Option Text)) :
    ((textFields entries).map Prod.fst).Sublist (entries.map Prod.fst) := by
  induction entries with
  | nil => exact List.Sublist.refl _
  | cons e entries ih =>
    rw [textFields_cons, List.map_append, List.map_cons]
    cases e with
    | mk name value =>
      cases value with
      | none => exact ih.cons name
      | some t => exact ih.cons_cons name

section

variable (h : (entries.map Prod.fst).Nodup)

include h

theorem nodup_textFields : ((textFields entries).map Prod.fst).Nodup := (map_fst_textFields_sublist entries).nodup h

theorem isPlain_textFields : (Json.object (textFields entries)).isPlain = true := by
  rw [isPlain, Bool.and_eq_true, decide_eq_true_eq, havePlain_eq_all, List.all_eq_true]
  refine ⟨nodup_textFields h, fun f hf => ?_⟩
  obtain ⟨name, t, -, rfl⟩ := mem_textFields_iff.1 hf
  rfl

/-- Of distinct names, each has the text that it was given. -/
theorem lookup_textFields {e : Text × Option Text} (he : e ∈ entries) :
    (textFields entries).lookup e.1 = e.2.map Json.text := by
  obtain ⟨name, value⟩ := e
  cases value with
  | some t => exact lookup_of_mem (nodup_textFields h) (mem_textFields_iff.2 ⟨name, t, he, rfl⟩)
  | none =>
    refine List.lookup_eq_none_iff.2 fun f hf => bne_iff_ne.2 ?_
    rintro rfl
    obtain ⟨name, t, ht, rfl⟩ := mem_textFields_iff.1 hf
    have hsame : some none = some (some t) := (lookup_of_mem h he).symm.trans (lookup_of_mem h ht)
    cases hsame

end

end Json

/-! ## Records -/

namespace Record

/-- The names of all fields and aliases, in the order in which they are written. -/
def names : List Text :=
  ["foundOn", "provider", "providerTenant", "externalId", "hiringCompanyName", "postingCompanyName", "title", "source",
    "company", "talentAgency"]

def entries (r : Record) : List (Text × Option Text) :=
  [("foundOn", some r.foundOn), ("provider", some r.provider), ("providerTenant", some r.tenant),
    ("externalId", some r.externalId), ("hiringCompanyName", r.hiringCompany), ("postingCompanyName", r.postingCompany),
    ("title", r.title), ("source", some r.foundOn), ("company", r.hiringCompany), ("talentAgency", r.postingCompany)]

theorem map_fst_entries (r : Record) : r.entries.map Prod.fst = names := rfl

theorem nodup_entries (r : Record) : (r.entries.map Prod.fst).Nodup := by
  rw [map_fst_entries]
  decide

theorem toJson_eq (r : Record) : r.toJson = .object (Json.textFields r.entries) := by
  simp [toJson, fields, aliases, entries, Json.textFields, Json.textField?]

theorem isPlain_answer (outcome : Option Record) : (answer outcome).isPlain = true := by
  cases outcome with
  | none => rfl
  | some r =>
    rw [answer, toJson_eq]
    exact Json.isPlain_textFields r.nodup_entries

end Record

end JobPosting
