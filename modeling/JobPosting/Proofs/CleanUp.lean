import JobPosting.Proofs.Cleaning
import JobPosting.Service.Operations
import Mathlib.Data.List.DropRight
import Mathlib.Data.List.TakeWhile

/-!
# What cleaning up leaves

Cleaning up a pasted text takes its margins and its fragment away, turns later question marks into ampersands, and
leaves one ampersand of each run. The passes can be told apart again: the text in front of the question mark and the
pieces behind it are those of the pasted text, in the same order. A second clean-up finds nothing to do but to drop the
blanks that stood in front of the fragment.

* `Pasted.clean_eq` : the fragment may as well be cut off first.
* `Text.piecesAt` : the pieces between separators of several kinds.
* `clean_pieces` : the parts of a text after clean-up, in terms of those before it.
* `clean_twice` : what a second clean-up does, and when it does nothing.
-/

namespace JobPosting

/-! ## Fragments first -/

namespace Pasted

theorem not_mem_replace {a b : Char} (hab : b ≠ a) (t : Text) : a ∉ replace a b t := by
  intro h
  obtain ⟨c, -, hc⟩ := List.mem_map.1 h
  by_cases hca : c = a
  · rw [if_pos hca] at hc
    exact hab hc
  · rw [if_neg hca] at hc
    exact hca hc

theorem before_replace {a b sep : Char} (ha : a ≠ sep) (hb : b ≠ sep) (t : Text) :
    Text.before sep (replace a b t) = replace a b (Text.before sep t) := by
  have hsame : ∀ c, ((if c = a then b else c) ≠ sep) = (c ≠ sep) := by
    intro c
    by_cases hca : c = a
    · simp [hca, ha, hb]
    · simp [hca]
  unfold Text.before replace
  rw [List.takeWhile_map]
  simp only [Function.comp_def, hsame]

/-- Question marks are joined in what stands before the fragment as they are in the whole text. -/
theorem before_joinQueries (t : Text) :
    Text.before '#' (joinQueries t) = joinQueries (Text.before '#' t) := by
  obtain ⟨front, query, rfl, hfront⟩ | hnone := query_or_none t
  · rw [joinQueries_append hfront]
    by_cases hmark : '#' ∈ front
    · -- The first question mark belongs to the fragment.
      have hcut : ∀ r, Text.before '#' (front ++ '?' :: r) = Text.before '#' front := by
        intro r
        obtain ⟨a, b, hab⟩ := Text.exists_cut? hmark
        obtain ⟨rfl, ha⟩ := Text.cut?_eq_some_iff.1 hab
        rw [List.append_assoc, List.cons_append, Text.before_append_cons ha, Text.before_append_cons ha]
      have hno : '?' ∉ Text.before '#' front := fun h => hfront (List.takeWhile_subset _ h)
      rw [hcut, hcut, joinQueries_of_not_mem hno]
    · have hcut : ∀ r, Text.before '#' (front ++ '?' :: r) = front ++ '?' :: Text.before '#' r := by
        intro r
        unfold Text.before
        rw [List.takeWhile_append_of_pos, List.takeWhile_cons_of_pos (by decide)]
        intro c hc
        simpa using ne_of_mem_of_not_mem hc hmark
      rw [hcut, hcut, joinQueries_append hfront, before_replace (by decide) (by decide)]
  · have hno : '?' ∉ Text.before '#' t := fun h => hnone (List.takeWhile_subset _ h)
    rw [joinQueries_of_not_mem hnone, joinQueries_of_not_mem hno]

/-- What a pasted text says: no margins, and no fragment. -/
def body (pasted : Text) : Text := Text.before '#' (Text.trim pasted)

theorem clean_eq (pasted : Text) : clean pasted = collapse (joinQueries (body pasted)) := by
  unfold clean body
  rw [before_joinQueries]

theorem not_mem_body (pasted : Text) : '#' ∉ body pasted := by
  intro h
  simpa using List.mem_takeWhile_imp h

end Pasted

/-! ## Counting characters -/

namespace Pasted

theorem mem_collapse {c : Char} (hc : c ≠ '&') (t : Text) : c ∈ collapse t ↔ c ∈ t := by
  constructor
  · exact fun h => (collapse_sublist t).subset h
  · intro h
    obtain ⟨a, b, rfl⟩ := List.append_of_mem h
    rw [collapse_append_cons hc]
    exact List.mem_append_right _ List.mem_cons_self

theorem count_collapse {c : Char} (hc : c ≠ '&') (t : Text) : (collapse t).count c = t.count c := by
  induction t using collapse.induct with
  | case1 r ih => rw [collapse, ih, List.count_cons_of_ne hc.symm, List.count_cons_of_ne hc.symm,
      List.count_cons_of_ne hc.symm]
  | case2 d r hne ih =>
    rw [collapse]
    · rw [List.count_cons, List.count_cons, ih]
    · exact hne
  | case3 => rfl

end Pasted

/-! ## Pieces between several separators -/

namespace Text

/-- The pieces between characters of this kind that are not empty. -/
def piecesAt (isSep : Char → Bool) (t : Text) : List Text := (t.splitOnP isSep).filter (· ≠ [])

theorem split_eq_splitOnP (sep : Char) (t : Text) : split sep t = t.splitOnP (· == sep) := by
  induction t with
  | nil => rfl
  | cons c r ih =>
    rw [List.splitOnP_cons_eq_if_modifyHead, split, ih]
    by_cases hc : c = sep
    · simp [hc]
    · cases hr : r.splitOnP (· == sep) with
      | nil => exact absurd hr (List.splitOnP_ne_nil _ _)
      | cons p ps => simp [hc]

theorem pieces_eq_piecesAt (t : Text) : pieces t = piecesAt (· == '&') t := by
  unfold pieces piecesAt
  rw [split_eq_splitOnP]

/-- Turning one separator into another one splits at both. -/
theorem splitOnP_replace (a b : Char) (t : Text) :
    (Pasted.replace a b t).splitOnP (· == b) = t.splitOnP (fun c => c == a || c == b) := by
  induction t with
  | nil => rfl
  | cons c r ih =>
    show List.splitOnP _ ((if c = a then b else c) :: Pasted.replace a b r) = _
    rw [List.splitOnP_cons_eq_if_modifyHead, List.splitOnP_cons_eq_if_modifyHead, ih]
    by_cases hca : c = a
    · simp [hca]
    · simp [hca]

end Text

/-! ## Parts -/

namespace Pasted

/-- Cleaning up, as far as a text has a query. -/
theorem clean_of_query {pasted front query : Text} (h : body pasted = front ++ '?' :: query) (hfront : '?' ∉ front) :
    clean pasted = collapse front ++ '?' :: collapse (replace '?' '&' query) := by
  rw [clean_eq, h, joinQueries_append hfront, collapse_append_cons (by decide)]

theorem clean_of_not_mem {pasted : Text} (h : '?' ∉ body pasted) : clean pasted = collapse (body pasted) := by
  rw [clean_eq, joinQueries_of_not_mem h]

theorem not_mem_clean (pasted : Text) : '#' ∉ clean pasted := by
  rw [clean_eq, mem_collapse (by decide)]
  have hbody := not_mem_body pasted
  obtain ⟨front, query, h, hfront⟩ | hnone := query_or_none (body pasted)
  · rw [h] at hbody ⊢
    rw [joinQueries_append hfront]
    have hreplace : '#' ∉ query → '#' ∉ replace '?' '&' query := by
      intro hq hmem
      obtain ⟨c, hc, he⟩ := List.mem_map.1 hmem
      split at he
      · exact absurd he (by decide)
      · exact hq (he ▸ hc)
    simp only [List.mem_append, List.mem_cons, not_or] at hbody ⊢
    exact ⟨hbody.1, hbody.2.1, hreplace hbody.2.2⟩
  · rwa [joinQueries_of_not_mem hnone]

theorem count_clean_le (pasted : Text) : (clean pasted).count '?' ≤ 1 := by
  obtain ⟨front, query, h, hfront⟩ | hnone := query_or_none (body pasted)
  · have hquery : '?' ∉ replace '?' '&' query := not_mem_replace (by decide) query
    rw [clean_of_query h hfront, List.count_append, List.count_cons_self, count_collapse (by decide),
      count_collapse (by decide), List.count_eq_zero.2 hfront, List.count_eq_zero.2 hquery]
  · rw [clean_of_not_mem hnone, count_collapse (by decide), List.count_eq_zero.2 hnone]
    exact Nat.zero_le 1

end Pasted

/-- Cleaning up loses, invents and reorders nothing. The text that is left has no fragment, one question mark at most,
and no two ampersands in a row. It has a question mark exactly if the body of the pasted text has one; what stands
before it is the same but for runs of ampersands, of which one is left; and the pieces behind it, between ampersands, are
the pieces of the pasted query between question marks and ampersands, in the same order. -/
theorem clean_pieces (pasted : Text) :
    let body := Text.before '#' (Text.trim pasted)
    '#' ∉ Pasted.clean pasted ∧ (Pasted.clean pasted).count '?' ≤ 1 ∧ ¬['&', '&'] <:+: Pasted.clean pasted ∧
    ('?' ∈ Pasted.clean pasted ↔ '?' ∈ body) ∧
    Text.before '?' (Pasted.clean pasted) = (Text.before '?' body).destutter Pasted.NotBothAmp ∧
    (Text.cut? '?' (Pasted.clean pasted)).map (fun parts => Text.piecesAt (· == '&') parts.2) =
      (Text.cut? '?' body).map fun parts => Text.piecesAt (fun c => c == '?' || c == '&') parts.2 := by
  intro body
  refine ⟨Pasted.not_mem_clean pasted, Pasted.count_clean_le pasted, Pasted.not_infix_collapse _, ?_⟩
  obtain ⟨front, query, h, hfront⟩ | hnone := Pasted.query_or_none body
  · have hcollapse : '?' ∉ Pasted.collapse front := fun hmem => hfront ((Pasted.collapse_sublist front).subset hmem)
    rw [Pasted.clean_of_query h hfront, h, Text.before_append_cons hcollapse, Text.before_append_cons hfront,
      Text.cut?_eq_some_iff.2 ⟨rfl, hcollapse⟩, Text.cut?_eq_some_iff.2 ⟨rfl, hfront⟩, Pasted.collapse_eq_destutter]
    refine ⟨by simp, rfl, congrArg some ?_⟩
    dsimp only
    rw [← Text.pieces_eq_piecesAt, Text.pieces_collapse, Text.pieces_eq_piecesAt, Text.piecesAt,
      Text.splitOnP_replace, Text.piecesAt]
  · have hcollapse : '?' ∉ Pasted.collapse body := fun hmem => hnone ((Pasted.collapse_sublist body).subset hmem)
    rw [Pasted.clean_of_not_mem hnone, show Pasted.body pasted = body from rfl, Text.before_eq_self hcollapse,
      Text.before_eq_self hnone, Text.cut?_eq_none hcollapse, Text.cut?_eq_none hnone, Pasted.collapse_eq_destutter]
    rw [Pasted.collapse_eq_destutter] at hcollapse
    exact ⟨iff_of_false hcollapse hnone, rfl, rfl⟩

/-! ## A second clean-up -/

namespace Text

theorem trimEnd_eq_rdropWhile (t : Text) : trimEnd t = t.rdropWhile isBlank := rfl

theorem trimEnd_eq_self_iff {t : Text} : trimEnd t = t ↔ t.getLast?.map isBlank ≠ some true := by
  rw [trimEnd_eq_rdropWhile, List.rdropWhile_eq_self_iff]
  cases h : t.getLast? with
  | none => simp [List.getLast?_eq_none_iff.1 h]
  | some c =>
    obtain ⟨hne, rfl⟩ := List.mem_getLast?_eq_getLast h
    simp [hne]

theorem trim_eq_trimEnd {t : Text} (h : t.head?.map isBlank ≠ some true) : trim t = trimEnd t := by
  have hfront : t.dropWhile isBlank = t := by
    cases t with
    | nil => rfl
    | cons c r => exact List.dropWhile_cons_of_neg (by simpa using h)
  rw [trim, hfront]

theorem head?_of_isPrefix {s t : Text} (h : s <+: t) {c : Char} (hc : s.head? = some c) : t.head? = some c := by
  obtain ⟨r, rfl⟩ := h
  rw [List.head?_append, hc]
  rfl

theorem head?_trim (t : Text) : (trim t).head?.map isBlank ≠ some true := by
  intro h
  obtain ⟨c, hc, hblank⟩ := Option.map_eq_some_iff.1 h
  have hhead : (t.dropWhile isBlank).head? = some c := head?_of_isPrefix (List.rdropWhile_prefix isBlank _) hc
  have hnot := List.head?_dropWhile_not isBlank t
  rw [hhead] at hnot
  simp [hblank] at hnot

end Text

namespace Pasted

/-- No pass but the cut tells blanks from other characters. -/
theorem map_isBlank_joinQueries (t : Text) : (joinQueries t).map isBlank = t.map isBlank := by
  obtain ⟨front, query, rfl, hfront⟩ | hnone := query_or_none t
  · have hsame : ∀ c, isBlank (if c = '?' then '&' else c) = isBlank c := by
      intro c
      by_cases hc : c = '?'
      · simp [hc]
        decide
      · simp [hc]
    rw [joinQueries_append hfront]
    simp [replace, hsame]
  · rw [joinQueries_of_not_mem hnone]

theorem head?_collapse (t : Text) : (collapse t).head? = t.head? := by
  induction t using collapse.induct with
  | case1 r ih => rw [collapse, ih]; rfl
  | case2 c r hne ih =>
    rw [collapse]
    · rfl
    · exact hne
  | case3 => rfl

theorem head?_clean (pasted : Text) : (clean pasted).head?.map isBlank ≠ some true := by
  have hjoin : (joinQueries (body pasted)).head?.map isBlank = (body pasted).head?.map isBlank := by
    rw [← List.head?_map, map_isBlank_joinQueries, List.head?_map]
  rw [clean_eq, head?_collapse, hjoin]
  intro h
  obtain ⟨c, hc, hblank⟩ := Option.map_eq_some_iff.1 h
  apply Text.head?_trim pasted
  rw [Text.head?_of_isPrefix (List.takeWhile_prefix _) hc, Option.map_some, hblank]

theorem getLast?_clean (pasted : Text) :
    (clean pasted).getLast?.map isBlank = (body pasted).getLast?.map isBlank := by
  rw [clean_eq, getLast?_collapse, ← List.getLast?_map, map_isBlank_joinQueries, List.getLast?_map]

theorem joinQueries_of_count_le {t : Text} (h : t.count '?' ≤ 1) : joinQueries t = t := by
  obtain ⟨front, query, rfl, hfront⟩ | hnone := query_or_none t
  · rw [List.count_append, List.count_cons_self] at h
    have hquery : '?' ∉ query := List.count_eq_zero.1 (by omega)
    rw [joinQueries_append hfront, replace_of_not_mem '&' hquery]
  · exact joinQueries_of_not_mem hnone

/-- A text that has been cleaned up is only trimmed by a second clean-up. -/
theorem clean_clean (pasted : Text) : clean (clean pasted) = Text.trimEnd (clean pasted) := by
  have htrim : Text.trim (clean pasted) = Text.trimEnd (clean pasted) := Text.trim_eq_trimEnd (head?_clean pasted)
  have hbegins : Text.trimEnd (clean pasted) <+: clean pasted := List.rdropWhile_prefix isBlank _
  have hbody : body (clean pasted) = Text.trimEnd (clean pasted) := by
    rw [body, htrim]
    exact Text.before_eq_self fun h => not_mem_clean pasted (hbegins.subset h)
  have hjoin : joinQueries (Text.trimEnd (clean pasted)) = Text.trimEnd (clean pasted) :=
    joinQueries_of_count_le ((hbegins.sublist.count_le '?').trans (count_clean_le pasted))
  have hamp : ¬['&', '&'] <:+: Text.trimEnd (clean pasted) :=
    fun h => not_infix_collapse _ (h.trans hbegins.isInfix)
  rw [clean_eq, hbody, hjoin, collapse_eq_self hamp]

end Pasted

/-- A second clean-up drops the blanks at the end, and nothing else; a third one finds nothing to do. There are no blanks
at the beginning, and none at the end either unless they stood in front of the fragment: a second clean-up makes no
difference exactly if there are none, and so in particular if there was no fragment. A form that is filled in from the
URL that was answered is looked up under the URL without those blanks. -/
theorem clean_twice (pasted : Text) :
    let first := Pasted.clean pasted
    let body := Text.before '#' (Text.trim pasted)
    Pasted.clean first = Text.trimEnd first ∧ Pasted.clean (Pasted.clean first) = Pasted.clean first ∧
    Text.trim first = Text.trimEnd first ∧
    (Pasted.clean first = first ↔ Text.trimEnd body = body) ∧
    ('#' ∉ pasted → Pasted.clean first = first) ∧
    ∀ form keepTracking, (Operation.prefill first form keepTracking).texts = [Text.trimEnd first] := by
  intro first body
  have hagain : Pasted.clean first = Text.trimEnd first := Pasted.clean_clean pasted
  have hsame : Pasted.clean first = first ↔ Text.trimEnd body = body := by
    rw [hagain, Text.trimEnd_eq_self_iff, Text.trimEnd_eq_self_iff, Pasted.getLast?_clean]
    rfl
  refine ⟨hagain, ?_, Text.trim_eq_trimEnd (Pasted.head?_clean pasted), hsame, fun hmark => ?_, fun form keepTracking => ?_⟩
  · rw [Pasted.clean_clean first, hagain]
    exact List.rdropWhile_idempotent isBlank first
  · have hbody : body = Text.trim pasted :=
      Text.before_eq_self fun h => hmark ((Text.trim_sublist pasted).subset h)
    rw [hsame, hbody]
    exact List.rdropWhile_idempotent isBlank (pasted.dropWhile isBlank)
  · exact congrArg ([·]) hagain

/-- A blank in front of the fragment is left by the first clean-up and dropped by the second one; if the blank is one
that no URL may end in, the two texts even have different records. -/
theorem clean_twice_blank :
    (let pasted : Text := "https://a.io/x #top"
     Pasted.clean pasted = "https://a.io/x " ∧ Text.trim (Pasted.clean pasted) ≠ Pasted.clean pasted ∧
       Pasted.clean (Pasted.clean pasted) = "https://a.io/x") ∧
    let pasted : Text := "https://a.io/x\u00a0#top"
    (deduce (Pasted.clean pasted)).map Record.externalId = some "x%C2%A0".toList ∧
      (deduce (Pasted.clean (Pasted.clean pasted))).map Record.externalId = some "x".toList := by
  decide +kernel

end JobPosting
