import JobPosting.Posting.Pasted
import JobPosting.Proofs.QueryPieces
import Mathlib.Data.List.Destutter
import Mathlib.Data.List.Induction

/-!
# Cleaning up a clean URL

A pasted URL that is clean may still have runs of ampersands in its query. They collapse, which leaves another text, but
one with the same pieces in its query, and so with the same record.

* `Pasted.collapse_append_cons` : runs of ampersands collapse on both sides of any other character by themselves.
* `Pasted.collapse_eq_destutter` : one ampersand is left of each run, whatever stands around it.
* `Text.pieces_collapse` : collapsing leaves the pieces of a query.
* `Pasted.clean_query` : a clean URL with a query changes in its query only.
* `deduce_clean` : cleaning up a clean URL makes no difference to its record.
-/

namespace JobPosting

/-! ## Trimming -/

theorem Text.trim_eq_self {t : Text} (hfirst : ∀ c ∈ t.head?, isBlank c = false)
    (hlast : ∀ c ∈ t.getLast?, isBlank c = false) : trim t = t := by
  have hfront : t.dropWhile isBlank = t := by
    cases t with
    | nil => rfl
    | cons c r =>
      have hc : isBlank c = false := hfirst c rfl
      rw [List.dropWhile_cons_of_neg (by simp [hc])]
  unfold trim trimEnd
  rw [hfront, reverse_dropWhile_reverse hlast]

/-! ## Question marks -/

namespace Pasted

theorem joinQueries_append {front : Text} (h : '?' ∉ front) (query : Text) :
    joinQueries (front ++ '?' :: query) = front ++ '?' :: replace '?' '&' query := by
  unfold joinQueries
  rw [Text.cut?_eq_some_iff.2 ⟨rfl, h⟩]

theorem joinQueries_of_not_mem {t : Text} (h : '?' ∉ t) : joinQueries t = t := by
  unfold joinQueries
  rw [Text.cut?_eq_none h]

/-- A text is one of two kinds: it has a query, or no question mark at all. -/
theorem query_or_none (t : Text) :
    (∃ front query, t = front ++ '?' :: query ∧ '?' ∉ front) ∨ '?' ∉ t := by
  by_cases h : '?' ∈ t
  · obtain ⟨front, query, hcut⟩ := Text.exists_cut? h
    exact .inl ⟨front, query, Text.cut?_eq_some_iff.1 hcut⟩
  · exact .inr h

end Pasted

/-! ## Collapsing -/

namespace Pasted

theorem collapse_append_cons {c : Char} (hc : c ≠ '&') (a b : Text) :
    collapse (a ++ c :: b) = collapse a ++ c :: collapse b := by
  induction a using collapse.induct with
  | case1 r ih =>
    rw [collapse]
    show collapse ('&' :: '&' :: (r ++ c :: b)) = _
    rw [collapse]
    exact ih
  | case2 d r hne ih =>
    rw [collapse]
    · show collapse (d :: (r ++ c :: b)) = _
      rw [collapse]
      · rw [ih]
        rfl
      · intro r' hd hr
        cases r with
        | nil => exact hc (List.cons.inj hr).1
        | cons e r => exact hne r hd (by rw [(List.cons.inj hr).1])
    · exact hne
  | case3 =>
    show collapse (c :: b) = _
    rw [collapse]
    · rfl
    · exact fun _ hamp _ => hc hamp

def NotBothAmp (a b : Char) : Prop := ¬(a = '&' ∧ b = '&')

instance : DecidableRel NotBothAmp := fun _ _ => inferInstanceAs (Decidable (¬(_ ∧ _)))

/-- Collapsing keeps, from left to right, every character that is not an ampersand behind an ampersand. -/
theorem collapse_eq_destutter (t : Text) : collapse t = t.destutter NotBothAmp := by
  induction t using collapse.induct with
  | case1 r ih =>
    rw [collapse, ih, List.destutter_cons', List.destutter_cons', List.destutter'_cons_neg]
    simp [NotBothAmp]
  | case2 c r hne ih =>
    rw [collapse]
    · cases r with
      | nil => rfl
      | cons d r =>
        have hcd : NotBothAmp c d := by
          rintro ⟨rfl, rfl⟩
          exact hne r rfl rfl
        rw [ih, List.destutter_cons', List.destutter_cons', List.destutter'_cons_pos _ hcd]
    · exact hne
  | case3 => rfl

theorem isChain_iff {t : Text} : t.IsChain NotBothAmp ↔ ¬['&', '&'] <:+: t := by
  rw [List.isChain_iff_forall_rel_of_append_cons_cons]
  constructor
  · rintro h ⟨a, b, rfl⟩
    exact h (List.append_assoc a _ b) ⟨rfl, rfl⟩
  · rintro h a b front rest rfl ⟨rfl, rfl⟩
    exact h ⟨front, rest, List.append_assoc front _ rest⟩

theorem not_infix_collapse (t : Text) : ¬['&', '&'] <:+: collapse t := by
  rw [← isChain_iff, collapse_eq_destutter]
  exact List.isChain_destutter _ t

/-- A text without two ampersands in a row stays as it is. -/
theorem collapse_eq_self {t : Text} (h : ¬['&', '&'] <:+: t) : collapse t = t := by
  rw [collapse_eq_destutter]
  exact List.destutter_of_isChain _ t (isChain_iff.2 h)

theorem getLast?_collapse (t : Text) : (collapse t).getLast? = t.getLast? := by
  induction t using collapse.induct with
  | case1 r ih =>
    rw [collapse, ih, List.getLast?_cons_cons]
  | case2 c r hne ih =>
    rw [collapse]
    · rw [List.getLast?_cons, List.getLast?_cons, ih]
    · exact hne
  | case3 => rfl

/-- Margins at the end are dropped before or after collapsing, as no margin is an ampersand. -/
theorem collapse_dropMargin (t : Text) :
    ((collapse t).reverse.dropWhile Url.isMargin).reverse = collapse (t.reverse.dropWhile Url.isMargin).reverse := by
  induction t using List.reverseRecOn with
  | nil => rfl
  | append_singleton t c ih =>
    by_cases hc : Url.isMargin c = true
    · have hamp : c ≠ '&' := by
        rintro rfl
        exact absurd hc (by decide)
      have hcollapse : collapse (t ++ [c]) = collapse t ++ [c] := collapse_append_cons hamp t []
      simpa [hcollapse, hc] using ih
    · have hlast : ∀ d ∈ (t ++ [c]).getLast?, Url.isMargin d = false := by simpa using hc
      rw [reverse_dropWhile_reverse hlast]
      apply reverse_dropWhile_reverse
      rwa [getLast?_collapse]

end Pasted

/-! ## Pieces -/

namespace Text

open Pasted (collapse)

/-- Collapsing keeps the first piece, empty or not, and of the others those that are not empty. -/
theorem split_collapse (t : Text) :
    ∃ p ps qs, split '&' (collapse t) = p :: ps ∧ split '&' t = p :: qs ∧
      ps.filter (· ≠ []) = qs.filter (· ≠ []) := by
  induction t using Pasted.collapse.induct with
  | case1 r ih =>
    obtain ⟨p, ps, qs, hcollapse, hsplit, hfilter⟩ := ih
    obtain ⟨rfl, rfl⟩ := List.cons.inj (show [] :: split '&' r = p :: qs from hsplit)
    refine ⟨[], ps, [] :: split '&' r, ?_, rfl, ?_⟩
    · rw [collapse, hcollapse]
    · rw [hfilter]
      rfl
  | case2 c r hne ih =>
    obtain ⟨p, ps, qs, hcollapse, hsplit, hfilter⟩ := ih
    have hc : collapse (c :: r) = c :: collapse r := by
      rw [collapse]
      exact hne
    rw [hc, split, split]
    by_cases hamp : c = '&'
    · refine ⟨[], p :: ps, p :: qs, ?_, ?_, ?_⟩
      · rw [if_pos hamp, hcollapse]
      · rw [if_pos hamp, hsplit]
      · rw [List.filter_cons, List.filter_cons, hfilter]
    · refine ⟨c :: p, ps, qs, ?_, ?_, hfilter⟩
      · rw [if_neg hamp, hcollapse]
      · rw [if_neg hamp, hsplit]
  | case3 => exact ⟨[], [], [], rfl, rfl, rfl⟩

theorem pieces_collapse (t : Text) : pieces (collapse t) = pieces t := by
  obtain ⟨p, ps, qs, hcollapse, hsplit, hfilter⟩ := split_collapse t
  unfold pieces
  rw [hcollapse, hsplit, List.filter_cons, List.filter_cons, hfilter]

end Text

theorem Url.formPairs_queryOf_collapse (q : Text) :
    Text.formPairs (queryOf (Pasted.collapse q)) = Text.formPairs (queryOf q) := by
  have hend : Text.pieces (stripEnd (Pasted.collapse q)) = Text.pieces (stripEnd q) := by
    unfold stripEnd
    rw [Pasted.collapse_dropMargin]
    exact Text.pieces_filter_congr rfl (Text.pieces_collapse _)
  rw [Text.formPairs_eq, Text.formPairs_eq, queryOf, queryOf, Text.pieces_percentEncode_congr (by decide) hend]

/-! ## Clean URLs -/

/-- A pasted URL that needs no cleaning, apart from ampersands in its query: no blanks around it, no fragment, one
question mark at most, and no two ampersands in a row before it. -/
structure Pasted.IsClean (s : Text) : Prop where
  first : ∀ c ∈ s.head?, isBlank c = false
  last : ∀ c ∈ s.getLast?, isBlank c = false
  fragment : '#' ∉ s
  query : s.count '?' ≤ 1
  front : ¬['&', '&'] <:+: Text.before '?' s

namespace Pasted

variable {s : Text}

theorem replace_of_not_mem {a : Char} (b : Char) {t : Text} (h : a ∉ t) : replace a b t = t := by
  unfold replace
  rw [List.map_congr_left (g := id), List.map_id]
  intro c hc
  exact if_neg (ne_of_mem_of_not_mem hc h)

/-- A clean URL without a query stays as it is. -/
theorem IsClean.clean_of_not_mem (h : IsClean s) (hmark : '?' ∉ s) : clean s = s := by
  have hfront := h.front
  rw [Text.before_eq_self hmark] at hfront
  unfold clean
  rw [Text.trim_eq_self h.first h.last, joinQueries_of_not_mem hmark, Text.before_eq_self h.fragment,
    collapse_eq_self hfront]

/-- A clean URL with a query changes in its query only. -/
theorem IsClean.exists_query (h : IsClean s) (hmark : '?' ∈ s) :
    ∃ front q, s = front ++ '?' :: q ∧ '?' ∉ front ∧ clean s = front ++ '?' :: collapse q := by
  obtain ⟨front, q, hs, hfront⟩ := (query_or_none s).resolve_right (not_not_intro hmark)
  have hq : '?' ∉ q := by
    have hcount := h.query
    rw [hs, List.count_append, List.count_cons_self] at hcount
    exact List.count_eq_zero.1 (by omega)
  have hamp := h.front
  rw [hs, Text.before_append_cons hfront] at hamp
  have hjoin : joinQueries s = s := by rw [hs, joinQueries_append hfront, replace_of_not_mem '&' hq]
  refine ⟨front, q, hs, hfront, ?_⟩
  calc clean s = collapse (Text.before '#' (joinQueries (Text.trim s))) := rfl
    _ = collapse s := by rw [Text.trim_eq_self h.first h.last, hjoin, Text.before_eq_self h.fragment]
    _ = collapse front ++ '?' :: collapse q := by rw [hs, collapse_append_cons (by decide)]
    _ = front ++ '?' :: collapse q := by rw [collapse_eq_self hamp]

end Pasted

/-- Cleaning up a clean URL makes no difference: what is left has the same record, or none either, however many runs of
ampersands its query had. -/
theorem deduce_clean {s : Text} (h : Pasted.IsClean s) : deduce (Pasted.clean s) = deduce s := by
  by_cases hmark : '?' ∈ s
  · obtain ⟨front, q, hs, hfront, hclean⟩ := h.exists_query hmark
    have hnone := h.fragment
    rw [hs, List.mem_append, List.mem_cons, not_or, not_or] at hnone
    obtain ⟨hnofront, -, hnoq⟩ := hnone
    have hnocollapse : '#' ∉ Pasted.collapse q := fun hmem => hnoq ((Pasted.collapse_sublist q).subset hmem)
    rw [hclean, hs]
    apply deduce_query_congr hfront hnofront hnocollapse hnoq
    intro name
    rw [Url.formPairs_queryOf_collapse]
  · rw [h.clean_of_not_mem hmark]

/-- A URL with runs of ampersands at the beginning, inside and at the end of its query becomes another text with the
same record. -/
theorem deduce_clean_lever :
    let s : Text := "https://acme.lever.co/x?&&src=li&&&src=xing&&"
    Pasted.IsClean s ∧ Pasted.clean s = "https://acme.lever.co/x?&src=li&src=xing&" ∧
      deduce (Pasted.clean s) = deduce s ∧ (deduce s).map Record.foundOn = some "xing".toList := by
  intro s
  have hfirst : s.head? = some 'h' := by decide
  have hlast : s.getLast? = some '&' := by decide
  have hclean : Pasted.IsClean s := {
    first := by
      rw [hfirst]
      rintro c ⟨⟩
      decide
    last := by
      rw [hlast]
      rintro c ⟨⟩
      decide
    fragment := by decide
    query := by decide
    front := by decide +kernel }
  exact ⟨hclean, by decide, deduce_clean hclean, by decide +kernel⟩

end JobPosting
