import JobPosting.Proofs.Encoding
import JobPosting.Proofs.Fragments
import JobPosting.Proofs.Query

/-!
# Pieces of a query

A query says what its pieces between ampersands say; empty pieces count for nothing. So two texts that differ behind
their question mark only have the same record as soon as their queries give the same value for every name.

* `Text.pieces` : the pieces of a query that are not empty; `Text.pieces_flatMap_congr` says that dropping and encoding
  characters does not tell queries of the same pieces apart.
* `Url.exists_read_query` : what stands behind the question mark is read as the query, and nothing else depends on it.
* `deduce_query_congr` : texts whose queries give the same values have the same record.
-/

namespace JobPosting

/-! ## Pieces -/

namespace Text

/-- The pieces of a query that are not empty. -/
def pieces (query : Text) : List Text := (split '&' query).filter (· ≠ [])

theorem formPairs_eq (query : Text) : formPairs query = (pieces query).map formPair := rfl

theorem split_append_of_not_mem {sep : Char} {a b p : Text} {ps : List Text} (ha : sep ∉ a)
    (hb : split sep b = p :: ps) : split sep (a ++ b) = (a ++ p) :: ps := by
  induction a with
  | nil => exact hb
  | cons c a ih =>
    simp only [List.mem_cons, not_or] at ha
    obtain ⟨q, qs, hq, hc⟩ := split_cons_ne (Ne.symm ha.1) (a ++ b)
    rw [ih ha.2] at hq
    obtain ⟨rfl, rfl⟩ := List.cons.inj hq
    exact hc

/-- Changing every character but the separator changes the pieces one by one. -/
theorem split_flatMap {sep : Char} {g : Char → Text} (hsep : g sep = [sep]) (hg : ∀ c, c ≠ sep → sep ∉ g c)
    (t : Text) : split sep (t.flatMap g) = (split sep t).map (List.flatMap g) := by
  induction t with
  | nil => rfl
  | cons c r ih =>
    rw [List.flatMap_cons]
    by_cases hc : c = sep
    · subst hc
      rw [hsep, List.singleton_append, split, split, if_pos rfl, if_pos rfl, ih]
      rfl
    · obtain ⟨p, ps, hr, hcr⟩ := split_cons_ne hc r
      rw [hr] at ih
      rw [hcr, split_append_of_not_mem (hg c hc) ih]
      rfl

theorem filter_ne_nil_map_flatMap (g : Char → Text) (ps : List Text) :
    (ps.map (List.flatMap g)).filter (· ≠ []) = ((ps.filter (· ≠ [])).map (List.flatMap g)).filter (· ≠ []) := by
  induction ps with
  | nil => rfl
  | cons p ps ih =>
    cases p with
    | nil => simpa using ih
    | cons c p =>
      rw [List.filter_cons_of_pos (by simp), List.map_cons, List.map_cons, List.filter_cons, List.filter_cons, ih]

theorem pieces_flatMap_congr {g : Char → Text} (hsep : g '&' = ['&']) (hg : ∀ c, c ≠ '&' → '&' ∉ g c) {s t : Text}
    (h : pieces s = pieces t) : pieces (s.flatMap g) = pieces (t.flatMap g) := by
  unfold pieces at h ⊢
  rw [split_flatMap hsep hg, split_flatMap hsep hg, filter_ne_nil_map_flatMap, h, ← filter_ne_nil_map_flatMap]

theorem filter_eq_flatMap (p : Char → Bool) (t : Text) : t.filter p = t.flatMap fun c => if p c then [c] else [] := by
  induction t with
  | nil => rfl
  | cons c r ih =>
    rw [List.filter_cons, List.flatMap_cons, ih]
    split <;> rfl

theorem pieces_filter_congr {p : Char → Bool} (hp : p '&' = true) {s t : Text} (h : pieces s = pieces t) :
    pieces (s.filter p) = pieces (t.filter p) := by
  rw [filter_eq_flatMap, filter_eq_flatMap]
  apply pieces_flatMap_congr (by rw [hp]; rfl) _ h
  intro c hc
  split
  · simpa using hc.symm
  · exact List.not_mem_nil

theorem pieces_percentEncode_congr {set : Char → Bool} (hset : set '&' = false) {s t : Text}
    (h : pieces s = pieces t) : pieces (percentEncode set s) = pieces (percentEncode set t) := by
  exact pieces_flatMap_congr (by rw [hset]; rfl) (fun c hc => not_mem_encoded (by decide) hc) h

end Text

/-! ## Reading -/

namespace Url

variable {front : Text}

/-- The encoded query of a URL that ends in this text. -/
def queryOf (t : Text) : Text := Text.percentEncode querySet (stripEnd t)

theorem not_mem_stripEnd {c : Char} {t : Text} (h : c ∉ t) : c ∉ stripEnd t := by
  intro hc
  apply h
  have hmem := List.mem_reverse.1 (List.mem_filter.1 hc).1
  exact List.mem_reverse.1 (List.dropWhile_subset _ hmem)

theorem not_mem_stripFront {c : Char} {t : Text} (h : c ∉ t) : c ∉ stripFront t := by
  intro hc
  apply h
  exact List.dropWhile_subset _ (List.mem_filter.1 hc).1

/-- The URL of this scheme, text and query, without a fragment; a URL that is not of the web is only checked. -/
def readParts (scheme front : Text) (query : Option Text) : Except UrlError (Option Url) :=
  match webScheme? scheme with
  | some web => (readWeb web front query none).map some
  | none => (checkOther scheme front).map fun _ => none

theorem readParts_query (scheme front q : Text) :
    readParts scheme front (some q) =
      (readParts scheme front none).map (Option.map fun w =>
        { w with query := some (Text.percentEncode querySet q) }) := by
  unfold readParts
  cases webScheme? scheme with
  | none =>
    dsimp only
    cases checkOther scheme front <;> rfl
  | some web =>
    dsimp only
    unfold readWeb
    dsimp only
    cases readAuthority (authorityOf (front.dropWhile Path.isSlash)) <;> rfl

theorem fragment_of_readParts {scheme rest : Text} {query : Option Text} {w : Url}
    (h : readParts scheme rest query = .ok (some w)) : w.fragment = none := by
  unfold readParts at h
  split at h
  · rename_i web _
    obtain ⟨w', hw, hsame⟩ := of_map_eq_ok h
    cases hsame
    exact (of_readWeb hw).2.2.2
  · obtain ⟨_, -, hnone⟩ := of_map_eq_ok h
    cases hnone

theorem read_eq_readParts {t scheme rest q : Text} (h : cutScheme? (strip t) = some (scheme, rest ++ '?' :: q))
    (hrest : '?' ∉ rest) (hmark : '#' ∉ rest ++ '?' :: q) : read t = readParts scheme rest (some q) := by
  unfold read
  rw [h]
  dsimp only
  rw [cutPart_of_not_mem hmark]
  dsimp only
  rw [cutPart_append hrest]
  rfl

/-- What stands behind the first question mark of a text without a fragment is read as the query, and no other part of
the URL depends on it. -/
theorem exists_read_query (hfront : '?' ∉ front) (hmark : '#' ∉ front) :
    ∃ base : Except UrlError (Option Url), (∀ w, base = .ok (some w) → w.fragment = none) ∧
      ∀ q, '#' ∉ q → read (front ++ '?' :: q) =
        base.map (Option.map fun w => { w with query := some (queryOf q) }) := by
  have hcut : ∀ q, cutScheme? (strip (front ++ '?' :: q)) =
      (cutScheme? (stripFront front)).map fun parts => (parts.1, parts.2 ++ '?' :: stripEnd q) := by
    intro q
    rw [strip_mark (by decide) (by decide), cutScheme?_mark (by decide) (by decide)]
  cases hs : cutScheme? (stripFront front) with
  | none =>
    refine ⟨.error .noScheme, fun w hw => ?_, fun q _ => ?_⟩
    · cases hw
    · unfold read
      rw [hcut, hs]
      rfl
  | some p =>
    obtain ⟨scheme, rest⟩ := p
    have hrest : ∀ c, c ∉ front → c ∉ rest := by
      intro c hc hmem
      obtain ⟨s, hsplit, -⟩ := of_cutScheme? hs
      apply not_mem_stripFront hc
      rw [hsplit]
      exact List.mem_append_right s (List.mem_cons_of_mem _ hmem)
    refine ⟨readParts scheme rest none, fun w hw => fragment_of_readParts hw, fun q hq => ?_⟩
    have hparts : cutScheme? (strip (front ++ '?' :: q)) = some (scheme, rest ++ '?' :: stripEnd q) := by
      rw [hcut, hs]
      rfl
    have hnone : '#' ∉ rest ++ '?' :: stripEnd q := by simp [hrest '#' hmark, not_mem_stripEnd hq]
    rw [read_eq_readParts hparts (hrest '?' hfront) hnone, readParts_query]
    rfl

theorem print_of_query {w : Url} (hw : w.fragment = none) (q : Text) :
    print { w with query := some q } = print { w with query := none } ++ '?' :: q := by
  unfold print
  rw [hw]
  simp [printPart]

end Url

/-! ## Records -/

/-- Posting URLs of one page whose queries give the same values have the same record. -/
theorem deduceWith_query_congr {u v : PostingUrl} (h : u.SamePage v)
    (hq : ∀ name, u.queryValue? name = v.queryValue? name) :
    deduceWith knownProviders u = deduceWith knownProviders v := by
  obtain ⟨hposting, hid, hfound⟩ := deduceWith_samePage h
  have hkeys : SameIndeedKeys u v := fun _ _ _ _ name _ => hq name
  exact hposting.eq (hfound (Referral.ofUrl?_congr fun key _ => hq key)) (hid hkeys)

/-- Two texts without fragments that agree up to their question mark, and whose queries give the same value for every
name, have the same record, or none. -/
theorem deduce_query_congr {front q r : Text} (hfront : '?' ∉ front) (hmark : '#' ∉ front) (hq : '#' ∉ q)
    (hr : '#' ∉ r) (h : ∀ name, lastValue? name (Text.formPairs (Url.queryOf q)) =
      lastValue? name (Text.formPairs (Url.queryOf r))) :
    deduce (front ++ '?' :: q) = deduce (front ++ '?' :: r) := by
  obtain ⟨base, hfragment, hread⟩ := Url.exists_read_query hfront hmark
  have hposting : ∀ s, '#' ∉ s → PostingUrl.read? (front ++ '?' :: s) =
      base.toOption.join.map fun w => PostingUrl.ofUrl { w with query := some (Url.queryOf s) } := by
    intro s hs
    unfold PostingUrl.read? PostingUrl.read
    rw [hread s hs]
    cases base with
    | error e => rfl
    | ok o => cases o <;> rfl
  unfold deduce
  rw [hposting q hq, hposting r hr]
  cases base with
  | error e => rfl
  | ok o =>
    cases o with
    | none => rfl
    | some w =>
      have hpage : ∀ s, (PostingUrl.ofUrl { w with query := some s }).hrefWithoutQuery =
          Text.before '?' (Url.print { w with query := none }) := by
        intro s
        show Text.before '?' (Url.print { w with query := some s }) = _
        rw [Url.print_of_query (hfragment w rfl), Text.before_append_sep]
      apply congrArg some
      apply deduceWith_query_congr
      · exact ⟨rfl, rfl, (hpage _).trans (hpage _).symm⟩
      · exact h

end JobPosting
