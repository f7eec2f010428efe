import JobPosting.Proofs.Encoding
import JobPosting.Proofs.QueryPieces
import JobPosting.Proofs.Visible

/-!
# The order of a query

A query is read piece by piece, and of several pieces with one name the last one counts. So pieces with different names
may change places: the record of the posting stays the same.

* `Text.formPairs_percentEncode` : a query says the same after encoding.
* `Text.namedPieces` : the pieces that give a value for a name.
* `Text.lastValue?_join` : the last one of them gives the value that counts.
* `Text.Reordered` : two lists of pieces that differ in nothing but the order of pieces with different names.
* `deduce_reordered` : such lists make the same record.
-/

namespace JobPosting

namespace Text

/-! ## Encoded queries -/

/-- A piece of a query says the same after encoding. -/
theorem formPair_percentEncode (piece : Text) : formPair (percentEncode Url.querySet piece) = formPair piece := by
  have hequals : ∀ t : Text, '=' ∉ t → '=' ∉ percentEncode Url.querySet t :=
    fun t ht => not_mem_percentEncode (by decide) fun hmem => absurd hmem ht
  by_cases hmem : '=' ∈ piece
  · obtain ⟨name, value, hcut⟩ := exists_cut? hmem
    obtain ⟨rfl, hname⟩ := cut?_eq_some_iff.1 hcut
    have hencode : percentEncode Url.querySet (name ++ '=' :: value) =
        percentEncode Url.querySet name ++ '=' :: percentEncode Url.querySet value := by
      rw [percentEncode_append, percentEncode_cons_of_not (by decide)]
    have hcut' := cut?_eq_some_iff.2 ⟨hencode, hequals name hname⟩
    unfold formPair
    rw [hcut, hcut']
    dsimp only
    rw [formDecode_percentEncode, formDecode_percentEncode]
  · unfold formPair
    rw [cut?_eq_none hmem, cut?_eq_none (hequals piece hmem)]
    dsimp only
    rw [formDecode_percentEncode]

theorem percentEncode_ne_nil {set : Char → Bool} {t : Text} : percentEncode set t ≠ [] ↔ t ≠ [] := by
  cases t with
  | nil => rfl
  | cons c r =>
    refine iff_of_true ?_ (List.cons_ne_nil c r)
    cases hset : set c with
    | false => simp [percentEncode_cons_of_not hset]
    | true =>
      have hbytes : String.utf8EncodeChar c ≠ [] := String.utf8EncodeChar_ne_nil
      obtain ⟨b, bs, hb⟩ := List.exists_cons_of_ne_nil hbytes
      simp [percentEncode, hset, hb, percentByte]

theorem formPairs_percentEncode (query : Text) : formPairs (percentEncode Url.querySet query) = formPairs query := by
  have hsplit : split '&' (percentEncode Url.querySet query) = (split '&' query).map (percentEncode Url.querySet) :=
    split_flatMap rfl (fun _ hc => not_mem_encoded (by decide) hc) query
  have hkept : (fun p : Text => decide (p ≠ [])) ∘ percentEncode Url.querySet = fun p => decide (p ≠ []) :=
    funext fun _ => decide_eq_decide.2 percentEncode_ne_nil
  have hpair : formPair ∘ percentEncode Url.querySet = formPair := funext formPair_percentEncode
  unfold formPairs
  rw [hsplit, List.filter_map, List.map_map, hkept, hpair]

/-! ## Joined pieces -/

theorem split_join {sep : Char} {ps : List Text} (h : ∀ p ∈ ps, sep ∉ p) (hne : ps ≠ []) :
    split sep (join [sep] ps) = ps := by
  induction ps with
  | nil => exact absurd rfl hne
  | cons p ps ih =>
    have hp : split sep p = [p] := split_eq_singleton (h p List.mem_cons_self)
    cases ps with
    | nil => rw [join, List.intercalate_singleton, hp]
    | cons q qs =>
      have hrest := ih (fun r hr => h r (List.mem_cons_of_mem p hr)) (List.cons_ne_nil q qs)
      unfold join at hrest ⊢
      rw [List.intercalate_cons_cons, List.append_assoc, List.singleton_append, split_append, hp, hrest]
      rfl

theorem pieces_join {ps : List Text} (h : ∀ p ∈ ps, '&' ∉ p) : pieces (join "&" ps) = ps.filter (· ≠ []) := by
  cases ps with
  | nil => rfl
  | cons p ps => exact congrArg _ (split_join h (List.cons_ne_nil p ps))

/-! ## The last value of a name -/

/-- The pieces that give a value for a name. -/
def namedPieces (name : Text) (ps : List Text) : List Text := ps.filter fun p => p ≠ [] && (formPair p).1 = name

theorem lookup_eq_find? {α β : Type} [BEq α] [LawfulBEq α] [DecidableEq α] (a : α) (l : List (α × β)) :
    l.lookup a = (l.find? fun p => p.1 = a).map Prod.snd := by
  induction l with
  | nil => rfl
  | cons p l ih =>
    rw [List.lookup_cons, List.find?_cons]
    by_cases hp : a = p.1
    · simp [hp]
    · simp [beq_false_of_ne hp, Ne.symm hp, ih]

/-- The value that counts is that of the last piece with the name. -/
theorem lastValue?_join {ps : List Text} (h : ∀ p ∈ ps, '&' ∉ p) (name : Text) :
    lastValue? name (formPairs (join "&" ps)) = (namedPieces name ps).getLast?.map fun p => (formPair p).2 := by
  have hnamed : (formPairs (join "&" ps)).filter (fun p => p.1 = name) = (namedPieces name ps).map formPair := by
    rw [formPairs_eq, pieces_join h, List.filter_map, List.filter_filter]
    congr 1
    refine List.filter_congr fun p _ => ?_
    rw [Bool.and_comm]
    rfl
  unfold lastValue?
  rw [lookup_eq_find?, ← List.getLast?_filter, hnamed, List.getLast?_map, Option.map_map]
  rfl

/-! ## Reordered pieces -/

/-- A character that may stand in a piece: it ends neither the piece nor the query, and may not stand around a URL. -/
def isPieceChar (c : Char) : Bool := c ≠ '&' && c ≠ '#' && !Url.isMargin c

/-- Two lists of the same pieces, in which the pieces of each name follow one another in the same order. -/
structure Reordered (ps qs : List Text) : Prop where
  perm : ps.Perm qs
  named : ∀ name, namedPieces name ps = namedPieces name qs

theorem namedPieces_eq_nil {name : Text} {ps : List Text} (h : ∀ p ∈ ps, (formPair p).1 ≠ name) :
    namedPieces name ps = [] := by
  refine List.filter_eq_nil_iff.2 fun p hp => ?_
  simp [h p hp]

/-- Only the names that are given have to be looked at. -/
theorem reordered_iff {ps qs : List Text} :
    Reordered ps qs ↔ ps.Perm qs ∧ ∀ p ∈ ps, namedPieces (formPair p).1 ps = namedPieces (formPair p).1 qs := by
  constructor
  · exact fun h => ⟨h.perm, fun p _ => h.named _⟩
  · rintro ⟨hperm, hnamed⟩
    refine ⟨hperm, fun name => ?_⟩
    by_cases hname : ∃ p ∈ ps, (formPair p).1 = name
    · obtain ⟨p, hp, rfl⟩ := hname
      exact hnamed p hp
    · have hps : ∀ p ∈ ps, (formPair p).1 ≠ name := fun p hp h => hname ⟨p, hp, h⟩
      rw [namedPieces_eq_nil hps, namedPieces_eq_nil fun p hp => hps p (hperm.mem_iff.2 hp)]

instance (ps qs : List Text) : Decidable (Reordered ps qs) := decidable_of_iff _ reordered_iff.symm

end Text

namespace Url

theorem stripEnd_eq_self {t : Text} (h : ∀ c ∈ t, isMargin c = false) : stripEnd t = t := by
  have hbreak : ∀ c ∈ t, (!isBreak c) = true := by
    intro c hc
    cases hb : isBreak c with
    | false => rfl
    | true => exact absurd (isMargin_of_isBreak hb) (by simp [h c hc])
  unfold stripEnd
  rw [reverse_dropWhile_reverse fun c hc => h c (List.mem_of_getLast? hc), List.filter_eq_self.2 hbreak]

theorem formPairs_queryOf {query : Text} (h : ∀ c ∈ query, isMargin c = false) :
    Text.formPairs (queryOf query) = Text.formPairs query := by
  rw [queryOf, stripEnd_eq_self h, Text.formPairs_percentEncode]

end Url

/-- The query of a posting URL says what stands behind the question mark. -/
theorem PostingUrl.query_of_read? {base query : Text} {u : PostingUrl} (hbase : '?' ∉ base) (hmark : '#' ∉ base)
    (hfragment : '#' ∉ query) (hmargin : ∀ c ∈ query, Url.isMargin c = false)
    (h : read? (base ++ '?' :: query) = some u) : u.query = Text.formPairs query := by
  obtain ⟨w, hw, rfl⟩ := read?_eq_some_iff.1 h
  obtain ⟨front, -, hread⟩ := Url.exists_read_query hbase hmark
  rw [hread query hfragment] at hw
  obtain ⟨o, -, hsome⟩ := of_map_eq_ok hw
  obtain ⟨w', -, rfl⟩ := Option.map_eq_some_iff.1 hsome
  exact Url.formPairs_queryOf hmargin

/-- Pieces may be joined to a query if no character ends a piece or the query too early. -/
theorem Text.of_isPieceChar {ps : List Text} (h : ∀ p ∈ ps, ∀ c ∈ p, isPieceChar c = true) :
    (∀ p ∈ ps, '&' ∉ p) ∧ '#' ∉ join "&" ps ∧ ∀ c ∈ join "&" ps, Url.isMargin c = false := by
  have hjoin : ∀ c ∈ join "&" ps, c ≠ '#' ∧ Url.isMargin c = false := by
    intro c hc
    obtain hsep | ⟨p, hp, hmem⟩ := mem_join hc
    · obtain rfl := List.mem_singleton.1 hsep
      decide
    · have hchar := h p hp c hmem
      simp only [isPieceChar, Bool.and_eq_true, decide_eq_true_eq, Bool.not_eq_true'] at hchar
      exact ⟨hchar.1.2, hchar.2⟩
  exact ⟨fun p hp hmem => absurd (h p hp _ hmem) (by decide), fun hmem => (hjoin _ hmem).1 rfl,
    fun c hc => (hjoin c hc).2⟩

/-- Behind a text with neither a question mark nor a fragment, pieces of different names may be joined in any order: the
record is the same, or there is none. What counts for a name is the value of the last piece with that name, even if it
is empty. -/
theorem deduce_reordered {base : Text} (hbase : '?' ∉ base) (hmark : '#' ∉ base) {ps qs : List Text}
    (hchars : ∀ p ∈ ps, ∀ c ∈ p, Text.isPieceChar c = true) (h : Text.Reordered ps qs) :
    deduce (base ++ '?' :: Text.join "&" ps) = deduce (base ++ '?' :: Text.join "&" qs) ∧
    ∀ u, PostingUrl.read? (base ++ '?' :: Text.join "&" ps) = some u → ∀ name,
      u.queryValue? name = (Text.namedPieces name ps).getLast?.map fun p => (Text.formPair p).2 := by
  obtain ⟨hps, hpsFragment, hpsMargin⟩ := Text.of_isPieceChar hchars
  obtain ⟨hqs, hqsFragment, hqsMargin⟩ := Text.of_isPieceChar fun p hp => hchars p (h.perm.mem_iff.2 hp)
  constructor
  · refine deduce_query_congr hbase hmark hpsFragment hqsFragment fun name => ?_
    rw [Url.formPairs_queryOf hpsMargin, Url.formPairs_queryOf hqsMargin, Text.lastValue?_join hps,
      Text.lastValue?_join hqs, h.named name]
  · intro u hu name
    unfold PostingUrl.queryValue?
    rw [PostingUrl.query_of_read? hbase hmark hpsFragment hpsMargin hu, Text.lastValue?_join hps]

/-- On Indeed, an identifier that is given once more without a value is taken back, wherever the other pieces stand. -/
theorem deduce_reordered_indeed :
    let base : Text := "https://indeed.com/viewjob"
    let ps : List Text := ["jk=1", "src=li", "%6Ak", "", "vjk=%2B+2"]
    let qs : List Text := ["vjk=%2B+2", "", "jk=1", "%6Ak", "src=li"]
    '?' ∉ base ∧ '#' ∉ base ∧ (∀ p ∈ ps, ∀ c ∈ p, Text.isPieceChar c = true) ∧ Text.Reordered ps qs ∧
      deduce (base ++ '?' :: Text.join "&" ps) = deduce (base ++ '?' :: Text.join "&" qs) ∧
      (deduce (base ++ '?' :: Text.join "&" ps)).map Record.externalId = some "+ 2".toList ∧
      (∃ u, PostingUrl.read? (base ++ '?' :: Text.join "&" ps) = some u ∧ u.queryValue? "jk" = some []) := by
  intro base ps qs
  have hbase : '?' ∉ base := by decide
  have hmark : '#' ∉ base := by decide
  have hchars : ∀ p ∈ ps, ∀ c ∈ p, Text.isPieceChar c = true := by decide
  have horder : Text.Reordered ps qs := by decide +kernel
  obtain ⟨hrecord, hvalues⟩ := deduce_reordered hbase hmark hchars horder
  refine ⟨hbase, hmark, hchars, horder, hrecord, by decide +kernel, ?_⟩
  obtain ⟨u, hu⟩ : ∃ u, PostingUrl.read? (base ++ '?' :: Text.join "&" ps) = some u :=
    Option.isSome_iff_exists.1 (by decide +kernel)
  exact ⟨u, hu, (hvalues u hu "jk").trans (by decide +kernel)⟩

end JobPosting
