import JobPosting.Proofs.Filled
import Mathlib.Data.List.TakeWhile

/-!
# Where identifiers come from

The identifier of a posting is kept for good, so it matters what a layout takes for it. Each known layout takes a text
that stands at a known place of the URL and has a known shape, or the fingerprint of such a text; only if there is none
does the fingerprint of the page take its place.

* `FirstOf` : a text from the first of some sources that has one.
* `Place.readFirst?_coversPath` : places that cover the path have a segment of it, unless it is empty.
* `leadingNumber?_eq_some_iff` : what the number in front of a slug is.
* `IdSource` : the sources of each known provider.
* `known_id_source` : the identifiers of known providers come from these sources, and are never empty.
-/

namespace JobPosting

/-! ## Ordered choice -/

/-- A text from the first of some sources that has one; the last resort if none has. -/
inductive FirstOf (resort : Text) : List (Text → Prop) → Text → Prop where
  | here {source : Text → Prop} {sources : List (Text → Prop)} {t : Text} :
      source t → FirstOf resort (source :: sources) t
  | later {source : Text → Prop} {sources : List (Text → Prop)} {t : Text} :
      (∀ s, ¬source s) → FirstOf resort sources t → FirstOf resort (source :: sources) t
  | resort : FirstOf resort [] resort

/-- Looking up one source after the other. -/
theorem FirstOf.or {resort : Text} {o rest : Option Text} {source : Text → Prop} {sources : List (Text → Prop)}
    (hsource : ∀ s, o = some s ↔ source s) (hrest : FirstOf resort sources (rest.getD resort)) :
    FirstOf resort (source :: sources) ((o.or rest).getD resort) := by
  cases o with
  | some s => exact .here ((hsource s).1 rfl)
  | none =>
    apply FirstOf.later _ hrest
    intro s hs
    cases (hsource s).2 hs

/-! ## Places -/

namespace PostingUrl

variable (u : PostingUrl)

def EndsIn (s : Text) : Prop := u.segments.getLast? = some s

/-- A value that the query gives for a name, and that is not empty. -/
def Gives (name v : Text) : Prop := u.queryValue? name = some v ∧ v ≠ []

theorem given_queryValue?_eq_some_iff (name v : Text) :
    Text.given (u.queryValue? name) = some v ↔ u.Gives name v := Text.given_eq_some_iff

end PostingUrl

def Place.isOnPath : Place → Bool
  | .queryValue _ => false
  | _ => true

/-- Places of the path, with the last segment among them. -/
def coversPath (places : List Place) : Bool := places.all Place.isOnPath && places.contains .lastSegment

section
variable {u : PostingUrl}

theorem Place.mem_of_read? {p : Place} (hp : p.isOnPath = true) {s : Text} (h : p.read? u = some s) :
    s ∈ u.segments := by
  cases p with
  | lastSegment => exact List.mem_of_getLast? h
  | behind word => exact PostingUrl.mem_of_segmentAfter? h
  | queryValue name => cases hp

theorem Place.readFirst?_cons (p : Place) (places : List Place) :
    readFirst? u (p :: places) = (p.read? u).or (readFirst? u places) := by
  unfold readFirst?
  rw [List.findSome?_cons]
  cases p.read? u <;> rfl

theorem Place.readFirst?_coversPath {places : List Place} (h : coversPath places = true) :
    (u.segments = [] ∧ readFirst? u places = none) ∨ ∃ s ∈ u.segments, readFirst? u places = some s := by
  simp only [coversPath, Bool.and_eq_true, List.all_eq_true, List.contains_iff_mem] at h
  obtain ⟨hpath, hlast⟩ := h
  cases hread : readFirst? u places with
  | some s =>
    obtain ⟨p, hp, hs⟩ := List.exists_of_findSome?_eq_some hread
    exact .inr ⟨s, mem_of_read? (hpath p hp) hs, rfl⟩
  | none =>
    have hnone : u.segments.getLast? = none := List.findSome?_eq_none_iff.1 hread _ hlast
    exact .inl ⟨List.getLast?_eq_none_iff.1 hnone, rfl⟩

theorem Place.filled_readFirst? (h : ∀ s ∈ u.segments, s ≠ []) (places : List Place) :
    Text.Filled (readFirst? u places) := by
  apply Text.filled_findSome?
  intro p _
  cases p with
  | lastSegment => exact PostingUrl.filled_lastSegment? h
  | behind word => exact PostingUrl.filled_segmentAfter? h word
  | queryValue name => exact Text.filled_given _

end

/-! ## Shapes -/

/-- At least six digits. -/
def IsNumber (t : Text) : Prop := 6 ≤ t.length ∧ ∀ c ∈ t, Text.isDigit c = true

/-- At least six letters, digits, points, underscores and hyphens. -/
def IsCode (t : Text) : Prop := 6 ≤ t.length ∧ ∀ c ∈ t, Shape.isCodeChar c = true

/-- The digits at the beginning of a text, if a hyphen or the end follows them. -/
def LeadingNumber (digits t : Text) : Prop :=
  digits ≠ [] ∧ (∀ c ∈ digits, Text.isDigit c = true) ∧ (t = digits ∨ ∃ r, t = digits ++ '-' :: r)

theorem Shape.accepts_number_iff {t : Text} : number.accepts t = true ↔ IsNumber t := by
  unfold accepts IsNumber
  rw [Bool.and_eq_true, decide_eq_true_iff, List.all_eq_true]
  rfl

theorem Shape.accepts_code_iff {t : Text} : code.accepts t = true ↔ IsCode t := by
  unfold accepts IsCode
  rw [Bool.and_eq_true, decide_eq_true_iff, List.all_eq_true]
  rfl

theorem Shape.filter_anything (o : Option Text) : o.filter anything.accepts = o := by
  cases o <;> rfl

theorem takeWhile_dropWhile_append {α : Type} {p : α → Bool} {a b : List α} (ha : ∀ c ∈ a, p c = true)
    (hb : ∀ c ∈ b.head?, p c = false) : (a ++ b).takeWhile p = a ∧ (a ++ b).dropWhile p = b := by
  rw [List.takeWhile_append_of_pos ha, List.dropWhile_append_of_pos ha]
  cases b with
  | nil => simp
  | cons c b =>
    have hc : p c = false := hb c rfl
    simp [hc]

theorem leadingNumber?_eq_some_iff {digits t : Text} : leadingNumber? t = some digits ↔ LeadingNumber digits t := by
  constructor
  · intro h
    have hsplit : t.takeWhile Text.isDigit ++ t.dropWhile Text.isDigit = t := List.takeWhile_append_dropWhile
    have hdigits : ∀ c ∈ t.takeWhile Text.isDigit, Text.isDigit c = true := fun c hc => List.mem_takeWhile_imp hc
    unfold leadingNumber? at h
    dsimp only at h
    split at h
    · rename_i hrest
      obtain ⟨rfl, hne⟩ := Text.nonEmpty?_eq_some_iff.1 h
      rw [hrest, List.append_nil] at hsplit
      exact ⟨hne, hdigits, .inl hsplit.symm⟩
    · rename_i c r hrest
      split at h
      · rename_i hc
        obtain ⟨rfl, hne⟩ := Text.nonEmpty?_eq_some_iff.1 h
        rw [hrest, hc] at hsplit
        exact ⟨hne, hdigits, .inr ⟨r, hsplit.symm⟩⟩
      · cases h
  · rintro ⟨hne, hdigits, ht⟩
    have hrest : ∃ r, t = digits ++ r ∧ (r = [] ∨ ∃ s, r = '-' :: s) := by
      rcases ht with rfl | ⟨s, rfl⟩
      · exact ⟨[], (List.append_nil _).symm, .inl rfl⟩
      · exact ⟨'-' :: s, rfl, .inr ⟨s, rfl⟩⟩
    obtain ⟨r, rfl, hr⟩ := hrest
    have hhead : ∀ c ∈ r.head?, Text.isDigit c = false := by
      rcases hr with rfl | ⟨s, rfl⟩
      · simp
      · simp; decide
    obtain ⟨htake, hdrop⟩ := takeWhile_dropWhile_append hdigits hhead
    unfold leadingNumber?
    rw [htake, hdrop]
    have hsome : Text.nonEmpty? digits = some digits := if_neg hne
    rcases hr with rfl | ⟨s, rfl⟩
    · exact hsome
    · simpa using hsome

/-! ## Rules -/

/-- A segment of a shape; the fingerprint of the page only if not every segment has the shape. -/
def PostingUrl.SegmentOrPage (u : PostingUrl) (shape : Text → Prop) (id : Text) : Prop :=
  (id ∈ u.segments ∧ shape id) ∨ id = u.pageFingerprint ∧ (u.segments = [] ∨ ∃ s ∈ u.segments, ¬shape s)

namespace IdRule

variable {u : PostingUrl} {rule : IdRule}

def takesSegment (shape : Shape) : IdRule → Bool
  | .text places s => s = shape && coversPath places
  | _ => false

def takesSlug : IdRule → Bool
  | .slug places => coversPath places
  | _ => false

/-- A rule that takes the fingerprint of a segment, or else of a fixed text. -/
def takesSlugOr (missing : Text) : IdRule → Bool
  | .slugOr places t => t = missing && coversPath places
  | _ => false

theorem read_ne_nil (h : ∀ s ∈ u.segments, s ≠ []) (rule : IdRule) : rule.read u ≠ [] := by
  cases rule with
  | text places shape => exact ((Place.filled_readFirst? h places).filter _).getD (fingerprint_ne_nil _)
  | slug places =>
    have hfilled : Text.Filled ((Place.readFirst? u places).map fingerprint) := by
      apply (Place.filled_readFirst? h places).map
      intro s _
      exact fingerprint_ne_nil s
    exact hfilled.getD (fingerprint_ne_nil _)
  | slugOr places missing => exact fingerprint_ne_nil _
  | numberedSlug =>
    refine Text.Filled.getD (fun id hid => ?_) (fingerprint_ne_nil _)
    unfold numberedSlugId? at hid
    split at hid
    · rename_i digits hdigits
      cases hid
      exact (leadingNumber?_eq_some_iff.1 hdigits).1
    · split at hid
      · rename_i hcode
        cases hid
        rw [Bool.and_eq_true, Shape.accepts_code_iff] at hcode
        have hlen : 6 ≤ (u.lastSegment?.getD []).length := hcode.1.1
        exact List.ne_nil_of_length_pos (by omega)
      · cases hid

theorem read_takesSegment {shape : Shape} (h : rule.takesSegment shape = true) :
    u.SegmentOrPage (fun s => shape.accepts s = true) (rule.read u) := by
  cases rule with
  | text places s =>
    simp only [takesSegment, Bool.and_eq_true, decide_eq_true_iff] at h
    obtain ⟨rfl, hplaces⟩ := h
    show u.SegmentOrPage _ (((Place.readFirst? u places).filter s.accepts).getD u.pageFingerprint)
    obtain ⟨hsegments, hnone⟩ | ⟨t, ht, hsome⟩ := Place.readFirst?_coversPath (u := u) hplaces
    · rw [hnone]
      exact .inr ⟨rfl, .inl hsegments⟩
    · rw [hsome]
      by_cases hshape : s.accepts t = true
      · rw [Option.filter_some, if_pos hshape]
        exact .inl ⟨ht, hshape⟩
      · rw [Option.filter_some, if_neg hshape]
        exact .inr ⟨rfl, .inr ⟨t, ht, hshape⟩⟩
  | slug places => cases h
  | slugOr places missing => cases h
  | numberedSlug => cases h

theorem read_takesSegment_anything (h : rule.takesSegment .anything = true) :
    FirstOf u.pageFingerprint [(· ∈ u.segments)] (rule.read u) := by
  obtain ⟨hmem, -⟩ | ⟨hpage, hnone | ⟨s, -, hs⟩⟩ := read_takesSegment (u := u) h
  · exact .here hmem
  · rw [hpage]
    refine .later (fun s hs => ?_) .resort
    rw [hnone] at hs
    cases hs
  · exact absurd rfl hs

/-- The fingerprint of the text at places that cover the path. -/
theorem firstOf_fingerprint {places : List Place} (h : coversPath places = true) (resort : Text) :
    FirstOf resort [fun id => ∃ s ∈ u.segments, id = fingerprint s]
      (((Place.readFirst? u places).map fingerprint).getD resort) := by
  obtain ⟨hsegments, hnone⟩ | ⟨s, hs, hsome⟩ := Place.readFirst?_coversPath (u := u) h
  · rw [hnone]
    refine .later ?_ .resort
    rintro id ⟨s, hs, -⟩
    rw [hsegments] at hs
    cases hs
  · rw [hsome]
    exact .here ⟨s, hs, rfl⟩

theorem read_takesSlug (h : rule.takesSlug = true) :
    FirstOf u.pageFingerprint [fun id => ∃ s ∈ u.segments, id = fingerprint s] (rule.read u) := by
  cases rule with
  | slug places => exact firstOf_fingerprint h _
  | text places shape => cases h
  | slugOr places missing => cases h
  | numberedSlug => cases h

theorem read_takesSlugOr {missing : Text} (h : rule.takesSlugOr missing = true) :
    FirstOf (fingerprint missing) [fun id => ∃ s ∈ u.segments, id = fingerprint s] (rule.read u) := by
  cases rule with
  | slugOr places t =>
    simp only [takesSlugOr, Bool.and_eq_true, decide_eq_true_iff] at h
    obtain ⟨rfl, hplaces⟩ := h
    show FirstOf _ _ (fingerprint ((Place.readFirst? u places).getD t))
    rw [← Option.getD_map fingerprint]
    exact firstOf_fingerprint hplaces _
  | text places shape => cases h
  | slug places => cases h
  | numberedSlug => cases h

theorem read_notPathWord :
    FirstOf u.pageFingerprint [fun id => u.EndsIn id ∧ isPathWord id = false]
      ((text [.lastSegment] .notPathWord).read u) := by
  have hread : (Place.readFirst? u [.lastSegment]).filter Shape.notPathWord.accepts =
      (u.lastSegment?.filter Shape.notPathWord.accepts).or none := by
    rw [Place.readFirst?_cons, Option.or_none]
    exact congrArg _ Option.or_none
  show FirstOf _ _ (((Place.readFirst? u [.lastSegment]).filter Shape.notPathWord.accepts).getD u.pageFingerprint)
  rw [hread]
  apply FirstOf.or _ .resort
  intro s
  rw [Option.filter_eq_some_iff]
  exact and_congr Iff.rfl (by simp [Shape.accepts])

theorem read_numberedSlug :
    FirstOf u.pageFingerprint
      [fun id => ∃ s, u.EndsIn s ∧ LeadingNumber id s, fun id => u.EndsIn id ∧ IsCode id ∧ isPathWord id = false]
      (numberedSlug.read u) := by
  have hread : numberedSlugId? (u.lastSegment?.getD []) =
      (u.lastSegment?.bind leadingNumber?).or
        ((u.lastSegment?.filter fun s => Shape.code.accepts s && !isPathWord s).or none) := by
    cases hlast : u.lastSegment? with
    | none => rfl
    | some s =>
      show numberedSlugId? s = (leadingNumber? s).or _
      unfold numberedSlugId?
      cases leadingNumber? s with
      | some digits => rfl
      | none => rw [Option.none_or, Option.or_none, Option.filter_some]
  show FirstOf _ _ ((numberedSlugId? (u.lastSegment?.getD [])).getD u.pageFingerprint)
  rw [hread]
  refine FirstOf.or (fun id => ?_) (FirstOf.or (fun id => ?_) .resort)
  · rw [Option.bind_eq_some_iff]
    exact exists_congr fun s => and_congr Iff.rfl leadingNumber?_eq_some_iff
  · rw [Option.filter_eq_some_iff, Bool.and_eq_true, Shape.accepts_code_iff, Bool.not_eq_true']
    rfl

/-- The first of two values that the query gives, or else the last segment. -/
theorem read_queryValues (name other : Text) :
    FirstOf u.pageFingerprint [u.Gives name, u.Gives other, u.EndsIn]
      ((text [.queryValue name, .queryValue other, .lastSegment] .anything).read u) := by
  have hread : (Place.readFirst? u [.queryValue name, .queryValue other, .lastSegment]).filter Shape.anything.accepts =
      (Text.given (u.queryValue? name)).or ((Text.given (u.queryValue? other)).or (u.lastSegment?.or none)) := by
    rw [Shape.filter_anything, Place.readFirst?_cons, Place.readFirst?_cons, Place.readFirst?_cons]
    rfl
  show FirstOf _ _ (((Place.readFirst? u _).filter Shape.anything.accepts).getD u.pageFingerprint)
  rw [hread]
  exact .or (u.given_queryValue?_eq_some_iff name)
    (.or (u.given_queryValue?_eq_some_iff other) (.or (fun _ => Iff.rfl) .resort))

end IdRule

/-! ## Known providers -/

namespace IdSource

-- The providers that treat identifiers alike.

def numberProviders : List Text := ["linkedin", "greenhouse"]

def codeProviders : List Text := ["stepstone", "glassdoor", "monster", "personio"]

def lastProviders : List Text := ["ziprecruiter", "workday"]

def slugProviders : List Text := ["weworkremotely", "wellfound", "remotive", "xing"]

def segmentProviders : List Text :=
  ["smartrecruiters", "teamtailor", "workable", "lever", "jazzhr", "ashby", "recruitee", "bamboohr", "icims", "jobvite",
    "breezyhr", "comeet", "pinpoint", "reed", "totaljobs", "cv-library", "nofluffjobs", "pracuj"]

end IdSource

/-- Where the identifiers of the known providers come from. -/
inductive IdSource (u : PostingUrl) : Text → Text → Prop where
  | number {provider id : Text} : provider ∈ IdSource.numberProviders → u.SegmentOrPage IsNumber id →
      IdSource u provider id
  | code {provider id : Text} : provider ∈ IdSource.codeProviders → u.SegmentOrPage IsCode id → IdSource u provider id
  /-- The last segment, unless it is a word that says nothing. -/
  | last {provider id : Text} : provider ∈ IdSource.lastProviders →
      FirstOf u.pageFingerprint [fun s => u.EndsIn s ∧ isPathWord s = false] id → IdSource u provider id
  /-- The number in front of the last segment, or else the segment itself if it looks like a code. -/
  | numbered {id : Text} :
      FirstOf u.pageFingerprint
        [fun n => ∃ s, u.EndsIn s ∧ LeadingNumber n s, fun s => u.EndsIn s ∧ IsCode s ∧ isPathWord s = false] id →
      IdSource u "join" id
  | key {id : Text} : FirstOf u.pageFingerprint [u.Gives "jk", u.Gives "vjk", u.EndsIn] id → IdSource u "indeed" id
  | slug {provider id : Text} : provider ∈ IdSource.slugProviders →
      FirstOf u.pageFingerprint [fun id => ∃ s ∈ u.segments, id = fingerprint s] id → IdSource u provider id
  /-- Without a segment, the identifier is the same for every URL. -/
  | ownSlug {id : Text} : FirstOf (fingerprint "dynamitejobs") [fun id => ∃ s ∈ u.segments, id = fingerprint s] id →
      IdSource u "dynamitejobs" id
  | segment {provider id : Text} : provider ∈ IdSource.segmentProviders →
      FirstOf u.pageFingerprint [(· ∈ u.segments)] id → IdSource u provider id

/-- The rules of the known providers, in the groups of `IdSource`. -/
theorem id_knownLayouts : ∀ e ∈ knownLayouts,
    (e.2.provider ∈ IdSource.numberProviders ∧ e.2.id.takesSegment .number = true) ∨
    (e.2.provider ∈ IdSource.codeProviders ∧ e.2.id.takesSegment .code = true) ∨
    (e.2.provider ∈ IdSource.lastProviders ∧ e.2.id = .text [.lastSegment] .notPathWord) ∨
    (e.2.provider = "join" ∧ e.2.id = .numberedSlug) ∨
    (e.2.provider = "indeed" ∧ e.2.id = .text [.queryValue "jk", .queryValue "vjk", .lastSegment] .anything) ∨
    (e.2.provider ∈ IdSource.slugProviders ∧ e.2.id.takesSlug = true) ∨
    (e.2.provider = "dynamitejobs" ∧ e.2.id.takesSlugOr "dynamitejobs" = true) ∨
    (e.2.provider ∈ IdSource.segmentProviders ∧ e.2.id.takesSegment .anything = true) := by
  decide +kernel

theorem Layout.idSource {e : List HostMatcher × Layout} (he : e ∈ knownLayouts) (u : PostingUrl) :
    IdSource u e.2.provider (e.2.id.read u) := by
  have hnumber : (fun s => Shape.number.accepts s = true) = IsNumber := funext fun _ => propext Shape.accepts_number_iff
  have hcode : (fun s => Shape.code.accepts s = true) = IsCode := funext fun _ => propext Shape.accepts_code_iff
  rcases id_knownLayouts e he with ⟨hp, hid⟩ | ⟨hp, hid⟩ | ⟨hp, hid⟩ | ⟨hp, hid⟩ | ⟨hp, hid⟩ | ⟨hp, hid⟩ | ⟨hp, hid⟩ |
    ⟨hp, hid⟩
  · exact .number hp (hnumber ▸ IdRule.read_takesSegment hid)
  · exact .code hp (hcode ▸ IdRule.read_takesSegment hid)
  · exact .last hp (hid ▸ IdRule.read_notPathWord)
  · rw [hp, hid]
    exact .numbered IdRule.read_numberedSlug
  · rw [hp, hid]
    exact .key (IdRule.read_queryValues _ _)
  · exact .slug hp (IdRule.read_takesSlug hid)
  · rw [hp]
    exact .ownSlug (IdRule.read_takesSlugOr hid)
  · exact .segment hp (IdRule.read_takesSegment_anything hid)

theorem Resolution.externalId_matched {t : Text} {u : PostingUrl} (h : PostingUrl.read? t = some u) {l : Layout} :
    (matched (.ofUrl u) (l.extract u)).externalId = l.id.read u := by
  have hne := IdRule.read_ne_nil (PostingUrl.segments_ne_nil h) l.id
  have hgiven : (l.extract u).givenId = some (l.id.read u) := if_neg hne
  show ((l.extract u).givenId.or _).getD _ = l.id.read u
  rw [hgiven]
  rfl

/-- Every known provider, asked about any posting URL, takes an identifier that is not empty from its own source, and
says nothing about the posting company, the title and the place where the posting was found. -/
theorem known_id_source {t : Text} {u : PostingUrl} (h : PostingUrl.read? t = some u) :
    ∀ p ∈ knownProviders,
      (∃ id, (p.extract u).externalId = some id ∧ id ≠ [] ∧ IdSource u p.name id) ∧
      (p.extract u).postingCompany = none ∧ (p.extract u).title = none ∧ (p.extract u).foundOn = none := by
  intro p hp
  obtain ⟨e, he, rfl⟩ := List.mem_map.1 hp
  refine ⟨⟨e.2.id.read u, rfl, ?_, Layout.idSource he u⟩, rfl, rfl, rfl⟩
  exact IdRule.read_ne_nil (PostingUrl.segments_ne_nil h) e.2.id

/-- On a page of another site, the layout of join takes the number in front of the last segment. -/
theorem known_id_source_join :
    ∃ p ∈ knownProviders, p.name = "join" ∧
      ∃ id, (p.extract ⟨"lever.co", ["a", "14702571-cook"], [], "https://lever.co/a/14702571-cook"⟩).externalId = some id ∧
        id ≠ [] ∧ IdSource ⟨"lever.co", ["a", "14702571-cook"], [], "https://lever.co/a/14702571-cook"⟩ p.name id := by
  have hread : PostingUrl.read? "https://lever.co/a/14702571-cook" =
      some ⟨"lever.co", ["a", "14702571-cook"], [], "https://lever.co/a/14702571-cook"⟩ := by decide +kernel
  have hjoin : ∃ p ∈ knownProviders, p.name = "join" := by decide +kernel
  obtain ⟨p, hp, hname⟩ := hjoin
  exact ⟨p, hp, hname, (known_id_source hread p hp).1⟩

end JobPosting
