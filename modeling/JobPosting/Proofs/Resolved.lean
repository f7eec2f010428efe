import JobPosting.Proofs.Kinds
import JobPosting.Proofs.SmallLetters

/-!
# Resolved records

A record has settled all that an extraction left open, so that there is nothing to settle any more: if a provider said
just what the record says, the record would be the same. An empty text says as little as none.

* `Text.DropsEmpty`, `Extraction.DropsEmpty` : empty texts may be left out.
* `Resolution.matched_congr` : a record depends on nothing but the texts that are given.
* `Extraction.ofRecord` : the extraction that says what a record says.
* `Resolution.matched_settled` : resolving is a closure.
-/

namespace JobPosting

/-! ## Texts that may be missing -/

namespace Text

theorem lowercase_lowercase (t : Text) : lowercase (lowercase t) = lowercase t :=
  lowercase_eq_self fun _ hc => isSmall_of_mem_lowercase hc

theorem given_of_filled {o : Option Text} (h : Filled o) : given o = o := by
  cases o with
  | none => rfl
  | some t => exact nonEmpty?_of_ne_nil (h t rfl)

theorem given_some_of_ne_nil {t : Text} (h : t ≠ []) : given (some t) = some t := nonEmpty?_of_ne_nil h

/-- What a chain of two sources gives takes the place of the first source. -/
theorem given_or_again {a : Option Text} (ha : Filled a) (b : Option Text) : (given (a.or b)).or b = a.or b := by
  cases a with
  | none =>
    cases b with
    | none => rfl
    | some t =>
      cases t with
      | nil => rfl
      | cons c r => rfl
  | some t =>
    rw [Option.some_or, given_some_of_ne_nil (ha t rfl)]
    rfl

/-- So does what the chain gives with a last resort behind it. -/
theorem given_getD_again {a : Option Text} (ha : Filled a) (b : Option Text) (d : Text) :
    ((given (some ((a.or b).getD d))).or b).getD d = (a.or b).getD d := by
  cases a with
  | none =>
    rw [Option.none_or]
    cases hvalue : b.getD d with
    | nil => exact hvalue
    | cons c r => rfl
  | some t =>
    rw [Option.some_or, Option.getD_some, given_some_of_ne_nil (ha t rfl)]
    rfl

/-- The second text may be missing where the first one is empty; apart from that they are the same. -/
def DropsEmpty (a b : Option Text) : Prop := b = a ∨ a = some [] ∧ b = none

theorem DropsEmpty.given_eq {a b : Option Text} (h : DropsEmpty a b) : given b = given a := by
  rcases h with rfl | ⟨rfl, rfl⟩
  · rfl
  · rfl

end Text

/-! ## Extractions -/

/-- The second extraction may lack some of the empty texts of the first one; apart from that they are the same. -/
structure Extraction.DropsEmpty (x y : Extraction) : Prop where
  provider : Text.DropsEmpty x.provider y.provider
  tenant : Text.DropsEmpty x.tenant y.tenant
  externalId : Text.DropsEmpty x.externalId y.externalId
  hiringCompany : Text.DropsEmpty x.hiringCompany y.hiringCompany
  postingCompany : Text.DropsEmpty x.postingCompany y.postingCompany
  title : Text.DropsEmpty x.title y.title
  foundOn : Text.DropsEmpty x.foundOn y.foundOn

/-- The extraction that says what a record says. -/
def Extraction.ofRecord (r : Record) : Extraction where
  provider := some r.provider
  tenant := some r.tenant
  externalId := some r.externalId
  hiringCompany := r.hiringCompany
  postingCompany := r.postingCompany
  title := r.title
  foundOn := some r.foundOn

/-! ## Records -/

namespace Resolution

variable {c : Context} {x y : Extraction}

theorem matched_congr (h : x.DropsEmpty y) : matched c y = matched c x := by
  have hprovider : y.givenProvider = x.givenProvider := by
    unfold Extraction.givenProvider
    rw [h.provider.given_eq, h.foundOn.given_eq]
  have htenant : y.givenTenant = x.givenTenant := h.tenant.given_eq
  have hid : y.givenId = x.givenId := h.externalId.given_eq
  have hhiring : y.givenHiringCompany = x.givenHiringCompany := h.hiringCompany.given_eq
  have hposting : y.givenPostingCompany = x.givenPostingCompany := h.postingCompany.given_eq
  have htitle : y.givenTitle = x.givenTitle := h.title.given_eq
  unfold matched tenant
  rw [hprovider, htenant, hid, hhiring, hposting, htitle]

/-- The provider of a record has a name in small letters. -/
theorem provider_matched (c : Context) (x : Extraction) :
    (matched c x).provider ≠ [] ∧ Text.lowercase (matched c x).provider = (matched c x).provider := by
  have hfilled : Text.Filled x.givenProvider := (Text.filled_given _).or (Text.filled_given _)
  show (x.givenProvider.map Text.lowercase).getD ownSite ≠ [] ∧
    Text.lowercase ((x.givenProvider.map Text.lowercase).getD ownSite) =
      (x.givenProvider.map Text.lowercase).getD ownSite
  cases hp : x.givenProvider with
  | none => exact ⟨ownSite_ne_nil, by decide +kernel⟩
  | some p => exact ⟨Text.lowercase_ne_nil (hfilled p hp), Text.lowercase_lowercase p⟩

/-- A tracking system without a tenant has no company either that could stand in for one. -/
theorem hiringCompany_eq_none_of_tenant {provider : Text} (h : isTrackingSystem provider = true)
    (htenant : tenant c x provider = []) : x.givenHiringCompany = none ∧ c.hostCompany = none := by
  have hfilled : Text.Filled (x.givenHiringCompany.or c.hostCompany) :=
    (Text.filled_given _).or (Text.filled_nonEmpty? _)
  unfold tenant at htenant
  split at htenant
  · rename_i t ht
    exact absurd htenant (Text.filled_given _ t ht)
  · rw [if_pos h] at htenant
    cases hcompany : x.givenHiringCompany.or c.hostCompany with
    | none => exact Option.or_eq_none_iff.1 hcompany
    | some t =>
      rw [hcompany] at htenant
      exact absurd htenant (hfilled t hcompany)

theorem Context.hostEmployer_eq_none (h : c.hostCompany = none) : c.hostEmployer = none := by
  unfold hostEmployer
  split
  · rfl
  · exact h

theorem tenant_ofRecord (c : Context) (x : Extraction) :
    tenant c (.ofRecord (matched c x)) (matched c x).provider = (matched c x).tenant := by
  have hself : (matched c x).tenant = tenant c x (matched c x).provider := rfl
  by_cases hempty : (matched c x).tenant = []
  · rw [hempty]
    unfold tenant
    have hgiven : (Extraction.ofRecord (matched c x)).givenTenant = none := by
      show Text.nonEmpty? (matched c x).tenant = none
      rw [hempty]
      rfl
    rw [hgiven]
    dsimp only
    split
    · rename_i htracking
      obtain ⟨hcompany, hhost⟩ := hiringCompany_eq_none_of_tenant htracking (hself.symm.trans hempty)
      have hno : (Extraction.ofRecord (matched c x)).givenHiringCompany = none := by
        show Text.given (x.givenHiringCompany.or c.hostEmployer) = none
        rw [hcompany, Context.hostEmployer_eq_none hhost]
        rfl
      rw [hno, hhost]
      rfl
    · rfl
  · unfold tenant
    have hgiven : (Extraction.ofRecord (matched c x)).givenTenant = some (matched c x).tenant :=
      Text.given_some_of_ne_nil hempty
    rw [hgiven]

/-- A record is settled: nothing changes if a provider says just what the record says. -/
theorem matched_ofRecord (c : Context) (x : Extraction) : matched c (.ofRecord (matched c x)) = matched c x := by
  obtain ⟨hne, hsmall⟩ := provider_matched c x
  have hgiven : (Extraction.ofRecord (matched c x)).givenProvider = some (matched c x).provider := by
    show (Text.given (some (matched c x).provider)).or _ = _
    rw [Text.given_some_of_ne_nil hne]
    rfl
  have hprovider : ((Extraction.ofRecord (matched c x)).givenProvider.map Text.lowercase).getD ownSite =
      (matched c x).provider := by
    rw [hgiven]
    exact hsmall
  have hid : ((Extraction.ofRecord (matched c x)).givenId.or (c.url.lastSegment?.filter (!isPathWord ·))).getD
      c.url.pageFingerprint = (matched c x).externalId := Text.given_getD_again (Text.filled_given _) _ _
  have hhiring : (Extraction.ofRecord (matched c x)).givenHiringCompany.or c.hostEmployer =
      (matched c x).hiringCompany := Text.given_or_again (Text.filled_given _) _
  have hposting : (Extraction.ofRecord (matched c x)).givenPostingCompany.or c.agencyName =
      (matched c x).postingCompany := Text.given_or_again (Text.filled_given _) _
  have htitle : (Extraction.ofRecord (matched c x)).givenTitle = (matched c x).title :=
    Text.given_of_filled (Text.filled_given _)
  rw [matched.eq_def c (.ofRecord (matched c x))]
  dsimp only
  rw [hprovider, tenant_ofRecord, hid, hhiring, hposting, htitle]
  rfl

/-- Resolving is a closure: what a record says is resolved to the same record, and so is an extraction without its empty
texts. -/
theorem matched_settled (c : Context) (x : Extraction) :
    matched c (.ofRecord (matched c x)) = matched c x ∧ ∀ y, x.DropsEmpty y → matched c y = matched c x :=
  ⟨matched_ofRecord c x, fun _ => matched_congr⟩

/-- A tracking system that is only named as the place of the posting; company and tenant are read off the host. -/
theorem matched_settled_lever :
    let c : Context := ⟨⟨"careers.acme.com", ["jobs"], [], "https://careers.acme.com/jobs"⟩, none, none⟩
    let x : Extraction := ⟨some "", some "", some "", none, some "", none, some "LeVeR".toList⟩
    let y : Extraction := ⟨none, some "", none, none, none, none, some "LeVeR".toList⟩
    ((matched c x).provider = "lever" ∧ (matched c x).tenant = "acme" ∧ (matched c x).foundOn = ownSite) ∧
      x.DropsEmpty y ∧ matched c y = matched c x ∧ matched c (.ofRecord (matched c x)) = matched c x := by
  intro c x y
  have hdrops : x.DropsEmpty y := {
    provider := .inr ⟨rfl, rfl⟩
    tenant := .inl rfl
    externalId := .inr ⟨rfl, rfl⟩
    hiringCompany := .inl rfl
    postingCompany := .inr ⟨rfl, rfl⟩
    title := .inl rfl
    foundOn := .inl rfl }
  obtain ⟨hagain, hdropped⟩ := matched_settled c x
  exact ⟨by decide +kernel, hdrops, hdropped y hdrops, hagain⟩

end Resolution

end JobPosting
