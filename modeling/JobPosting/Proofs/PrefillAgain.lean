import JobPosting.Proofs.FrontEnds
import JobPosting.Proofs.Identifiers
import JobPosting.Proofs.JobWords
import JobPosting.Proofs.Kinds
import JobPosting.Proofs.Prefill
import JobPosting.Proofs.Visible

/-!
# Filling a form twice

Filling a form in from the same URL once more leaves it as it is. A slot is named as filled again exactly if blanks
were put into it: a slot with blanks only is open, but a text of blanks is offered as any other text is. Hosts and
segments are visible, so that only texts from the query can be blank: a referral source, or the key of a posting on
Indeed.

* `HostName.visible_company`, `HostName.visible_provider` : what is read off a host is visible.
* `IdSource.visible_or_key` : identifiers are visible, unless they are keys from the query.
* `Slot.offered_iff_of_isBlank` : which blank texts a record offers.
* `JobForm.prefill_twice` : what a second step with one record does.
* `Service.prefill_again` : what a second call does.
* `Service.prefill_again_blank` : a call that fills a slot in again.
-/

namespace JobPosting

/-! ## Visible texts -/

namespace Text

variable {t : Text}

theorem Visible.not_isBlank (h : Visible t) (hne : t ≠ []) : ¬IsBlank t := by
  intro hblank
  obtain ⟨c, r, rfl⟩ := List.exists_cons_of_ne_nil hne
  have hb := isBlank_iff.1 hblank c List.mem_cons_self
  rw [isBlank_eq_false_of_isVisible (h c List.mem_cons_self)] at hb
  cases hb

theorem Visible.of_subset {s : Text} (h : Visible t) (hs : ∀ c ∈ s, c ∈ t) : Visible s := fun c hc => h c (hs c hc)

theorem mem_of_mem_removeFirst {needle : Text} {c : Char} (hc : c ∈ removeFirst needle t) : c ∈ t := by
  induction t with
  | nil => cases hc
  | cons d r ih =>
    rw [removeFirst] at hc
    split at hc
    · rename_i rest hrest
      rw [stripPrefix?_eq_some_iff.1 hrest]
      exact List.mem_append_right needle hc
    · rcases List.mem_cons.1 hc with rfl | hc
      · exact List.mem_cons_self
      · exact List.mem_cons_of_mem d (ih hc)

theorem visible_before (h : Visible t) (sep : Char) : Visible (before sep t) :=
  h.of_subset fun _ hc => List.takeWhile_subset _ hc

theorem visible_getD_nonEmpty? {s : Text} (hs : Visible s) (ht : Visible t) : Visible ((nonEmpty? s).getD t) := by
  cases hn : nonEmpty? s with
  | none => exact ht
  | some given =>
    rw [← (nonEmpty?_eq_some_iff.1 hn).1]
    exact hs

end Text

theorem visible_fingerprint (t : Text) : Text.Visible (fingerprint t) := by
  have hdigit : ∀ v < 16, Text.isVisible (hexDigit v) = true := by decide
  intro c hc
  obtain ⟨k, -, rfl⟩ := List.mem_map.1 hc
  exact hdigit _ (Nat.mod_lt _ (by decide))

namespace HostName

variable {host : Text}

theorem visible_label (h : Text.Visible host) {label : Text} (hl : label ∈ labels host) : Text.Visible label :=
  h.of_subset fun _ hc => Text.mem_of_mem_split hl hc

theorem visible_company (h : Text.Visible host) : Text.Visible (company host) := by
  have hbefore : ∀ label ∈ (beforeSuffix (labels host)).reverse, Text.Visible label :=
    fun label hl => visible_label h (List.mem_of_mem_take (List.mem_reverse.1 hl))
  unfold company
  dsimp only
  split
  · rename_i label hl
    exact hbefore label (List.mem_of_find?_eq_some hl)
  · split
    · rename_i c label rest hrest
      exact hbefore _ (hrest ▸ List.mem_cons_self)
    · exact Text.visible_getD_nonEmpty? (Text.visible_before h '.') h

theorem visible_provider (h : Text.Visible host) : Text.Visible (provider host) := by
  unfold provider
  split
  · decide
  · split
    · exact Text.visible_nil
    · rename_i label hlabels
      exact visible_label h (hlabels ▸ List.mem_cons_self)
    · rename_i first rest _ hlabels
      have hfirst : Text.Visible first := visible_label h (hlabels ▸ List.mem_cons_self)
      have hbefore : ∀ label ∈ beforeSuffix (first :: rest), Text.Visible label :=
        fun label hl => visible_label h (hlabels ▸ List.mem_of_mem_take hl)
      have hchoice : ∀ candidate, Text.Visible candidate → Text.Visible (if candidate = [] then first else candidate) := by
        intro candidate hc
        split
        · exact hfirst
        · exact hc
      apply hchoice
      split
      · rename_i a b more hab
        have ha : Text.Visible a := hbefore a (hab ▸ List.mem_cons_self)
        have hb : Text.Visible b := hbefore b (hab ▸ List.mem_cons_of_mem a List.mem_cons_self)
        split
        · exact hb
        · exact ha
      · rename_i a ha
        exact hbefore a (ha ▸ List.mem_cons_self)
      · exact hfirst

end HostName

/-! ## Layouts -/

theorem EmployerRule.visible_read {u : PostingUrl} (hhost : Text.Visible u.host)
    (hsegments : ∀ s ∈ u.segments, Text.Visible s) (rule : EmployerRule) : Text.Visible (rule.read u) := by
  have hlabel : Text.Visible (HostName.firstLabel u.host) := Text.visible_before hhost '.'
  rcases rule.read_mem_or u with hread | hread
  · exact hsegments _ hread
  · rw [hread]
    cases rule with
    | nowhere => exact Text.visible_nil
    | behind words => exact Text.visible_nil
    | firstLabel => exact hlabel
    | firstLabelUnless own =>
      dsimp only [ofHost]
      split
      · exact Text.visible_nil
      · exact hlabel
    | firstLabelWhere domain =>
      dsimp only [ofHost]
      split
      · exact hlabel
      · exact Text.visible_nil
    | hostWithout domain => exact hhost.of_subset fun _ hc => Text.mem_of_mem_removeFirst hc

/-- What is true of the last resort and of every text of a source is true of the text that is taken. -/
theorem FirstOf.elim {P : Text → Prop} {resort t : Text} {sources : List (Text → Prop)} (h : FirstOf resort sources t)
    (hresort : P resort) (hsources : ∀ source ∈ sources, ∀ s, source s → P s) : P t := by
  induction h with
  | here hs => exact hsources _ List.mem_cons_self _ hs
  | later _ _ ih => exact ih fun source hmem => hsources source (List.mem_cons_of_mem _ hmem)
  | resort => exact hresort

/-- The key of a posting that a URL gives: the value of `jk`, or else that of `vjk`. -/
def PostingUrl.GivesKey (u : PostingUrl) (v : Text) : Prop :=
  u.Gives "jk" v ∨ (∀ w, ¬u.Gives "jk" w) ∧ u.Gives "vjk" v

namespace IdSource

variable {u : PostingUrl} {provider id : Text}

/-- An identifier is visible, unless it is a key on Indeed. -/
theorem visible_or_key (hsegments : ∀ s ∈ u.segments, Text.Visible s) (h : IdSource u provider id) :
    Text.Visible id ∨ provider = "indeed" ∧ u.GivesKey id := by
  have hpage : Text.Visible u.pageFingerprint := visible_fingerprint _
  have hends : ∀ {s}, u.EndsIn s → Text.Visible s := fun hs => hsegments _ (List.mem_of_getLast? hs)
  cases h with
  | number _ hid | code _ hid =>
    left
    rcases hid with ⟨hmem, -⟩ | ⟨rfl, -⟩
    · exact hsegments _ hmem
    · exact hpage
  | last _ hid => exact .inl (hid.elim hpage (List.forall_mem_singleton.2 fun s hs => hends hs.1))
  | numbered hid =>
    have hnumber : ∀ digits, (∃ s, u.EndsIn s ∧ LeadingNumber digits s) → Text.Visible digits := by
      rintro digits ⟨s, -, -, hdigits, -⟩ c hc
      exact Text.isVisible_of_isDigit (hdigits c hc)
    have hcode : ∀ s, u.EndsIn s ∧ IsCode s ∧ isPathWord s = false → Text.Visible s := fun s hs => hends hs.1
    exact .inl (hid.elim hpage (List.forall_mem_cons.2 ⟨hnumber, List.forall_mem_singleton.2 hcode⟩))
  | key hid =>
    cases hid with
    | here hs => exact .inr ⟨rfl, .inl hs⟩
    | later hno hid =>
      cases hid with
      | here hs => exact .inr ⟨rfl, .inr ⟨hno, hs⟩⟩
      | later _ hid => exact .inl (hid.elim hpage (List.forall_mem_singleton.2 fun s hs => hends hs))
  | slug _ hid | ownSlug hid =>
    have hslug : ∀ id, (∃ s ∈ u.segments, id = fingerprint s) → Text.Visible id := by
      rintro id ⟨s, -, rfl⟩
      exact visible_fingerprint s
    exact .inl (hid.elim (visible_fingerprint _) (List.forall_mem_singleton.2 hslug))
  | segment _ hid => exact .inl (hid.elim hpage (List.forall_mem_singleton.2 hsegments))

/-- The key on Indeed is the identifier if there is one. -/
theorem eq_of_key {v : Text} (h : IdSource u provider id) (hp : provider = "indeed") (hv : u.GivesKey v) : id = v := by
  cases h with
  | number hmem | code hmem | last hmem | slug hmem | segment hmem =>
    rw [hp] at hmem
    exact absurd hmem (by decide)
  | numbered => exact absurd hp (by decide)
  | ownSlug => exact absurd hp (by decide)
  | key hid =>
    have hunique : ∀ {name w w'}, u.Gives name w → u.Gives name w' → w = w' :=
      fun hw hw' => Option.some.inj (hw.1.symm.trans hw'.1)
    cases hid with
    | here hs =>
      rcases hv with hv | ⟨hno, -⟩
      · exact hunique hs hv
      · exact absurd hs (hno _)
    | later hno hid =>
      obtain ⟨-, hv⟩ := hv.resolve_left (hno v)
      cases hid with
      | here hs => exact hunique hs hv
      | later hno' _ => exact absurd hv (hno' v)

end IdSource

/-! ## Records -/

/-- A record comes from the layout of the provider that recognizes the host, or from the URL alone. -/
theorem deduceWith_cases (u : PostingUrl) :
    (∃ e ∈ knownLayouts, (Provider.ofLayout e.1 e.2).recognizes u.host = true ∧
      deduceWith knownProviders u = Resolution.matched (.ofUrl u) (e.2.extract u)) ∨
    (∀ p ∈ knownProviders, p.recognizes u.host = false) ∧
      deduceWith knownProviders u = Resolution.unmatched (.ofUrl u) := by
  by_cases hknown : ∃ p ∈ knownProviders, p.recognizes u.host = true
  · obtain ⟨p, hp, hr⟩ := hknown
    obtain ⟨e, he, rfl⟩ := List.mem_map.1 hp
    exact .inl ⟨e, he, hr, deduceWith_of_recognizes hp hr⟩
  · have hnone : ∀ p ∈ knownProviders, p.recognizes u.host = false :=
      fun p hp => Bool.eq_false_iff.2 fun hr => hknown ⟨p, hp, hr⟩
    exact .inr ⟨hnone, deduceWith_of_not_recognizes hnone⟩

theorem deduceWith_foundOn {u : PostingUrl} {source : Text} (h : Referral.ofUrl? u = some source) :
    (deduceWith knownProviders u).foundOn = source := by
  have hreferral : (Resolution.Context.ofUrl u).referral = some source := h
  obtain ⟨e, -, -, hr⟩ | ⟨-, hr⟩ := deduceWith_cases u
  · rw [hr]
    show Resolution.foundOn (Resolution.Context.ofUrl u).referral _ = source
    rw [hreferral]
    rfl
  · rw [hr]
    show (Resolution.Context.ofUrl u).referral.getD ownSite = source
    rw [hreferral]
    rfl

def PostingUrl.IsOnIndeed (u : PostingUrl) : Prop :=
  ∃ p ∈ knownProviders, p.name = "indeed" ∧ p.recognizes u.host = true

section
variable {t v : Text} {u : PostingUrl}

theorem deduceWith_externalId (h : PostingUrl.read? t = some u) (hhost : u.IsOnIndeed) (hv : u.GivesKey v) :
    (deduceWith knownProviders u).externalId = v := by
  obtain ⟨p, hp, hname, hr⟩ := hhost
  obtain ⟨e, he, rfl⟩ := List.mem_map.1 hp
  rw [deduceWith_of_recognizes hp hr]
  exact (Resolution.externalId_matched h).trans ((Layout.idSource he u).eq_of_key hname hv)

/-- What is visible of a record: everything but a referral source and a key on Indeed, which come from the query. -/
structure Record.VisibleFor (u : PostingUrl) (r : Record) : Prop where
  foundOn : Referral.ofUrl? u = none → Text.Visible r.foundOn
  provider : Text.Visible r.provider
  names : ∀ name, r.Names name → Text.Visible name
  externalId : Text.Visible r.externalId ∨ u.IsOnIndeed ∧ u.GivesKey r.externalId
  postingCompany : ∀ name, r.postingCompany = some name → Text.Visible name
  title : r.title = none

theorem visible_ownSite : Text.Visible ownSite := by decide

theorem visible_matched {e : List HostMatcher × Layout} (he : e ∈ knownLayouts) (h : PostingUrl.read? t = some u)
    (hr : (Provider.ofLayout e.1 e.2).recognizes u.host = true) :
    (Resolution.matched (.ofUrl u) (e.2.extract u)).VisibleFor u := by
  obtain ⟨hhost, hsegments⟩ := PostingUrl.visible_of_read? h
  obtain ⟨-, hknown⟩ := known_of_recognizes he hr
  have hproviders : ∀ e ∈ knownLayouts, Text.Visible e.2.provider := by decide +kernel
  have hprovider : Text.Visible (Resolution.matched (.ofUrl u) (e.2.extract u)).provider := by
    rw [hknown.provider]
    exact hproviders e he
  exact {
    foundOn := by
      intro hnone
      show Text.Visible (Resolution.foundOn (Referral.ofUrl? u) _)
      rw [hnone]
      show Text.Visible (if _ then ownSite else _)
      split
      · exact visible_ownSite
      · exact hprovider
    provider := hprovider
    names := by
      intro name hname
      apply Text.visible_of_ne_nil
      intro hne
      rcases Resolution.names_matched hname hne with hread | hcompany
      · rw [← hread]
        exact e.2.employer.visible_read hhost hsegments
      · rw [hcompany]
        exact HostName.visible_company hhost
    externalId := by
      rw [Resolution.externalId_matched h]
      rcases (Layout.idSource he u).visible_or_key hsegments with hvisible | ⟨hname, hkey⟩
      · exact .inl hvisible
      · exact .inr ⟨⟨_, List.mem_map.2 ⟨e, he, rfl⟩, hname, hr⟩, hkey⟩
    postingCompany := by
      intro name hname
      rw [hknown.postingCompany] at hname
      cases hname
    title := hknown.title }

theorem visible_unmatched (h : PostingUrl.read? t = some u) : (Resolution.unmatched (.ofUrl u)).VisibleFor u := by
  obtain ⟨hhost, hsegments⟩ := PostingUrl.visible_of_read? h
  have hunknown := unknown_unmatched u
  have hagencies : ∀ domain ∈ Vocabulary.agencyDomains, Text.Visible (Text.before '.' domain) := by decide +kernel
  exact {
    foundOn := by
      intro hnone
      rw [hunknown.foundOn, hnone]
      exact visible_ownSite
    provider := Text.visible_getD_nonEmpty? (HostName.visible_provider hhost) visible_ownSite
    names := by
      intro name hname
      apply Text.visible_of_ne_nil
      intro hne
      rw [Resolution.names_unmatched hname hne]
      exact HostName.visible_company hhost
    externalId := by
      left
      show Text.Visible (((u.segmentAfter? "job").or (u.lastSegment?.filter (!isStopWord ·))).getD u.pageFingerprint)
      cases hid : (u.segmentAfter? "job").or (u.lastSegment?.filter (!isStopWord ·)) with
      | none => exact visible_fingerprint _
      | some s =>
        apply hsegments
        rcases Option.or_eq_some_iff.1 hid with hs | ⟨-, hs⟩
        · exact PostingUrl.mem_of_segmentAfter? hs
        · exact List.mem_of_getLast? (Option.filter_eq_some_iff.1 hs).1
    postingCompany := by
      intro name hname
      obtain ⟨domain, ⟨hdomain, -⟩, rfl⟩ := (hunknown.postingCompany name).1 hname
      exact hagencies domain hdomain
    title := hunknown.title }

theorem deduceWith_visible (h : PostingUrl.read? t = some u) : (deduceWith knownProviders u).VisibleFor u := by
  obtain ⟨e, he, hrec, hr⟩ | ⟨-, hr⟩ := deduceWith_cases u
  · rw [hr]
    exact visible_matched he h hrec
  · rw [hr]
    exact visible_unmatched h

/-- A record offers a text of blanks in two cases only: as the referral source, and as the key on Indeed. -/
theorem Slot.offered_iff_of_isBlank (h : PostingUrl.read? t = some u) (hv : Text.IsBlank v) {k : Slot} :
    (k.offered (deduceWith knownProviders u) = some v ∧ v ≠ []) ↔
      (k = .foundOn ∧ Referral.ofUrl? u = some v) ∨ (k = .externalId ∧ u.IsOnIndeed ∧ u.GivesKey v) := by
  have hvisible := deduceWith_visible h
  constructor
  · rintro ⟨hoffered, hne⟩
    have hno : ¬Text.Visible v := fun hvis => hvis.not_isBlank hne hv
    cases k with
    | foundOn =>
      cases hreferral : Referral.ofUrl? u with
      | none =>
        cases hoffered
        exact absurd (hvisible.foundOn hreferral) hno
      | some source =>
        cases hoffered
        rw [deduceWith_foundOn hreferral]
        exact .inl ⟨rfl, rfl⟩
    | provider =>
      cases hoffered
      exact absurd hvisible.provider hno
    | providerTenant =>
      cases hoffered
      exact absurd (hvisible.names _ (.inr rfl)) hno
    | externalId =>
      cases hoffered
      exact .inr ⟨rfl, hvisible.externalId.resolve_left hno⟩
    | hiringCompanyName => exact absurd (hvisible.names _ (.inl hoffered)) hno
    | postingCompanyName => exact absurd (hvisible.postingCompany _ hoffered) hno
    | title =>
      have htitle : some v = none := hoffered.symm.trans hvisible.title
      cases htitle
  · rintro (⟨rfl, hreferral⟩ | ⟨rfl, hhost, hkey⟩)
    · refine ⟨congrArg some (deduceWith_foundOn hreferral), ?_⟩
      exact Referral.filled_ofUrl? u v hreferral
    · refine ⟨congrArg some (deduceWith_externalId h hhost hkey), ?_⟩
      rcases hkey with hkey | ⟨-, hkey⟩
      · exact hkey.2
      · exact hkey.2

end

/-! ## Forms -/

namespace JobForm

variable {f : JobForm} {r : Record} {keepTracking : Bool} {k : Slot} {t : Text}

theorem get_of_filling? (h : f.filling? r keepTracking k = some t) :
    (f.prefill r keepTracking).1.get k = some t := by
  rw [get_prefill, h]
  rfl

/-- A step puts a text into a slot once more exactly if the text is blank, as the slot is still open then. -/
theorem filling?_prefill : (f.prefill r keepTracking).1.filling? r keepTracking k = some t ↔
    f.filling? r keepTracking k = some t ∧ Text.IsBlank t := by
  constructor
  · intro h
    obtain ⟨hblank, hoffered, hne, hfree⟩ := filling?_eq_some_iff.1 h
    cases hfirst : f.filling? r keepTracking k with
    | none =>
      have hsame : (f.prefill r keepTracking).1.get k = f.get k := by
        rw [get_prefill, hfirst]
        rfl
      rw [filling?_congr hsame, hfirst] at h
      cases h
    | some v =>
      have hv : some v = some t := (filling?_eq_some_iff.1 hfirst).2.1.symm.trans hoffered
      exact ⟨hv, Text.isBlank_iff.2 (hblank t ((get_of_filling? hfirst).trans hv))⟩
  · rintro ⟨h, hblank⟩
    obtain ⟨-, hrest⟩ := filling?_eq_some_iff.1 h
    refine filling?_eq_some_iff.2 ⟨fun v hv => ?_, hrest⟩
    rw [get_of_filling? h, Option.some.injEq] at hv
    rw [← hv]
    exact Text.isBlank_iff.1 hblank

/-- A second step with the same record leaves the form as it is, and names the slots that the first step put blanks
into. -/
theorem prefill_twice (f : JobForm) (r : Record) (keepTracking : Bool) :
    let again := (f.prefill r keepTracking).1.prefill r keepTracking
    again.1 = (f.prefill r keepTracking).1 ∧ ∀ k, k ∈ again.2 ↔
      k ∈ (f.prefill r keepTracking).2 ∧ ∃ v, Text.IsBlank v ∧ k.offered r = some v ∧ v ≠ [] := by
  intro again
  constructor
  · apply ext_get
    intro k
    rw [get_prefill]
    cases h : (f.prefill r keepTracking).1.filling? r keepTracking k with
    | none => rfl
    | some t => exact (get_of_filling? (filling?_prefill.1 h).1).symm
  · intro k
    rw [mem_filled_iff, mem_filled_iff]
    constructor
    · rintro ⟨t, ht⟩
      obtain ⟨hfirst, hblank⟩ := filling?_prefill.1 ht
      obtain ⟨-, hoffered, hne, -⟩ := filling?_eq_some_iff.1 hfirst
      exact ⟨⟨t, hfirst⟩, t, hblank, hoffered, hne⟩
    · rintro ⟨⟨t, hfirst⟩, v, hblank, hoffered, -⟩
      have hv : some t = some v := (filling?_eq_some_iff.1 hfirst).2.1.symm.trans hoffered
      rw [← Option.some.inj hv] at hblank
      exact ⟨t, filling?_prefill.2 ⟨hfirst, hblank⟩⟩

end JobForm

/-! ## Calls -/

namespace Service

variable {s s' : Service}

theorem IsSound.prefill (h : s.IsSound) (pasted : Text) (form : JobForm) (keepTracking : Bool) :
    (s.prefill pasted form keepTracking).1 =
      match JobPosting.deduce (Pasted.clean pasted) with
      | some r => ⟨Pasted.clean pasted, some r, (form.prefill r keepTracking).1, (form.prefill r keepTracking).2⟩
      | none => ⟨Pasted.clean pasted, none, form, []⟩ := by
  have hdeduce := (h.deduce (Pasted.clean pasted)).1
  unfold Service.prefill
  dsimp only
  rw [hdeduce]
  cases JobPosting.deduce (Pasted.clean pasted) <;> rfl

theorem Reachable.prefill (h : s.Reachable) (pasted : Text) (form : JobForm) (keepTracking : Bool) :
    (s.prefill pasted form keepTracking).2.Reachable := h.deduce (Pasted.clean pasted)

/-- A second call for the same pasted URL and the form that the first one returned, whatever the service did in between,
returns that form again. It names a slot as filled exactly if the first call put blanks into it: the blank referral
source of the URL, or its blank key on Indeed. -/
theorem prefill_again (hs : s.Reachable) (hs' : s'.Reachable) (pasted : Text) (form : JobForm) (keepTracking : Bool) :
    let first := (s.prefill pasted form keepTracking).1
    let second := (s'.prefill pasted first.form keepTracking).1
    second.form = first.form ∧ second.url = first.url ∧ second.outcome = first.outcome ∧
    ∀ k, k ∈ second.filled ↔ k ∈ first.filled ∧
      ∃ u v, PostingUrl.read? (Pasted.clean pasted) = some u ∧ Text.IsBlank v ∧
        ((k = .foundOn ∧ Referral.ofUrl? u = some v) ∨ (k = .externalId ∧ u.IsOnIndeed ∧ u.GivesKey v)) := by
  intro first second
  have hfirst : first = _ := hs.isSound.prefill pasted form keepTracking
  have hsecond : second = _ := hs'.isSound.prefill pasted first.form keepTracking
  cases hu : PostingUrl.read? (Pasted.clean pasted) with
  | none =>
    have hnone : JobPosting.deduce (Pasted.clean pasted) = none := by rw [JobPosting.deduce, hu, Option.map_none]
    rw [hnone] at hfirst hsecond
    rw [hsecond, hfirst]
    refine ⟨rfl, rfl, rfl, fun k => ⟨fun hk => ?_, fun hk => ?_⟩⟩
    · cases hk
    · cases hk.1
  | some u =>
    rw [deduce_of_read? hu] at hfirst hsecond
    obtain ⟨hform, hfilled⟩ := form.prefill_twice (deduceWith knownProviders u) keepTracking
    have hfirstForm : first.form = (form.prefill (deduceWith knownProviders u) keepTracking).1 := by rw [hfirst]
    rw [hfirstForm] at hsecond
    rw [hsecond, hfirst]
    refine ⟨hform, rfl, rfl, fun k => ?_⟩
    dsimp only
    rw [hfilled k]
    apply and_congr Iff.rfl
    constructor
    · rintro ⟨v, hblank, hoffered⟩
      exact ⟨u, v, rfl, hblank, (Slot.offered_iff_of_isBlank hu hblank).1 hoffered⟩
    · rintro ⟨u', v, hu', hblank, hsource⟩
      cases hu'
      exact ⟨v, hblank, (Slot.offered_iff_of_isBlank hu hblank).2 hsource⟩

/-- A service that was started with room for four outcomes. -/
def fresh : Service := ofCache (.ofCapacity 4)

/-- Where neither the referral source nor the identifier is blank, a second call fills nothing in. -/
theorem prefill_again_lever :
    ∃ first : Prefilled × Service, first = fresh.prefill "https://acme.lever.co/abc?src=xing" .empty false ∧
      fresh.Reachable ∧ first.2.Reachable ∧ .foundOn ∈ first.1.filled ∧
      (first.2.prefill "https://acme.lever.co/abc?src=xing" first.1.form false).1.filled = [] := by
  have hfresh : fresh.Reachable := reachable_ofCapacity 4
  have hfirst := hfresh.prefill "https://acme.lever.co/abc?src=xing" .empty false
  have hfoundOn : .foundOn ∈ (fresh.prefill "https://acme.lever.co/abc?src=xing" .empty false).1.filled := by
    decide +kernel
  have hagain := (prefill_again hfresh hfirst "https://acme.lever.co/abc?src=xing" .empty false).2.2.2
  generalize hp : fresh.prefill "https://acme.lever.co/abc?src=xing" .empty false = first at *
  refine ⟨first, rfl, hfresh, hfirst, hfoundOn, ?_⟩
  rw [List.eq_nil_iff_forall_not_mem]
  intro k hk
  obtain ⟨-, u, v, hu, hblank, hsource⟩ := (hagain k).1 hk
  have hread : PostingUrl.read? (Pasted.clean "https://acme.lever.co/abc?src=xing") =
      some ⟨"acme.lever.co", ["abc"], [("src", "xing")], "https://acme.lever.co/abc?src=xing"⟩ := by decide +kernel
  rw [hread] at hu
  obtain rfl := Option.some.inj hu
  rcases hsource with ⟨-, hreferral⟩ | ⟨-, ⟨p, hp, hname, hr⟩, -⟩
  · have hxing : Referral.ofUrl? ⟨"acme.lever.co", ["abc"], [("src", "xing")], "https://acme.lever.co/abc?src=xing"⟩ =
        some "xing".toList := by decide +kernel
    rw [hxing] at hreferral
    obtain rfl := Option.some.inj hreferral
    exact absurd hblank (by decide)
  · have hother : ∀ p ∈ knownProviders, p.name = "indeed" → p.recognizes "acme.lever.co" = false := by decide +kernel
    rw [hother p hp hname] at hr
    cases hr

/-- A key of one blank is filled in again by a second call, and so is a referral source of one blank. -/
theorem prefill_again_blank :
    (let pasted : Text := "https://indeed.com/viewjob?jk=%20"
     let first := fresh.prefill pasted .empty false
     let second := (first.2.prefill pasted first.1.form false).1
     first.1.form.externalId = some " ".toList ∧ second.form = first.1.form ∧ second.filled = [.externalId]) ∧
    (let pasted : Text := "https://acme.lever.co/abc?src=www.+.b"
     let first := fresh.prefill pasted .empty false
     let second := (first.2.prefill pasted first.1.form false).1
     first.1.form.foundOn = some " ".toList ∧ second.form = first.1.form ∧ second.filled = [.foundOn]) := by
  decide +kernel

end Service

end JobPosting
