import JobPosting.Proofs.CommandLines
import JobPosting.Proofs.Memoization
import JobPosting.Proofs.Requests
import JobPosting.Proofs.Shapes

/-!
# All front ends tell the same

A URL has one record, whoever asks for it: a request for it alone, a batch, a form that is filled in from it after
clean-up, or a command line. The state of the application makes no difference.

* `Service.Reachable` : the states of a service after calls that interleave in any way; a request leads from one to
  another (`App.reachable_handle`), and the outcomes are those of `deduce` in all of them (`Reachable.deduceAll_fst`).
* `Request.of_batch` : the URLs of a batch are those that its body says.
* `App.value?` : the value that is answered to a request; `App.value?_batch`, `App.value?_single` and
  `App.value?_prefill` say what it is.
* `front_ends_agree` : all of them side by side.
* `front_ends_agree_flag` : a URL that is taken for a flag.
-/

namespace JobPosting

/-! ## States -/

theorem Cache.not_holds_of_size {c : Cache} (h : c.size = 0) (key : Text) (outcome : Outcome) :
    ¬c.Holds key outcome := by
  cases c with
  | null => exact id
  | broken => exact id
  | memory m =>
    have hempty : m.entries = [] := List.length_eq_zero_iff.1 h
    show (key, outcome) ∉ m.entries
    rw [hempty]
    exact List.not_mem_nil

theorem Traffic.run_append {σ : Type} [CacheLike σ] (w : Traffic σ) (es fs : List Event) :
    w.run (es ++ fs) = (w.run es).run fs :=
  List.foldl_append

namespace Service

/-- Whatever is remembered is right. -/
def IsSound (s : Service) : Prop := ∀ key outcome, s.cache.Holds key outcome → outcome = JobPosting.deduce key

variable {s : Service}

theorem IsSound.deduce (h : s.IsSound) (t : Text) :
    (s.deduce t).1 = JobPosting.deduce t ∧ (s.deduce t).2.IsSound := by
  have hlook : (s.look t).2.IsSound := fun key outcome hk => h key outcome (Cache.holds_of_get hk)
  by_cases hhit : ∃ outcome, (s.look t).1 = .hit outcome
  · obtain ⟨outcome, hhit⟩ := hhit
    rw [deduce_of_hit hhit]
    exact ⟨h t outcome (Cache.holds_of_hits hhit), hlook⟩
  · rw [not_exists] at hhit
    rw [deduce_of_missed hhit]
    refine ⟨rfl, fun key outcome hk => ?_⟩
    rcases Cache.holds_of_put hk with he | hk
    · cases he
      rfl
    · exact hlook key outcome hk

theorem IsSound.deduceAll_fst (h : s.IsSound) (ts : List Text) :
    (s.deduceAll ts).1 = ts.map JobPosting.deduce := by
  induction ts generalizing s with
  | nil => rfl
  | cons t ts ih =>
    obtain ⟨hfst, hsnd⟩ := h.deduce t
    rw [deduceAll_cons, hfst, ih hsnd, List.map_cons]

/-- The service was started with an empty cache, and has been called; the calls may have interleaved in any way. -/
def Reachable (s : Service) : Prop :=
  ∃ (c : Cache) (es : List Traffic.Event), c.size = 0 ∧ s = ((Traffic.ofCache c).run es).service

theorem reachable_ofCapacity (n : Nat) : (ofCache (Cache.ofCapacity n)).Reachable := by
  refine ⟨_, [], ?_, rfl⟩
  unfold Cache.ofCapacity
  split
  · rfl
  · rfl

theorem Reachable.isSound (h : s.Reachable) : s.IsSound := by
  obtain ⟨c, es, hc, rfl⟩ := h
  have hempty := Cache.not_holds_of_size hc
  have hsound := (Traffic.sound_ofCache c).run (Cache.contents_holds.hits_holdOnlyPuts hempty) es
  intro key outcome hk
  exact hsound.cache.holds_eq (Cache.contents_holds.holdsOnlyPuts hempty) hk

theorem Reachable.deduceAll_fst (h : s.Reachable) (ts : List Text) :
    (s.deduceAll ts).1 = ts.map JobPosting.deduce :=
  h.isSound.deduceAll_fst ts

theorem Reachable.deduce (h : s.Reachable) (t : Text) : (s.deduce t).2.Reachable := by
  obtain ⟨c, es, hc, rfl⟩ := h
  let w := (Traffic.ofCache c).run es
  obtain ⟨call, -, -, hrun⟩ := run_deduce w.service w.calls t
  refine ⟨c, es ++ .arrival t :: List.replicate 3 (.turn w.calls.length), hc, ?_⟩
  rw [Traffic.run_append]
  exact (congrArg Traffic.service hrun).symm

theorem Reachable.deduceAll (h : s.Reachable) (ts : List Text) : (s.deduceAll ts).2.Reachable := by
  induction ts generalizing s with
  | nil => exact h
  | cons t ts ih =>
    rw [deduceAll_cons]
    exact ih (h.deduce t)

end Service

theorem App.reachable_handle {a : App} (h : a.service.Reachable) (r : Request) :
    (a.handle r).2.service.Reachable := by
  obtain ⟨ts, hts, -⟩ := App.handle_snd a r
  rw [hts]
  exact h.deduceAll ts

/-! ## Requests -/

namespace Json

/-- The value of the first field of this name. -/
def get? (name : Text) : Json → Option Json
  | .object fields => fields.lookup name
  | _ => none

def ofTexts (ts : List Text) : Json := .list (ts.map Json.text)

theorem textItems_itemSpellings (ts : List Text) (r : List Token) :
    textItems false ((itemSpellings (ts.map Json.text)).flatMap (.comma :: ·) ++ .closeList :: r) = .ok (ts, r) := by
  induction ts with
  | nil => rfl
  | cons t ts ih =>
    show (textItems false ((itemSpellings (ts.map Json.text)).flatMap (.comma :: ·) ++ .closeList :: r)).map _ = _
    rw [ih]
    rfl

theorem reads_textList (ts : List Text) : Reads textList (ofTexts ts) ts := by
  intro r
  cases ts with
  | nil => rfl
  | cons t ts =>
    have hspelling : spelling (ofTexts (t :: ts)) ++ r = .openList :: .text (some t) ::
        ((itemSpellings (ts.map Json.text)).flatMap (.comma :: ·) ++ .closeList :: r) := by
      simp [ofTexts, spelling, itemSpellings, intercalate_cons]
    rw [hspelling]
    show (textItems false ((itemSpellings (ts.map Json.text)).flatMap (.comma :: ·) ++ .closeList :: r)).map _ = _
    rw [textItems_itemSpellings]
    rfl

end Json

namespace Request

theorem reads_batchShape (us : List Text) :
    Json.Reads batchShape (.object [("urls".toList, Json.ofTexts us)]) (some us) :=
  Json.reads_struct_object (.known rfl rfl ((Json.reads_textList us).map some) (.nil _)) rfl

theorem readBody_batchShape {r : Request} {us : List Text} (hbody : r.jsonBody = .ok r.body)
    (htext : Json.Says r.body (.object [("urls".toList, Json.ofTexts us)])) :
    r.readBody batchShape = .ok (some us) := by
  unfold readBody
  rw [hbody]
  dsimp only
  rw [Json.readAs_of_reads (reads_batchShape us) htext.tokens]

/-- A batch that is accepted is not empty, and holds the URLs that the body says. -/
theorem of_batch {limit : Nat} {r : Request} {us : List Text} (h : r.batch limit = .ok us) :
    us ≠ [] ∧ ∀ vs, Json.Says r.body (.object [("urls".toList, Json.ofTexts vs)]) → us = vs := by
  obtain ⟨given, hread, hcheck⟩ := exists_checkBatch h
  obtain ⟨rfl, hne, -, -⟩ := checkBatch_eq_ok_iff.1 hcheck
  refine ⟨hne, fun vs hsays => ?_⟩
  rw [readBody_batchShape (jsonBody_of_readBody hread) hsays] at hread
  cases hread
  rfl

end Request

namespace App

variable {a : App} {r : Request} {v : Json}

/-- The value that is answered to a request with status 200. -/
def value? (a : App) (r : Request) : Option Json :=
  match (a.handle r).1.content with
  | .json v => if (a.handle r).1.status = 200 then some v else none
  | _ => none

theorem of_value? (h : a.value? r = some v) : (a.handle r).1.status = 200 ∧ (a.handle r).1.content = .json v := by
  unfold value? at h
  split at h
  · rename_i w hw
    split at h
    · rename_i hstatus
      rw [hw, Option.some.inj h]
      exact ⟨hstatus, rfl⟩
    · cases h
  · cases h

/-- A value comes from the resource at the path. -/
theorem answer_of_value? {route : Route} (hpath : r.path = route.path) (hm : r.method ≠ "HEAD".toList)
    (h : a.value? r = some v) : (a.answer route r).1.status = 200 ∧ (a.answer route r).1.content = .json v := by
  obtain ⟨hstatus, hcontent⟩ := of_value? h
  by_cases hreach : ∃ route, a.Reaches r route
  · obtain ⟨route', hr⟩ := hreach
    have hsame : some route' = some route := by
      rw [← Route.at?_eq_some_iff.2 hr.path, Route.at?_eq_some_iff.2 hpath.symm]
    obtain rfl := Option.some.inj hsame
    rw [← handle_fst hr hm]
    exact ⟨hstatus, hcontent⟩
  · exact absurd hstatus (handle_of_not_reaches (not_exists.1 hreach)).1

theorem of_answerTo {α : Type} {data : Except RequestError α} {f : α → Response × App}
    (h : (a.answerTo data f).1.status = 200 ∧ (a.answerTo data f).1.content = .json v) :
    ∃ d, data = .ok d ∧ (f d).1.content = .json v := by
  cases data with
  | ok d => exact ⟨d, rfl, h.2⟩
  | error e => exact absurd h.1 e.status_response_ne

theorem value?_batch (ha : a.service.Reachable) (hpath : r.path = "/api/deduce".toList)
    (hm : r.method = "POST".toList) (h : a.value? r = some v) :
    ∃ us, r.batch a.maxBatch = .ok us ∧ v = batchJson us (us.map JobPosting.deduce) := by
  have hroute : r.path = Route.path .deduce := hpath
  have hanswer := answer_of_value? hroute (by rw [hm]; decide) h
  rw [answer, if_pos hm] at hanswer
  obtain ⟨us, hus, hcontent⟩ := of_answerTo hanswer
  refine ⟨us, hus, ?_⟩
  rw [← ha.deduceAll_fst us]
  exact (Content.json.inj hcontent).symm

theorem value?_single (ha : a.service.Reachable) (hpath : r.path = "/api/deduce".toList)
    (hm : r.method = "GET".toList) (h : a.value? r = some v) :
    ∃ u, r.singleUrl = .ok u ∧ v = Record.answer (JobPosting.deduce u) := by
  have hroute : r.path = Route.path .deduce := hpath
  have hanswer := answer_of_value? hroute (by rw [hm]; decide) h
  rw [answer, if_neg (by rw [hm]; decide)] at hanswer
  obtain ⟨u, hu, hcontent⟩ := of_answerTo hanswer
  refine ⟨u, hu, ?_⟩
  rw [← (ha.isSound.deduce u).1]
  exact (Content.json.inj hcontent).symm

/-- The value that is answered to a request to fill in a form tells what the service does with its data. -/
theorem of_value?_prefill (hpath : r.path = "/api/prefill".toList) (hm : r.method = "POST".toList)
    (h : a.value? r = some v) :
    ∃ d, r.prefill = .ok d ∧ v = (a.service.prefill d.url d.form d.keepTracking).1.toJson := by
  have hroute : r.path = Route.path .prefill := hpath
  have hanswer := answer_of_value? hroute (by rw [hm]; decide) h
  obtain ⟨d, hd, hcontent⟩ := of_answerTo hanswer
  exact ⟨d, hd, (Content.json.inj hcontent).symm⟩

theorem value?_prefill (ha : a.service.Reachable) (hpath : r.path = "/api/prefill".toList)
    (hm : r.method = "POST".toList) (h : a.value? r = some v) :
    ∃ d p, r.prefill = .ok d ∧ v = Service.Prefilled.toJson p ∧ p.url = Pasted.clean d.url ∧
      p.outcome = JobPosting.deduce (Pasted.clean d.url) := by
  obtain ⟨d, hd, hv⟩ := of_value?_prefill hpath hm h
  exact ⟨d, _, hd, hv, rfl, (ha.isSound.deduce _).1⟩

end App

/-! ## All front ends -/

/-- The value is the record of the URL: every request for this URL alone that is answered with status 200 is answered
with it, in whatever state the application is, and it is empty if the URL is unusable. -/
structure Tells (u : Text) (record : Json) : Prop where
  record_eq : record = Record.answer (deduce u)
  single : ∀ {b : App} {q : Request} {w : Json}, b.service.Reachable → q.path = "/api/deduce".toList →
    q.method = "GET".toList → q.singleUrl = .ok u → b.value? q = some w → w = record
  unusable : PostingUrl.read? u = none → record = .object []

theorem tells_answer (u : Text) : Tells u (Record.answer (deduce u)) where
  record_eq := rfl
  single := by
    intro b q w hb hpath hmethod hu hw
    obtain ⟨u', hu', rfl⟩ := App.value?_single hb hpath hmethod hw
    rw [hu] at hu'
    cases hu'
    rfl
  unusable := by
    intro h
    rw [deduce, h]
    rfl

theorem batchJson_items (us : List Text) :
    (App.batchJson us (us.map deduce)).get? "items" = some (.list (us.map Output.item)) := by
  have hzip : us.zip (us.map deduce) = Output.found us := by
    induction us with
    | nil => rfl
    | cons u us ih => rw [List.map_cons, List.zip_cons_cons, ih]; rfl
  show some (Json.list ((us.zip (us.map deduce)).map _)) = _
  rw [hzip, Output.found, List.map_map]
  rfl

/-- A command line prints the record of a URL. -/
def Output.PrintsRecord (color : Bool) (arguments : List Text) (u : Text) : Prop :=
  ∃ w record, Prints color arguments w ∧ Tells u record ∧ w.Same record ∧ (record = .object [] → w = record)

theorem printsRecord_of_asks {clean : Bool} {u : Text} {arguments : List Text} (h : Command.Asks clean [u] arguments)
    (color : Bool) : Output.PrintsRecord color arguments (if clean then Pasted.clean u else u) := by
  have hprints := Output.prints_jsonOf (List.cons_ne_nil _ _) h color
  have hone : Output.jsonOf (Output.found (if clean then [u].map Pasted.clean else [u])) =
      Record.answer (deduce (if clean then Pasted.clean u else u)) := by
    cases clean <;> rfl
  rw [hone] at hprints
  refine ⟨_, _, hprints, tells_answer _, Json.sortKeys_same (Record.isPlain_answer _), fun hempty => ?_⟩
  rw [hempty, Json.sortKeys, Json.sortFields, List.mergeSort_nil]

/-- All front ends tell the same about a URL. In every state of the application: the items of a batch that is answered
carry the records of its URLs in their order, and a command line that asks for these URLs prints the same list, or the
record alone if there is only one; and a form that is filled in comes with the URL after clean-up and with the record
that is printed for a command line with clean-up. The records are those that every request for the URL alone is
answered with. -/
theorem front_ends_agree {a : App} (ha : a.service.Reachable) {r : Request} {v : Json} (hv : a.value? r = some v) :
    (r.path = "/api/deduce".toList → r.method = "POST".toList → ∃ us items,
      r.batch a.maxBatch = .ok us ∧ us ≠ [] ∧
      (∀ vs, Json.Says r.body (.object [("urls".toList, Json.ofTexts vs)]) → us = vs) ∧
      v.get? "items" = some (.list items) ∧
      List.Forall₂ (fun u item => ∃ record, Tells u record ∧
        item = .object [("url".toList, .text u), ("fields".toList, record)]) us items ∧
      ∀ color arguments, Command.Asks false us arguments →
        (2 ≤ us.length → ∃ w, Output.Prints color arguments w ∧ w.Same (.list items)) ∧
        ∀ u, us = [u] → Output.PrintsRecord color arguments u) ∧
    (r.path = "/api/prefill".toList → r.method = "POST".toList → ∃ d record,
      r.prefill = .ok d ∧ v.get? "url" = some (.text (Pasted.clean d.url)) ∧ v.get? "deduced" = some record ∧
      Tells (Pasted.clean d.url) record ∧
      ∀ color arguments, Command.Asks true [d.url] arguments →
        Output.PrintsRecord color arguments (Pasted.clean d.url)) := by
  constructor
  · intro hpath hmethod
    obtain ⟨us, hus, rfl⟩ := App.value?_batch ha hpath hmethod hv
    obtain ⟨hne, hsays⟩ := Request.of_batch hus
    refine ⟨us, us.map Output.item, hus, hne, hsays, batchJson_items us, ?_,
      fun color arguments hask => ⟨fun htwo => ?_, ?_⟩⟩
    · rw [List.forall₂_map_right_iff, List.forall₂_same]
      exact fun u _ => ⟨_, tells_answer u, rfl⟩
    · refine ⟨_, Output.prints_jsonOf hne hask color, ?_⟩
      rw [← Output.jsonOf_found htwo]
      exact Json.sortKeys_same (Output.isPlain_jsonOf_found us)
    · rintro u rfl
      exact printsRecord_of_asks hask color
  · intro hpath hmethod
    obtain ⟨d, p, hd, rfl, hurl, houtcome⟩ := App.value?_prefill ha hpath hmethod hv
    refine ⟨d, Record.answer p.outcome, hd, ?_, rfl, ?_, fun color arguments hask => printsRecord_of_asks hask color⟩
    · rw [← hurl]
      rfl
    · rw [houtcome]
      exact tells_answer _

/-- An application that has just been started. -/
def freshApp : App := ⟨.ofCache (.ofCapacity 1), 100, false⟩

/-- A batch of a posting and of a text that is no URL. -/
def pairRequest : Request :=
  ⟨"POST", "/api/deduce", [("Content-Type", "application/json")],
    "\x7b\"urls\": [\"https://acme.lever.co/1\", \"no URL\"]\x7d", some "10.0.0.1", false⟩

/-- A request to fill in a form from a posting that is pasted with blanks and a fragment. -/
def pastedRequest : Request :=
  ⟨"POST", "/api/prefill", [("Content-Type", "application/json")],
    "\x7b\"url\": \" https://acme.lever.co/1#apply\"\x7d", some "10.0.0.1", false⟩

/-- A batch and the command line for its URLs, and a pasted posting and the command line for it. -/
theorem front_ends_agree_pair :
    (let us : List Text := ["https://acme.lever.co/1", "no URL"]
    ∃ v items w, freshApp.value? pairRequest = some v ∧ v.get? "items" = some (.list items) ∧ items.length = 2 ∧
      Output.Prints false ("url".toList :: "--json".toList :: us) w ∧ w.Same (.list items)) ∧
    ∃ v record w, freshApp.value? pastedRequest = some v ∧ v.get? "url" = some (.text "https://acme.lever.co/1") ∧
      v.get? "deduced" = some record ∧ record.get? "providerTenant" = some (.text "acme") ∧
      Output.Prints false ["url", "--json", "--sanitize", " https://acme.lever.co/1#apply"] w ∧ w.Same record := by
  constructor
  · intro us
    have hsome : (freshApp.value? pairRequest).isSome = true := by decide +kernel
    obtain ⟨v, hv⟩ := Option.isSome_iff_exists.1 hsome
    have hread : pairRequest.batch freshApp.maxBatch = .ok us := by decide +kernel
    obtain ⟨us', items, hus, -, -, hitems, hall, hprints⟩ :=
      (front_ends_agree (Service.reachable_ofCapacity 1) hv).1 (by decide +kernel) (by decide +kernel)
    rw [hread] at hus
    cases hus
    have hasks : Command.Asks false us ("url".toList :: "--json".toList :: us) := by
      refine .inr ⟨rfl, fun u hu hhead => absurd hhead ?_⟩
      simp only [us, List.mem_cons, List.not_mem_nil, or_false] at hu
      rcases hu with rfl | rfl
      · decide
      · decide
    obtain ⟨w, hw, hsame⟩ := (hprints false _ hasks).1 (Nat.le_refl 2)
    exact ⟨v, items, w, hv, hitems, hall.length_eq.symm, hw, hsame⟩
  · have hsome : (freshApp.value? pastedRequest).isSome = true := by decide +kernel
    obtain ⟨v, hv⟩ := Option.isSome_iff_exists.1 hsome
    have hread : pastedRequest.prefill.map PrefillData.url = .ok " https://acme.lever.co/1#apply" := by decide +kernel
    obtain ⟨d, record, hd, hurl, hrecord, htells, hprints⟩ :=
      (front_ends_agree (Service.reachable_ofCapacity 1) hv).2 (by decide +kernel) (by decide +kernel)
    rw [hd] at hread
    obtain hread : d.url = " https://acme.lever.co/1#apply".toList := Except.ok.inj hread
    have hclean : Pasted.clean d.url = "https://acme.lever.co/1".toList := by
      rw [hread]
      decide +kernel
    have hasks : Command.Asks true [d.url] ["url", "--json", "--sanitize", " https://acme.lever.co/1#apply"] := by
      rw [hread]
      refine .inr ⟨rfl, fun u hu hhead => absurd hhead ?_⟩
      rw [List.mem_singleton.1 hu]
      decide
    obtain ⟨w, record', hw, htells', hsame, -⟩ := hprints false _ hasks
    obtain rfl : record' = record := htells'.record_eq.trans htells.record_eq.symm
    refine ⟨v, record', w, hv, by rw [hurl, hclean], hrecord, ?_, hw, hsame⟩
    have htenant : (deduce "https://acme.lever.co/1").map Record.tenant = some "acme" := by decide +kernel
    obtain ⟨r, hr, htenant⟩ := Option.map_eq_some_iff.1 htenant
    rw [htells.record_eq, hclean, hr, ← htenant]
    rfl

/-- A request to fill in a form from a text that begins with a hyphen. -/
def flagRequest : Request :=
  ⟨"POST", "/api/prefill", [("Content-Type", "application/json")], "\x7b\"url\": \"-x\"\x7d", some "10.0.0.1", false⟩

/-- A text that is answered with an empty record over HTTP is taken for a flag on a command line, and nothing is
printed. -/
theorem front_ends_agree_flag :
    freshApp.service.Reachable ∧
    (∃ v, freshApp.value? flagRequest = some v ∧ v.get? "url" = some (.text (Pasted.clean "-x")) ∧
      v.get? "deduced" = some (.object [])) ∧
    ∀ color, Output.run color ["url", "--json", "--sanitize", "-x"] = (2, []) ∧
      ∀ v, ¬Output.Prints color ["url", "--json", "--sanitize", "-x"] v := by
  have hreachable : freshApp.service.Reachable := Service.reachable_ofCapacity 1
  refine ⟨hreachable, ?_, fun color => ?_⟩
  · have hsome : (freshApp.value? flagRequest).isSome = true := by decide +kernel
    obtain ⟨v, hv⟩ := Option.isSome_iff_exists.1 hsome
    obtain ⟨d, p, hd, rfl, hurl, houtcome⟩ := App.value?_prefill hreachable (by decide +kernel) (by decide +kernel) hv
    have hread : flagRequest.prefill.map PrefillData.url = .ok "-x" := by decide +kernel
    rw [hd] at hread
    obtain hread : d.url = "-x".toList := Except.ok.inj hread
    have hnone : deduce (Pasted.clean "-x") = none := by decide +kernel
    refine ⟨_, hv, ?_, ?_⟩
    · rw [← hread, ← hurl]
      rfl
    · show some (Record.answer p.outcome) = _
      rw [houtcome, hread, hnone]
      rfl
  · have hrun : Output.run color ["url", "--json", "--sanitize", "-x"] = (2, []) := by
      have hnone : Command.read ["url", "--json", "--sanitize", "-x"] = none := by decide
      rw [Output.run, hnone]
    refine ⟨hrun, ?_⟩
    rintro v ⟨t, ht, -⟩
    rw [hrun] at ht
    have hcode : 2 = 0 := congrArg Prod.fst ht
    exact absurd hcode (by decide)

end JobPosting
