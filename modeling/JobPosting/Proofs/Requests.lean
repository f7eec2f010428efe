import JobPosting.Http.App
import JobPosting.Proofs.Inversion
import JobPosting.Service.Operations
import Mathlib.Tactic.ByContra

/-!
# What a request does to the application

All that a request can do to the application is to have texts deduced, and which ones it is can be told from the request
alone. A request that is refused, for whatever reason and at whatever stage, has none deduced.

* `Request.checkBatch_eq_ok_iff` : which batches are accepted.
* `App.after` : the application after some texts have been deduced.
* `Route.texts` : the texts that a resource deduces for a request.
* `App.answer_snd`, `App.texts_eq_nil` : a resource deduces these texts, and none if it does not answer with status 200.
* `App.Reaches` : a request gets to its resource; `App.handle_eq` and `App.handle_of_not_reaches` say what happens if it
  does and if it does not.
* `App.handle_snd` : all that a request does is to have the texts of its resource deduced, and `App.handleAll_snd` is
  the same of several requests.
* `handle_leaves_no_trace` : which requests may change the application.
-/

namespace JobPosting

/-! ## Resources -/

theorem Route.at?_eq_some_iff {path : Text} {route : Route} : Route.at? path = some route ↔ route.path = path := by
  constructor
  · intro h
    simpa using List.find?_some h
  · rintro rfl
    cases route <;> decide

/-- What is deduced for data that may be refused. -/
def textsOf {α : Type} (data : Except RequestError α) (texts : α → List Text) : List Text :=
  match data with
  | .ok d => texts d
  | .error _ => []

theorem mem_textsOf_iff {α : Type} {data : Except RequestError α} {texts : α → List Text} {t : Text} :
    t ∈ textsOf data texts ↔ ∃ d, data = .ok d ∧ t ∈ texts d := by
  cases data with
  | ok d =>
    constructor
    · intro ht
      exact ⟨d, rfl, ht⟩
    · rintro ⟨_, hd, ht⟩
      cases hd
      exact ht
  | error e =>
    constructor
    · intro ht
      cases ht
    · rintro ⟨_, hd, -⟩
      cases hd

/-- The texts that a resource deduces for a request with a method that it allows. -/
def Route.texts (limit : Nat) (r : Request) : Route → List Text
  | .deduce => if r.method = "POST" then textsOf (r.batch limit) id else textsOf r.singleUrl fun url => [url]
  | .prefill => textsOf r.prefill fun d => [Pasted.clean d.url]
  | _ => []

theorem RequestError.status_response_ne (e : RequestError) : e.response.status ≠ 200 := by
  have h400 : (400 : Nat) ≠ 200 := by decide
  cases e with
  | badQuery => exact h400
  | notJson => decide
  | tooLarge => decide
  | badBody fault => cases fault <;> decide
  | badLength => exact h400
  | noUrls => exact h400
  | urlTooLong => exact h400
  | tooMany limit given => exact h400

namespace Request

variable {r : Request} {limit : Nat} {us : List Text}

theorem jsonBody_eq_ok {body : Text} (h : r.jsonBody = .ok body) : body = r.body := by
  unfold jsonBody at h
  split at h
  · cases h
  split at h
  · cases h
  · exact (Except.ok.inj h).symm

theorem jsonBody_of_readBody {α : Type} {p : Json.Parser α} {v : α} (h : r.readBody p = .ok v) :
    r.jsonBody = .ok r.body := by
  unfold readBody at h
  split at h
  · cases h
  · rename_i body hbody
    rw [hbody, jsonBody_eq_ok hbody]

theorem checkUrl_eq_ok_iff {t url : Text} :
    checkUrl t = .ok url ↔ t = url ∧ 0 < url.length ∧ url.length ≤ maxUrlLength := by
  unfold checkUrl
  by_cases h : 0 < t.length ∧ t.length ≤ maxUrlLength
  · rw [if_pos (by simpa using h)]
    constructor
    · intro he
      cases he
      exact ⟨rfl, h⟩
    · rintro ⟨rfl, -⟩
      rfl
  · rw [if_neg (by simpa using h)]
    constructor
    · intro he
      cases he
    · rintro ⟨rfl, hlen⟩
      exact absurd hlen h

/-- Which batches are accepted: those that are neither empty nor too large, and have no URL with too many bytes. -/
theorem checkBatch_eq_ok_iff {vs : List Text} :
    checkBatch limit us = .ok vs ↔
      vs = us ∧ us ≠ [] ∧ us.length ≤ limit ∧ ∀ u ∈ us, Text.byteCount u ≤ maxUrlLength := by
  have hlong : (us.any fun u => maxUrlLength < Text.byteCount u) = true ↔
      ¬∀ u ∈ us, Text.byteCount u ≤ maxUrlLength := by simp
  unfold checkBatch
  split
  · rename_i hempty
    simp [hempty]
  split
  · rename_i hany
    rw [hlong] at hany
    exact iff_of_false (by simp) fun h => hany h.2.2.2
  split
  · rename_i hlarge
    exact iff_of_false (by simp) fun h => by omega
  · rename_i hempty hany hlarge
    rw [hlong, not_not] at hany
    exact ⟨fun h => ⟨(Except.ok.inj h).symm, hempty, by omega, hany⟩, fun h => congrArg _ h.1.symm⟩

theorem exists_checkBatch {vs : List Text} (h : r.batch limit = .ok vs) :
    ∃ given, r.readBody batchShape = .ok given ∧ checkBatch limit (given.getD []) = .ok vs :=
  of_bind_eq_ok h

end Request

namespace App

/-- The application after some texts have been deduced. -/
def after (a : App) (ts : List Text) : App := { a with service := (a.service.deduceAll ts).2 }

theorem after_nil (a : App) : a.after [] = a := rfl

theorem after_after (a : App) (ts us : List Text) : (a.after ts).after us = a.after (ts ++ us) := by
  unfold after
  rw [Service.deduceAll_append]

variable {a : App} {α : Type}

theorem answerTo_snd {data : Except RequestError α} {f : α → Response × App} {texts : α → List Text}
    (h : ∀ d, (f d).2 = a.after (texts d)) : (a.answerTo data f).2 = a.after (textsOf data texts) := by
  cases data with
  | ok d => exact h d
  | error e => rfl

theorem answerTo_status {data : Except RequestError α} {f : α → Response × App} (h : ∀ d, (f d).1.status = 200) :
    (a.answerTo data f).1.status = 200 ↔ ∃ d, data = .ok d := by
  cases data with
  | ok d => exact ⟨fun _ => ⟨d, rfl⟩, fun _ => h d⟩
  | error e => exact ⟨fun hs => absurd hs e.status_response_ne, fun ⟨d, hd⟩ => nomatch hd⟩

theorem textsOf_eq_nil {data : Except RequestError α} {f : α → Response × App} {texts : α → List Text}
    (h : ∀ d, (f d).1.status = 200) (hs : (a.answerTo data f).1.status ≠ 200) : textsOf data texts = [] := by
  cases data with
  | ok d => exact absurd (h d) hs
  | error e => rfl

/-- A resource deduces the texts of the request, and does nothing else. -/
theorem answer_snd (a : App) (route : Route) (r : Request) :
    (a.answer route r).2 = a.after (route.texts a.maxBatch r) := by
  cases route with
  | health => rfl
  | metrics => rfl
  | providers => rfl
  | prefill => exact answerTo_snd fun d => rfl
  | deduce =>
    rw [answer, Route.texts]
    split
    · exact answerTo_snd fun urls => rfl
    · exact answerTo_snd fun url => rfl

/-- A resource that does not answer with status 200 deduces nothing. -/
theorem texts_eq_nil {route : Route} {r : Request} (h : (a.answer route r).1.status ≠ 200) :
    route.texts a.maxBatch r = [] := by
  cases route with
  | health => rfl
  | metrics => rfl
  | providers => rfl
  | prefill => exact textsOf_eq_nil (fun d => rfl) h
  | deduce =>
    rw [answer] at h
    rw [Route.texts]
    split at h
    · rename_i hpost
      rw [if_pos hpost]
      exact textsOf_eq_nil (fun urls => rfl) h
    · rename_i hpost
      rw [if_neg hpost]
      exact textsOf_eq_nil (fun url => rfl) h

/-! ## Requests -/

theorem turnAway?_ne {route : Route} {r : Request} {status : Nat} (h : a.turnAway? route r = some status) :
    status ≠ 200 := by
  unfold turnAway? at h
  split at h
  · cases h
  · split at h
    · cases h
      decide
    · split at h
      · cases h
        decide
      · cases h

/-- A request reaches the resource at its path: the resource allows the method, and the client is not turned away. -/
structure Reaches (a : App) (r : Request) (route : Route) : Prop where
  path : route.path = r.path
  method : r.method ∈ route.methods
  turnAway : a.turnAway? route r = none

/-- What is answered to a request that reaches its resource; only the content may be left out. -/
theorem handle_eq {r : Request} {route : Route} (h : a.Reaches r route) :
    a.handle r = (if r.method = "HEAD" then (a.answer route r).1.withoutContent else (a.answer route r).1,
      (a.answer route r).2) := by
  have hroute : Route.at? r.path = some route := Route.at?_eq_some_iff.2 h.path
  have hmethod : ¬(!route.methods.contains r.method) = true := by simpa using h.method
  unfold handle
  rw [hroute]
  dsimp only
  rw [if_neg hmethod, h.turnAway]

theorem handle_of_reaches {r : Request} {route : Route} (h : a.Reaches r route) :
    (a.handle r).1.status = (a.answer route r).1.status ∧ (a.handle r).2 = (a.answer route r).2 := by
  rw [handle_eq h]
  refine ⟨?_, rfl⟩
  dsimp only
  split
  · rfl
  · rfl

theorem handle_fst {r : Request} {route : Route} (h : a.Reaches r route) (hm : r.method ≠ "HEAD".toList) :
    (a.handle r).1 = (a.answer route r).1 := by
  rw [handle_eq h]
  exact if_neg hm

theorem handle_of_not_reaches {r : Request} (h : ∀ route, ¬a.Reaches r route) :
    (a.handle r).1.status ≠ 200 ∧ (a.handle r).2 = a := by
  have h404 : (404 : Nat) ≠ 200 := by decide
  unfold handle
  split
  · exact ⟨h404, rfl⟩
  · rename_i route hroute
    split
    · refine ⟨?_, rfl⟩
      change (a.turnAway? route r).getD 405 ≠ 200
      cases hs : a.turnAway? route r with
      | none => decide
      | some status => exact turnAway?_ne hs
    · rename_i hmethod
      split
      · rename_i hs
        exact ⟨turnAway?_ne hs, rfl⟩
      · rename_i hs
        exact absurd ⟨Route.at?_eq_some_iff.1 hroute, by simpa using hmethod, hs⟩ (h route)

/-- All that a request does is to have the texts of its resource deduced. -/
theorem handle_snd (a : App) (r : Request) :
    ∃ ts, (a.handle r).2 = a.after ts ∧ ∀ t ∈ ts, ∃ route, a.Reaches r route ∧ t ∈ route.texts a.maxBatch r := by
  by_cases h : ∃ route, a.Reaches r route
  · obtain ⟨route, hr⟩ := h
    refine ⟨route.texts a.maxBatch r, ?_, fun t ht => ⟨route, hr, ht⟩⟩
    rw [(handle_of_reaches hr).2, answer_snd]
  · exact ⟨[], (handle_of_not_reaches (not_exists.1 h)).2, fun t ht => nomatch ht⟩

theorem handle_of_status_ne {r : Request} (h : (a.handle r).1.status ≠ 200) : (a.handle r).2 = a := by
  by_cases hreach : ∃ route, a.Reaches r route
  · obtain ⟨route, hr⟩ := hreach
    obtain ⟨hstatus, hsnd⟩ := handle_of_reaches hr
    rw [hstatus] at h
    rw [hsnd, answer_snd, texts_eq_nil h, after_nil]
  · exact (handle_of_not_reaches (not_exists.1 hreach)).2

theorem reaches_after {ts : List Text} {r : Request} {route : Route} :
    (a.after ts).Reaches r route ↔ a.Reaches r route :=
  ⟨fun h => ⟨h.path, h.method, h.turnAway⟩, fun h => ⟨h.path, h.method, h.turnAway⟩⟩

/-- A request that changes something has reached one of the two resources that deduce. -/
theorem reaches_of_handle_ne {r : Request} (h : (a.handle r).2 ≠ a) :
    a.Reaches r .deduce ∨ a.Reaches r .prefill := by
  by_cases hreach : ∃ route, a.Reaches r route
  · obtain ⟨route, hr⟩ := hreach
    rw [(handle_of_reaches hr).2, answer_snd] at h
    cases route with
    | health => exact absurd rfl h
    | metrics => exact absurd rfl h
    | providers => exact absurd rfl h
    | deduce => exact .inl hr
    | prefill => exact .inr hr
  · exact absurd (handle_of_not_reaches (not_exists.1 hreach)).2 h

/-! ## Several requests -/

theorem handleAll_cons (a : App) (r : Request) (rs : List Request) :
    a.handleAll (r :: rs) = ((a.handle r).1 :: ((a.handle r).2.handleAll rs).1, ((a.handle r).2.handleAll rs).2) := rfl

/-- All that several requests do is to have the texts of their resources deduced. -/
theorem handleAll_snd (a : App) (rs : List Request) :
    ∃ ts, (a.handleAll rs).2 = a.after ts ∧
      ∀ t ∈ ts, ∃ r ∈ rs, ∃ route, a.Reaches r route ∧ t ∈ route.texts a.maxBatch r := by
  induction rs generalizing a with
  | nil => exact ⟨[], rfl, fun t ht => nomatch ht⟩
  | cons r rs ih =>
    obtain ⟨ts, hts, hfrom⟩ := handle_snd a r
    obtain ⟨us, hus, hfrom'⟩ := ih (a.handle r).2
    refine ⟨ts ++ us, ?_, fun t ht => ?_⟩
    · rw [handleAll_cons]
      dsimp only
      rw [hus, hts, after_after]
    · rcases List.mem_append.1 ht with ht | ht
      · exact ⟨r, List.mem_cons_self, hfrom t ht⟩
      · -- The later requests find the application changed, but reach the same resources.
        rw [hts] at hfrom'
        obtain ⟨q, hq, route, hreach, htext⟩ := hfrom' t ht
        exact ⟨q, List.mem_cons_of_mem _ hq, route, reaches_after.1 hreach, htext⟩

/-- Each of several requests is answered as it would be after some texts have been deduced. -/
theorem exists_of_mem_zip_handleAll {rs : List Request} {e : Request × Response}
    (h : e ∈ rs.zip (a.handleAll rs).1) : ∃ ts, e.2 = ((a.after ts).handle e.1).1 := by
  induction rs generalizing a with
  | nil => cases h
  | cons r rs ih =>
    rw [handleAll_cons, List.zip_cons_cons] at h
    rcases List.mem_cons.1 h with rfl | h
    · exact ⟨[], rfl⟩
    · obtain ⟨us, hus⟩ := ih h
      obtain ⟨ts, hts, -⟩ := handle_snd a r
      rw [hts, after_after] at hus
      exact ⟨ts ++ us, hus⟩

end App

/-- Whatever the state of the application: a request that is not answered with status 200 leaves it as it was, cache,
recency and counters included, and so does every request to the resources that only report. Only requests to the two
resources that deduce can change it, and only if they are answered with status 200. -/
theorem handle_leaves_no_trace (a : App) (r : Request) :
    ((a.handle r).1.status ≠ 200 → (a.handle r).2 = a) ∧
    (r.path ∈ (["/health", "/metrics", "/api/providers"] : List Text) → (a.handle r).2 = a) ∧
    ((a.handle r).2 ≠ a → (a.handle r).1.status = 200 ∧
      (r.path = "/api/deduce" ∧ r.method ∈ (["GET", "HEAD", "POST"] : List Text) ∨
        r.path = "/api/prefill" ∧ r.method = "POST")) := by
  have hreach : (a.handle r).2 ≠ a → r.path = "/api/deduce" ∧ r.method ∈ (["GET", "HEAD", "POST"] : List Text) ∨
      r.path = "/api/prefill" ∧ r.method = "POST" := by
    intro hne
    rcases App.reaches_of_handle_ne hne with h | h
    · exact .inl ⟨h.path.symm, h.method⟩
    · exact .inr ⟨h.path.symm, by simpa [Route.methods] using h.method⟩
  refine ⟨App.handle_of_status_ne, fun hpath => ?_, fun hne => ⟨?_, hreach hne⟩⟩
  · by_contra hne
    rcases hreach hne with h | h
    · rw [h.1] at hpath
      exact absurd hpath (by decide)
    · rw [h.1] at hpath
      exact absurd hpath (by decide)
  · by_contra hs
    exact hne (App.handle_of_status_ne hs)

/-- A batch with a text too many leaves a memory that is full and a counter that has counted as they were. -/
theorem handle_leaves_no_trace_batch :
    let a : App := ⟨⟨.memory ⟨1, [("no URL", none)]⟩, [(.noRecord, 1)]⟩, 1, false⟩
    let r : Request := ⟨"POST", "/api/deduce/", [("Content-Type", "application/json")],
      "\x7b\"urls\": [\"no URL\", \"https://acme.lever.co/1\"]\x7d", some "10.0.0.1", false⟩
    (a.handle r).1.status = 400 ∧ (a.handle r).2 = a := by
  intro a r
  have hstatus : (a.handle r).1.status = 400 := by decide +kernel
  refine ⟨hstatus, (handle_leaves_no_trace a r).1 ?_⟩
  rw [hstatus]
  decide

end JobPosting
