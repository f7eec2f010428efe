import JobPosting.Proofs.Caching
import JobPosting.Proofs.Encoding
import JobPosting.Proofs.Requests
import JobPosting.Service.Traffic
import Mathlib.Algebra.Order.BigOperators.Group.List
import Mathlib.Algebra.Order.Ring.Nat

/-!
# How long the URLs are that get through

There is one limit for the length of a URL, but it is held against bytes where a request carries a batch, and against
characters where it carries a single URL. So a URL of more bytes than the limit gets through exactly if it comes alone
and has no more characters than the limit.

* `Text.weight` : a size of texts, such as their length or their number of bytes; `Pasted.weight_clean_le` says that
  cleaning up makes no text larger.
* `Request.carried` : the URLs that a request carries, before any length is checked.
* `App.Admits` : a request carries a single URL of an admitted length. `App.status_iff_admits` says that nothing else
  lets a URL of too many bytes through, and `App.texts_of_reaches` what is deduced.
* `Service.holds_deduceAll` : a cache gets to hold only what is deduced.
* `handleAll_limits` : which URLs get through in a run of requests, and which keys the cache holds after it.
* `handleAll_limits_wide` : one that gets through has more bytes than the limit.
-/

namespace JobPosting

/-! ## Sizes -/

namespace Text

def weight (w : Char → Nat) (t : Text) : Nat := (t.map w).sum

variable {w : Char → Nat} {s t : Text}

theorem length_eq_weight (t : Text) : t.length = weight (fun _ => 1) t := by simp [weight]

theorem byteCount_eq_weight (t : Text) : byteCount t = weight Char.utf8Size t := by
  have h : ∀ n, t.foldl (fun n c => n + c.utf8Size) n = n + weight Char.utf8Size t := by
    induction t with
    | nil => simp [weight]
    | cons c r ih =>
      intro n
      rw [List.foldl_cons, ih]
      simp [weight, Nat.add_assoc]
  rw [byteCount, h, Nat.zero_add]

theorem length_le_byteCount (t : Text) : t.length ≤ byteCount t := by
  have hone : ∀ n ∈ t.map Char.utf8Size, 1 ≤ n := by
    intro n hn
    obtain ⟨c, -, rfl⟩ := List.mem_map.1 hn
    exact c.utf8Size_pos
  have h := List.length_le_sum_of_one_le _ hone
  rw [List.length_map] at h
  rwa [byteCount_eq_weight]

theorem weight_append (s t : Text) : weight w (s ++ t) = weight w s + weight w t := by simp [weight]

theorem weight_cons (c : Char) (t : Text) : weight w (c :: t) = w c + weight w t := by simp [weight]

theorem weight_le_of_sublist (h : s.Sublist t) : weight w s ≤ weight w t := by
  apply (h.map w).sum_le_sum
  intro n hn
  exact Nat.zero_le n

end Text

/-! ## Cleaning up -/

namespace Pasted

open Text (weight)

variable {w : Char → Nat}

theorem weight_replace {a b : Char} (h : w b = w a) (t : Text) : weight w (replace a b t) = weight w t := by
  unfold weight replace
  rw [List.map_map]
  apply congrArg List.sum
  apply List.map_congr_left
  intro c _
  by_cases hc : c = a
  · simp [hc, h]
  · simp [hc]

theorem weight_joinQueries (h : w '&' = w '?') (t : Text) : weight w (joinQueries t) = weight w t := by
  unfold joinQueries
  split
  · rename_i front query hcut
    obtain ⟨rfl, -⟩ := Text.cut?_eq_some_iff.1 hcut
    simp only [Text.weight_append, Text.weight_cons, weight_replace h]
  · rfl

/-- Cleaning up makes no text larger, as long as an ampersand is as large as a question mark. -/
theorem weight_clean_le (h : w '&' = w '?') (t : Text) : weight w (clean t) ≤ weight w t :=
  calc weight w (clean t)
      ≤ weight w (Text.before '#' (joinQueries (Text.trim t))) := Text.weight_le_of_sublist (collapse_sublist _)
    _ ≤ weight w (joinQueries (Text.trim t)) := Text.weight_le_of_sublist (List.takeWhile_sublist _)
    _ = weight w (Text.trim t) := weight_joinQueries h _
    _ ≤ weight w t := Text.weight_le_of_sublist (Text.trim_sublist t)

theorem length_clean_le (t : Text) : (clean t).length ≤ t.length := by
  rw [Text.length_eq_weight, Text.length_eq_weight t]
  exact weight_clean_le rfl t

theorem byteCount_clean_le (t : Text) : Text.byteCount (clean t) ≤ Text.byteCount t := by
  rw [Text.byteCount_eq_weight, Text.byteCount_eq_weight]
  exact weight_clean_le (by decide) t

end Pasted

/-! ## What requests carry -/

/-- The URLs that a request carries to a resource, before any length is checked. -/
def Route.carried (r : Request) : Route → List Text
  | .deduce =>
    if r.method = "POST" then textsOf (r.readBody Request.batchShape) fun urls => urls.getD []
    else ((Text.formPairs r.query).filter (·.1 = "url".toList)).map (·.2)
  | .prefill => textsOf (r.readBody Request.prefillShape) fun d => [d.url.getD []]
  | _ => []

namespace Request

/-- The URLs that a request carries, before any length is checked. -/
def carried (r : Request) : List Text := (Route.at? r.path).elim [] (Route.carried r)

def IsBatch (r : Request) : Prop := r.path = "/api/deduce" ∧ r.method = "POST"

variable {r : Request} {url : Text}

theorem singleUrl_eq_ok_iff (hpost : r.method ≠ "POST") :
    r.singleUrl = .ok url ↔ Route.deduce.carried r = [url] ∧ 0 < url.length ∧ url.length ≤ maxUrlLength := by
  rw [Route.carried, if_neg hpost]
  unfold singleUrl
  split
  · rename_i name t h
    rw [h, checkUrl_eq_ok_iff]
    simp
  · rename_i h
    constructor
    · intro he
      cases he
    · rintro ⟨hone, -⟩
      obtain ⟨e, he, -⟩ := List.map_eq_singleton_iff.1 hone
      exact absurd he (h e.1 e.2)

theorem prefill_eq_ok_iff :
    (∃ d, r.prefill = .ok d ∧ d.url = url) ↔
      Route.prefill.carried r = [url] ∧ 0 < url.length ∧ url.length ≤ maxUrlLength := by
  unfold prefill
  rw [Route.carried]
  cases r.readBody prefillShape with
  | error e =>
    constructor
    · rintro ⟨d, hd, -⟩
      cases hd
    · rintro ⟨hone, -⟩
      cases hone
  | ok draft =>
    change (∃ d : PrefillData, (checkUrl (draft.url.getD [])).map _ = .ok d ∧ d.url = url) ↔
      [draft.url.getD []] = [url] ∧ _
    rw [List.singleton_inj, ← checkUrl_eq_ok_iff]
    cases checkUrl (draft.url.getD []) with
    | error e =>
      constructor
      · rintro ⟨d, hd, -⟩
        cases hd
      · intro he
        cases he
    | ok t =>
      constructor
      · rintro ⟨d, hd, rfl⟩
        cases hd
        rfl
      · intro he
        cases he
        exact ⟨_, rfl, rfl⟩

/-- The URLs of a batch that is accepted are those that the request carries, and none has too many bytes. -/
theorem carried_of_batch {limit : Nat} {urls : List Text} (hpost : r.method = "POST") (h : r.batch limit = .ok urls) :
    Route.deduce.carried r = urls ∧ ∀ url ∈ urls, Text.byteCount url ≤ maxUrlLength := by
  obtain ⟨given, hread, hcheck⟩ := exists_checkBatch h
  obtain ⟨rfl, -, -, hbytes⟩ := checkBatch_eq_ok_iff.1 hcheck
  rw [Route.carried, if_pos hpost, hread]
  exact ⟨rfl, hbytes⟩

end Request

/-! ## What gets through -/

namespace App

/-- A request carries a single URL, which is not empty and has no more characters than the limit. -/
structure Admits (a : App) (r : Request) (url : Text) : Prop where
  reaches : ∃ route, a.Reaches r route
  alone : ¬r.IsBatch
  carried : r.carried = [url]
  pos : 0 < url.length
  le : url.length ≤ maxUrlLength

variable {a : App} {r : Request} {route : Route} {url : Text}

theorem Reaches.carried (h : a.Reaches r route) : r.carried = route.carried r := by
  unfold Request.carried
  rw [Route.at?_eq_some_iff.2 h.path]
  rfl

theorem Reaches.isBatch_iff (h : a.Reaches r .deduce) : r.IsBatch ↔ r.method = "POST" :=
  ⟨fun hb => hb.2, fun hm => ⟨h.path.symm, hm⟩⟩

theorem Reaches.not_isBatch (h : a.Reaches r .prefill) : ¬r.IsBatch := by
  intro hb
  have hpath := h.path.trans hb.1
  exact absurd hpath (by decide)

theorem admits_iff (h : a.Reaches r route) :
    a.Admits r url ↔ ¬r.IsBatch ∧ route.carried r = [url] ∧ 0 < url.length ∧ url.length ≤ maxUrlLength := by
  rw [← h.carried]
  exact ⟨fun ha => ⟨ha.alone, ha.carried, ha.pos, ha.le⟩, fun ⟨h1, h2, h3, h4⟩ => ⟨⟨route, h⟩, h1, h2, h3, h4⟩⟩

theorem admits_after {ts : List Text} : (a.after ts).Admits r url ↔ a.Admits r url := by
  constructor
  · rintro ⟨⟨route, h⟩, h1, h2, h3, h4⟩
    exact ⟨⟨route, reaches_after.1 h⟩, h1, h2, h3, h4⟩
  · rintro ⟨⟨route, h⟩, h1, h2, h3, h4⟩
    exact ⟨⟨route, reaches_after.2 h⟩, h1, h2, h3, h4⟩

/-- A URL of too many bytes gets through exactly if it is admitted as a single one. -/
theorem status_iff_admits (hurl : url ∈ r.carried) (hlong : maxUrlLength < Text.byteCount url) :
    (a.handle r).1.status = 200 ↔ a.Admits r url := by
  by_cases hreach : ∃ route, a.Reaches r route
  · obtain ⟨route, h⟩ := hreach
    rw [(handle_of_reaches h).1, admits_iff h]
    rw [h.carried] at hurl
    cases route with
    | health => cases hurl
    | metrics => cases hurl
    | providers => cases hurl
    | prefill =>
      rw [answer, answerTo_status fun d => rfl, ← Request.prefill_eq_ok_iff]
      constructor
      · rintro ⟨d, hd⟩
        have hone := (Request.prefill_eq_ok_iff.1 ⟨d, hd, rfl⟩).1
        rw [hone, List.mem_singleton] at hurl
        exact ⟨h.not_isBatch, d, hd, hurl.symm⟩
      · rintro ⟨-, d, hd, -⟩
        exact ⟨d, hd⟩
    | deduce =>
      rw [answer, h.isBatch_iff]
      by_cases hpost : r.method = "POST"
      · rw [if_pos hpost, answerTo_status fun d => rfl]
        constructor
        · rintro ⟨urls, hurls⟩
          obtain ⟨hcarried, hle⟩ := Request.carried_of_batch hpost hurls
          rw [hcarried] at hurl
          have hfits : Text.byteCount url ≤ maxUrlLength := hle url hurl
          exact absurd hfits (Nat.not_le.2 hlong)
        · rintro ⟨hnot, -⟩
          exact absurd hpost hnot
      · rw [if_neg hpost, answerTo_status fun d => rfl, ← Request.singleUrl_eq_ok_iff hpost]
        constructor
        · rintro ⟨t, ht⟩
          have hone := ((Request.singleUrl_eq_ok_iff hpost).1 ht).1
          rw [hone, List.mem_singleton] at hurl
          exact ⟨hpost, hurl ▸ ht⟩
        · rintro ⟨-, ht⟩
          exact ⟨url, ht⟩
  · exact iff_of_false (handle_of_not_reaches (not_exists.1 hreach)).1 fun h => hreach h.reaches

/-- What is deduced for a request is a text of at most so many bytes, or a URL that is admitted as a single one,
cleaned up where it was pasted. -/
theorem texts_of_reaches {limit : Nat} {t : Text} (h : a.Reaches r route) (ht : t ∈ route.texts limit r) :
    Text.byteCount t ≤ maxUrlLength ∨ ∃ url, a.Admits r url ∧ (t = url ∨ t = Pasted.clean url) := by
  cases route with
  | health => cases ht
  | metrics => cases ht
  | providers => cases ht
  | prefill =>
    obtain ⟨d, hd, ht⟩ := mem_textsOf_iff.1 ht
    have hadmits := (admits_iff h).2 ⟨h.not_isBatch, Request.prefill_eq_ok_iff.1 ⟨d, hd, rfl⟩⟩
    exact .inr ⟨d.url, hadmits, .inr (List.mem_singleton.1 ht)⟩
  | deduce =>
    rw [Route.texts] at ht
    by_cases hpost : r.method = "POST"
    · rw [if_pos hpost] at ht
      obtain ⟨urls, hurls, ht⟩ := mem_textsOf_iff.1 ht
      exact .inl ((Request.carried_of_batch hpost hurls).2 t ht)
    · rw [if_neg hpost] at ht
      obtain ⟨url, hurl, ht⟩ := mem_textsOf_iff.1 ht
      have hadmits := (admits_iff h).2 ⟨mt h.isBatch_iff.1 hpost, (Request.singleUrl_eq_ok_iff hpost).1 hurl⟩
      exact .inr ⟨url, hadmits, .inl (List.mem_singleton.1 ht)⟩

end App

/-! ## What caches get to hold -/

namespace Service

variable {σ : Type} [CacheLike σ] {Holds : σ → Text → Outcome → Prop} {s : Service σ} {key : Text} {outcome : Outcome}

theorem holds_deduce (h : CacheLike.Contents Holds) {t : Text} (hh : Holds (s.deduce t).2.cache key outcome) :
    Holds s.cache key outcome ∨ key = t := by
  by_cases hhit : ∃ o, (s.look t).1 = .hit o
  · obtain ⟨o, ho⟩ := hhit
    rw [deduce_of_hit ho] at hh
    exact .inl (h.of_get hh)
  · rw [deduce_of_missed (not_exists.1 hhit)] at hh
    rcases h.of_put hh with he | hh
    · exact .inr (congrArg Prod.fst he)
    · exact .inl (h.of_get hh)

theorem holds_deduceAll (h : CacheLike.Contents Holds) {ts : List Text}
    (hh : Holds (s.deduceAll ts).2.cache key outcome) : Holds s.cache key outcome ∨ key ∈ ts := by
  induction ts generalizing s with
  | nil => exact .inl hh
  | cons t ts ih =>
    rw [deduceAll_cons] at hh
    rcases ih hh with hh | hmem
    · rcases holds_deduce h hh with hh | rfl
      · exact .inl hh
      · exact .inr List.mem_cons_self
    · exact .inr (List.mem_cons_of_mem _ hmem)

end Service

/-! ## Runs -/

/-- In a run of requests, a URL of more bytes than the limit gets through exactly if it comes alone and has no more
characters than the limit. Every key that comes into the cache has no more characters than the limit, and if it has more
bytes, it comes from such a URL. -/
theorem handleAll_limits (a : App) (rs : List Request) :
    (∀ e ∈ rs.zip (a.handleAll rs).1, ∀ url ∈ e.1.carried, maxUrlLength < Text.byteCount url →
      (e.2.status = 200 ↔ a.Admits e.1 url)) ∧
    (∀ key outcome, (a.handleAll rs).2.service.cache.Holds key outcome →
      a.service.cache.Holds key outcome ∨
      key.length ≤ maxUrlLength ∧ (maxUrlLength < Text.byteCount key →
        ∃ r ∈ rs, ∃ url, a.Admits r url ∧ maxUrlLength < Text.byteCount url ∧
          (key = url ∨ key = Pasted.clean url))) := by
  constructor
  · intro e he url hurl hlong
    obtain ⟨ts, hts⟩ := App.exists_of_mem_zip_handleAll he
    rw [hts, App.status_iff_admits hurl hlong, App.admits_after]
  · intro key outcome hh
    obtain ⟨ts, hts, hfrom⟩ := App.handleAll_snd a rs
    rw [hts] at hh
    rcases Service.holds_deduceAll Cache.contents_holds hh with hh | hkey
    · exact .inl hh
    · obtain ⟨r, hr, route, hreach, htext⟩ := hfrom key hkey
      refine .inr ?_
      rcases App.texts_of_reaches hreach htext with hle | ⟨url, hadmits, hurl⟩
      · exact ⟨(Text.length_le_byteCount key).trans hle, fun hlong => absurd hle (Nat.not_le.2 hlong)⟩
      · -- What is kept of a pasted URL is the cleaned-up one, which may only be shorter.
        have hlength : key.length ≤ url.length := by
          rcases hurl with rfl | rfl
          · exact Nat.le_refl _
          · exact Pasted.length_clean_le url
        have hbytes : Text.byteCount key ≤ Text.byteCount url := by
          rcases hurl with rfl | rfl
          · exact Nat.le_refl _
          · exact Pasted.byteCount_clean_le url
        exact ⟨hlength.trans hadmits.le, fun hlong => ⟨r, hr, url, hadmits, hlong.trans_le hbytes, hurl⟩⟩

/-! ## A URL of wide characters -/

namespace Text

/-- An ASCII character that does not stand for another one. -/
def isPlain (c : Char) : Bool := isAscii c && c ≠ '%' && c ≠ '+'

theorem formDecode_cons {c : Char} (h : isPlain c = true) (t : Text) : formDecode (c :: t) = c :: formDecode t := by
  simp only [isPlain, Bool.and_eq_true, decide_eq_true_eq] at h
  obtain ⟨⟨h, hpercent⟩, hplus⟩ := h
  have hlt : c.toNat < 0x80 := by simpa [isAscii] using h
  have hbyte : (UInt8.ofNat c.toNat).toNat = c.toNat := by
    rw [UInt8.toNat_ofNat']
    omega
  have hencode : bytes [c] = [UInt8.ofNat c.toNat] := by
    have hle : c.val.toNat ≤ 127 := Nat.le_of_lt_succ hlt
    simp only [bytes, List.flatMap_cons, List.flatMap_nil, List.append_nil, String.utf8EncodeChar, if_pos hle]
    rfl
  have hne : UInt8.ofNat c.toNat ≠ 0x25 := by
    intro he
    apply hpercent
    apply Char.toNat_inj.1
    rw [← hbyte, he]
    rfl
  have hlead : lengthOfLead (UInt8.ofNat c.toNat) = some 1 := by
    apply if_pos
    rw [UInt8.lt_iff_toNat_lt, hbyte]
    exact hlt
  unfold formDecode percentDecode
  rw [List.map_cons, if_neg hplus, ← List.singleton_append, bytes_append, hencode, List.singleton_append,
    percentDecodeBytes_cons hne, ofBytes, hlead, hbyte, Char.ofNat_toNat]
  rfl

theorem formDecode_append {s : Text} (h : s.all isPlain = true) (t : Text) :
    formDecode (s ++ t) = s ++ formDecode t := by
  induction s with
  | nil => rfl
  | cons c s ih =>
    rw [List.all_cons, Bool.and_eq_true] at h
    rw [List.cons_append, formDecode_cons h.1, ih h.2]
    rfl

/-- A character of two bytes, written byte by byte. -/
theorem formDecode_wide (t : Text) : formDecode ("%C3%A9".toList ++ t) = 'é' :: formDecode t := by
  have hplus : ("%C3%A9".toList ++ t).map (fun c => if c = '+' then ' ' else c) =
      "%C3%A9".toList ++ t.map fun c => if c = '+' then ' ' else c := by
    simp
  have hbytes : bytes "%C3%A9".toList = [0x25, 0x43, 0x33, 0x25, 0x41, 0x39] := by decide +kernel
  have hdecode (bs : List UInt8) : percentDecodeBytes ([0x25, 0x43, 0x33, 0x25, 0x41, 0x39] ++ bs) =
      0xC3 :: 0xA9 :: percentDecodeBytes bs := by
    have h43 : hexByte? 0x43 = some 12 := by decide
    have h33 : hexByte? 0x33 = some 3 := by decide
    have h41 : hexByte? 0x41 = some 10 := by decide
    have h39 : hexByte? 0x39 = some 9 := by decide
    simp [percentDecodeBytes, h43, h33, h41, h39]
  have hread (bs : List UInt8) : ofBytes (0xC3 :: 0xA9 :: bs) = 'é' :: ofBytes bs := by
    have hlead : lengthOfLead 0xC3 = some 2 := by decide
    have hfollow : mayFollow 0xC3 0xA9 = true := by decide
    rw [ofBytes, hlead]
    simp [hfollow]
    decide
  unfold formDecode percentDecode
  rw [hplus, bytes_append, hbytes, hdecode, hread]

end Text

/-- A URL with so many characters of two bytes. -/
def wideUrl (n : Nat) : Text := "https://acme.lever.co/".toList ++ List.replicate n 'é'

/-- The query that carries it. -/
def wideQuery (n : Nat) : Text := "url=https://acme.lever.co/".toList ++ (List.replicate n "%C3%A9".toList).flatten

def wideRequest (n : Nat) : Request := ⟨"GET", "/api/deduce?".toList ++ wideQuery n, [], [], some "10.0.0.1", false⟩

theorem length_wideUrl (n : Nat) : (wideUrl n).length = 22 + n := by
  have hfront : "https://acme.lever.co/".toList.length = 22 := by decide +kernel
  unfold wideUrl
  rw [List.length_append, List.length_replicate, hfront]

theorem byteCount_wideUrl (n : Nat) : Text.byteCount (wideUrl n) = 22 + 2 * n := by
  have hfront : Text.weight Char.utf8Size "https://acme.lever.co/".toList = 22 := by decide +kernel
  have hwide : Text.weight Char.utf8Size (List.replicate n 'é') = 2 * n := by
    have hchar : 'é'.utf8Size = 2 := by decide
    rw [Text.weight, List.map_replicate, List.sum_replicate, hchar]
    exact Nat.mul_comm n 2
  unfold wideUrl
  rw [Text.byteCount_eq_weight, Text.weight_append, hfront, hwide]

theorem formDecode_wideUrl (n : Nat) :
    Text.formDecode ("https://acme.lever.co/".toList ++ (List.replicate n "%C3%A9".toList).flatten) = wideUrl n := by
  have hwide : Text.formDecode (List.replicate n "%C3%A9".toList).flatten = List.replicate n 'é' := by
    induction n with
    | zero => rfl
    | succ n ih => rw [List.replicate_succ, List.flatten_cons, Text.formDecode_wide, ih, List.replicate_succ]
  unfold wideUrl
  rw [Text.formDecode_append (by decide +kernel), hwide]

theorem not_mem_wideQuery {c : Char} (h : c ∉ "url=https://acme.lever.co/%C3%A9".toList) (n : Nat) :
    c ∉ wideQuery n := by
  intro hc
  apply h
  have hsplit : "url=https://acme.lever.co/%C3%A9".toList = "url=https://acme.lever.co/".toList ++ "%C3%A9".toList := by
    decide +kernel
  rw [hsplit]
  rcases List.mem_append.1 hc with hc | hc
  · exact List.mem_append_left _ hc
  · obtain ⟨t, ht, hct⟩ := List.mem_flatten.1 hc
    rw [List.eq_of_mem_replicate ht] at hct
    exact List.mem_append_right _ hct

theorem formPairs_wideQuery (n : Nat) : Text.formPairs (wideQuery n) = [("url".toList, wideUrl n)] := by
  have hquery : wideQuery n = "url".toList ++ '=' :: ("https://acme.lever.co/".toList ++
      (List.replicate n "%C3%A9".toList).flatten) := by
    unfold wideQuery
    simp
  have hcut : Text.cut? '=' (wideQuery n) =
      some ("url".toList, "https://acme.lever.co/".toList ++ (List.replicate n "%C3%A9".toList).flatten) :=
    Text.cut?_eq_some_iff.2 ⟨hquery, by decide⟩
  have hname : Text.formDecode "url".toList = "url".toList := by decide
  have hne : wideQuery n ≠ [] := by simp [hquery]
  have hsplit : Text.split '&' (wideQuery n) = [wideQuery n] :=
    Text.split_eq_singleton (not_mem_wideQuery (by decide) n)
  rw [Text.formPairs, hsplit, List.filter_cons_of_pos (by simpa using hne), List.filter_nil, List.map_singleton,
    Text.formPair, hcut]
  dsimp only
  rw [hname, formDecode_wideUrl]

theorem resource_wideRequest (n : Nat) : (wideRequest n).resource = "/api/deduce".toList ++ '?' :: wideQuery n := by
  have hno : '#' ∉ "/api/deduce?".toList ++ wideQuery n := by
    rw [List.mem_append, not_or]
    exact ⟨by decide, not_mem_wideQuery (by decide) n⟩
  rw [Request.resource, wideRequest, Text.before_eq_self hno]
  rfl

theorem path_wideRequest (n : Nat) : (wideRequest n).path = "/api/deduce" := by
  rw [Request.path, resource_wideRequest, Text.before_append_cons (by decide)]
  decide

theorem query_wideRequest (n : Nat) : (wideRequest n).query = wideQuery n := by
  rw [Request.query, resource_wideRequest, Text.cut?_eq_some_iff.2 ⟨rfl, by decide⟩]
  rfl

theorem reaches_wideRequest (s : Service) (n limit : Nat) : App.Reaches ⟨s, limit, false⟩ (wideRequest n) .deduce where
  path := (path_wideRequest n).symm
  method := by
    change "GET".toList ∈ Route.deduce.methods
    decide
  turnAway := rfl

theorem carried_wideRequest (n : Nat) : (wideRequest n).carried = [wideUrl n] := by
  have hget : (wideRequest n).method ≠ "POST" := by
    change "GET".toList ≠ "POST".toList
    decide
  rw [(reaches_wideRequest (.ofCache .null) n 0).carried, Route.carried, if_neg hget, query_wideRequest,
    formPairs_wideQuery]
  rfl

theorem admits_wideUrl (s : Service) {n : Nat} (limit : Nat) (h : 22 + n ≤ maxUrlLength) :
    App.Admits ⟨s, limit, false⟩ (wideRequest n) (wideUrl n) := by
  have hreach := reaches_wideRequest s n limit
  have hget : ¬(wideRequest n).method = "POST" := by
    change "GET".toList ≠ "POST".toList
    decide
  refine ⟨⟨_, hreach⟩, mt hreach.isBatch_iff.1 hget, carried_wideRequest n, ?_, ?_⟩
  · rw [length_wideUrl]
    omega
  · rw [length_wideUrl]
    exact h

/-- A service with a cache that remembers something holds the text that it has just deduced first. -/
theorem Service.holds_deduceAll_singleton (n : Nat) (t : Text) :
    ((Service.ofCache (Cache.ofCapacity (n + 1))).deduceAll [t]).2.cache.Holds t (JobPosting.deduce t) := by
  have hmiss : ∀ outcome, ((Service.ofCache (Cache.ofCapacity (n + 1))).look t).1 ≠ .hit outcome := by
    intro outcome h
    cases h
  rw [Service.deduceAll_cons, Service.deduce_of_missed hmiss]
  exact List.mem_cons_self

/-- A URL of too many bytes that is sent alone is deduced and kept, although the cache was empty. -/
theorem handleAll_limits_wide :
    let a : App := ⟨.ofCache (.ofCapacity 1), 100, false⟩
    let r := wideRequest 4097
    r.carried = [wideUrl 4097] ∧ maxUrlLength < Text.byteCount (wideUrl 4097) ∧ (a.handle r).1.status = 200 ∧
      (a.handle r).2.service.cache.Holds (wideUrl 4097) (deduce (wideUrl 4097)) := by
  intro a r
  have hreach : a.Reaches r .deduce := reaches_wideRequest _ _ _
  have hadmits : a.Admits r (wideUrl 4097) := admits_wideUrl _ _ (by decide)
  have hlong : maxUrlLength < Text.byteCount (wideUrl 4097) := by
    rw [byteCount_wideUrl]
    decide
  have hcarried : r.carried = [wideUrl 4097] := carried_wideRequest 4097
  have hget : r.method ≠ "POST" := mt hreach.isBatch_iff.2 hadmits.alone
  have hurl : r.singleUrl = .ok (wideUrl 4097) :=
    (Request.singleUrl_eq_ok_iff hget).2 ((App.admits_iff hreach).1 hadmits).2
  refine ⟨hcarried, hlong, ?_, ?_⟩
  · apply (App.status_iff_admits _ hlong).2 hadmits
    rw [hcarried]
    exact List.mem_singleton_self _
  · rw [(App.handle_of_reaches hreach).2, App.answer_snd, Route.texts, if_neg hget, hurl]
    exact Service.holds_deduceAll_singleton 0 (wideUrl 4097)

end JobPosting
