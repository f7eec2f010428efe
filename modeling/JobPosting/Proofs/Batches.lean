import JobPosting.Proofs.FrontEnds

/-!
# Batches

A batch is either answered as a whole or refused as a whole. If it is answered, every URL has its own item, in the order
of the batch, with the record that it has on its own: URLs that are given twice and URLs that are unusable change
nothing for the others, whatever the application has been asked before and whatever its cache drops on the way.

* `Request.batch_eq_checkBatch` : what remains to be checked once the body says some URLs.
* `RequestError.status_response_of_checkBatch` : a batch of these URLs is refused with status 400.
* `Output.countP_isRecognized` : the URLs that have a record are those with fields that are not empty.
* `batch_answered` : which batches are answered, and how.
-/

namespace JobPosting

/-! ## Refusals -/

namespace Request

variable {r : Request} {limit : Nat} {us : List Text}

/-- The batch of a body that says some URLs consists of these, if there may be such a batch. -/
theorem batch_eq_checkBatch (hbody : r.jsonBody = .ok r.body)
    (htext : Json.Says r.body (.object [("urls".toList, Json.ofTexts us)])) :
    r.batch limit = checkBatch limit us := by
  unfold batch
  rw [readBody_batchShape hbody htext]
  rfl

end Request

theorem RequestError.status_response_of_checkBatch {limit : Nat} {us : List Text} {e : RequestError}
    (h : Request.checkBatch limit us = .error e) : e.response.status = 400 := by
  unfold Request.checkBatch at h
  split at h
  · cases h
    rfl
  split at h
  · cases h
    rfl
  split at h
  · cases h
    rfl
  · cases h

/-! ## Items -/

def Json.isEmptyObject : Json → Bool
  | .object [] => true
  | _ => false

/-- Whether an item of a batch has fields that are not empty. -/
def Output.isRecognized (item : Json) : Bool := (item.get? "fields").any fun fields => !fields.isEmptyObject

theorem Record.isEmptyObject_answer (o : Outcome) : (Record.answer o).isEmptyObject = o.isNone := by
  cases o with
  | none => rfl
  | some record => rfl

theorem Output.isRecognized_item (u : Text) : isRecognized (item u) = (deduce u).isSome := by
  show (!(Record.answer (deduce u)).isEmptyObject) = (deduce u).isSome
  rw [Record.isEmptyObject_answer, Option.not_isNone]

theorem Output.countP_isRecognized (us : List Text) :
    (us.map item).countP isRecognized = (us.map deduce).countP Option.isSome := by
  rw [List.countP_map, List.countP_map]
  congr 1
  funext u
  exact isRecognized_item u

/-- The value that is answered to a batch. -/
theorem App.batchJson_map_deduce (us : List Text) :
    batchJson us (us.map deduce) = .object
      [("summary".toList, .object
        [("total".toList, .count us.length),
          ("recognized".toList, .count ((us.map Output.item).countP Output.isRecognized)),
          ("empty".toList, .count (us.length - (us.map Output.item).countP Output.isRecognized))]),
        ("items".toList, .list (us.map Output.item))] := by
  unfold batchJson
  rw [List.length_map, Output.countP_isRecognized, ← List.map_prod_left_eq_zip, List.map_map]
  rfl

/-! ## Answers -/

/-- In every state of the application: a batch of URLs is answered with status 200 if and only if it is neither empty nor
too large and no URL has more than 8192 bytes; otherwise the status is 400. The answer then has one item for every URL,
in the same order, with the URL and its record, or no fields if there is none; and it counts all items, those with
fields and those without. -/
theorem batch_answered {a : App} {r : Request} {us : List Text} (ha : a.service.Reachable) (hreach : a.Reaches r .deduce)
    (hpost : r.method = "POST".toList) (hbody : r.jsonBody = .ok r.body)
    (htext : Json.Says r.body (.object [("urls".toList, Json.ofTexts us)])) :
    let response := (a.handle r).1
    (response.status = 200 ↔ us ≠ [] ∧ us.length ≤ a.maxBatch ∧ ∀ u ∈ us, Text.byteCount u ≤ 8192) ∧
    (response.status ≠ 200 → response.status = 400) ∧
    (response.status = 200 → ∃ items recognized empty,
      response.content = .json (.object
        [("summary".toList, .object
          [("total".toList, .count us.length), ("recognized".toList, .count recognized),
            ("empty".toList, .count empty)]),
          ("items".toList, .list items)]) ∧
      items = us.map (fun u =>
        .object [("url".toList, .text u), ("fields".toList, Record.answer (deduce u))]) ∧
      recognized = items.countP Output.isRecognized ∧ recognized + empty = us.length) := by
  intro response
  have hresponse : response = (a.answerTo (Request.checkBatch a.maxBatch us) a.deduceBatch).1 := by
    have hhead : r.method ≠ "HEAD".toList := by
      rw [hpost]
      decide
    show (a.handle r).1 = _
    rw [App.handle_fst hreach hhead, App.answer, if_pos hpost, Request.batch_eq_checkBatch hbody htext]
  rw [hresponse]
  cases hcheck : Request.checkBatch a.maxBatch us with
  | error e =>
    have hstatus : e.response.status = 400 := RequestError.status_response_of_checkBatch hcheck
    have hrefused : ¬(us ≠ [] ∧ us.length ≤ a.maxBatch ∧ ∀ u ∈ us, Text.byteCount u ≤ 8192) := by
      intro hfits
      rw [Request.checkBatch_eq_ok_iff.2 ⟨rfl, hfits⟩] at hcheck
      cases hcheck
    have hne : e.response.status ≠ 200 := e.status_response_ne
    exact ⟨iff_of_false hne hrefused, fun _ => hstatus, fun h => absurd h hne⟩
  | ok vs =>
    obtain ⟨rfl, hfits⟩ := Request.checkBatch_eq_ok_iff.1 hcheck
    have hcontent : (a.deduceBatch vs).1.content = .json (App.batchJson vs (vs.map deduce)) := by
      rw [← ha.deduceAll_fst vs]
      rfl
    rw [App.batchJson_map_deduce] at hcontent
    refine ⟨iff_of_true rfl hfits, fun h => absurd rfl h, fun _ => ?_⟩
    let items := vs.map Output.item
    let recognized := items.countP Output.isRecognized
    have hle : recognized ≤ vs.length :=
      calc recognized ≤ items.length := List.countP_le_length
        _ = vs.length := List.length_map _
    exact ⟨items, recognized, vs.length - recognized, hcontent, rfl, rfl, by omega⟩

/-- A posting is given again after a text that is no URL, and the cache only has room for one of them. -/
theorem batch_answered_again :
    let us : List Text := ["https://acme.lever.co/1", "no URL", "https://acme.lever.co/1"]
    let r : Request := ⟨"POST", "/api/deduce", [("Content-Type", "application/json")],
      Json.print (.object [("urls".toList, Json.ofTexts us)]), some "10.0.0.1", false⟩
    let response := (freshApp.handle r).1
    response.status = 200 ∧ ∃ items, items.length = 3 ∧ items[0]? = items[2]? ∧
      response.content = .json (.object
        [("summary".toList, .object
          [("total".toList, .count 3), ("recognized".toList, .count 2), ("empty".toList, .count 1)]),
          ("items".toList, .list items)]) := by
  intro us r response
  have hreach : freshApp.Reaches r .deduce := ⟨by decide, by decide, by decide +kernel⟩
  have hbody : r.jsonBody = .ok r.body := by decide +kernel
  have htext : Json.Says r.body (.object [("urls".toList, Json.ofTexts us)]) := Json.says_print (by decide)
  obtain ⟨hiff, -, hanswer⟩ := batch_answered (Service.reachable_ofCapacity 1) hreach rfl hbody htext
  have hstatus : response.status = 200 := hiff.2 ⟨by decide, by decide, by decide +kernel⟩
  obtain ⟨items, recognized, empty, hcontent, hitems, hrecognized, hsum⟩ := hanswer hstatus
  obtain rfl : recognized = 2 := by
    rw [hrecognized, hitems]
    decide +kernel
  obtain rfl : empty = 1 := by
    have hlength : us.length = 3 := rfl
    omega
  refine ⟨hstatus, items, ?_, ?_, hcontent⟩
  · rw [hitems]
    rfl
  · rw [hitems]
    rfl

end JobPosting
