import JobPosting.Json.Describe
import JobPosting.Record
import JobPosting.Text.Blank

/-!
# Job forms

The part of a form for job postings that can be filled in from a URL. What someone has typed stays: only blank slots are
filled.

* `Slot` : the slots of a form, in the order in which they are written.
* `JobForm.prefill` : a form with its blank slots filled from a record, and the slots that were filled.
* `JobForm.toJson`, `JobForm.ofJson` : a form as an object of its slots; it is also read from a list in slot order.
-/

namespace JobPosting

/-- The slots of a job form. -/
inductive Slot where
  | foundOn
  | provider
  | providerTenant
  | externalId
  | hiringCompanyName
  | postingCompanyName
  | title
  deriving DecidableEq, Inhabited

namespace Slot

/-- The name of a slot. -/
def name : Slot → Text
  | foundOn => "foundOn"
  | provider => "provider"
  | providerTenant => "providerTenant"
  | externalId => "externalId"
  | hiringCompanyName => "hiringCompanyName"
  | postingCompanyName => "postingCompanyName"
  | title => "title"

/-- All slots, in the order in which they are written. -/
def all : List Slot :=
  [foundOn, provider, providerTenant, externalId, hiringCompanyName, postingCompanyName, title]

/-- All slots, in the order in which they are filled. -/
def fillOrder : List Slot :=
  [foundOn, externalId, hiringCompanyName, postingCompanyName, provider, providerTenant, title]

/-- All slots, in the order of their names. -/
def nameOrder : List Slot :=
  [externalId, foundOn, hiringCompanyName, postingCompanyName, provider, providerTenant, title]

/-- A slot about the applicant-tracking system. -/
def isTracking : Slot → Bool
  | provider | providerTenant | externalId => true
  | _ => false

/-- What a record offers for a slot. -/
def offered (r : Record) : Slot → Option Text
  | foundOn => some r.foundOn
  | provider => some r.provider
  | providerTenant => some r.tenant
  | externalId => some r.externalId
  | hiringCompanyName => r.hiringCompany
  | postingCompanyName => r.postingCompany
  | title => r.title

end Slot

/-- A job form. -/
structure JobForm where
  foundOn : Option Text
  provider : Option Text
  providerTenant : Option Text
  externalId : Option Text
  hiringCompanyName : Option Text
  postingCompanyName : Option Text
  title : Option Text
  deriving DecidableEq, Inhabited

/-- Why a JSON value is no job form. -/
inductive FormError where
  /-- An entry is neither a text nor left open. -/
  | badEntry (found : Json)
  /-- The value is neither an object nor a list. -/
  | notAForm (found : Json)
  /-- A list has more items than there are slots. -/
  | tooLong (length : Nat)

/-- The wording of a value that should have been something else. -/
def FormError.unexpected (found : Json) (expected : Text) : Text :=
  "invalid type: " ++ found.describe ++ ", expected " ++ expected

def FormError.message : FormError → Text
  | badEntry found => unexpected found "a string"
  | notAForm found => unexpected found "struct JobForm"
  | tooLong length => "invalid length " ++ Text.ofNat length ++ ", expected fewer elements in array"

namespace JobForm

def empty : JobForm := ⟨none, none, none, none, none, none, none⟩

def get (f : JobForm) : Slot → Option Text
  | .foundOn => f.foundOn
  | .provider => f.provider
  | .providerTenant => f.providerTenant
  | .externalId => f.externalId
  | .hiringCompanyName => f.hiringCompanyName
  | .postingCompanyName => f.postingCompanyName
  | .title => f.title

def set (f : JobForm) (k : Slot) (v : Option Text) : JobForm :=
  match k with
  | .foundOn => { f with foundOn := v }
  | .provider => { f with provider := v }
  | .providerTenant => { f with providerTenant := v }
  | .externalId => { f with externalId := v }
  | .hiringCompanyName => { f with hiringCompanyName := v }
  | .postingCompanyName => { f with postingCompanyName := v }
  | .title => { f with title := v }

@[simp] theorem get_set_self (f : JobForm) (k : Slot) (v : Option Text) : (f.set k v).get k = v := by
  cases k <;> rfl

@[simp] theorem get_set_of_ne (f : JobForm) {k l : Slot} (v : Option Text) (h : l ≠ k) :
    (f.set k v).get l = f.get l := by
  cases k <;> cases l <;> simp_all [get, set]

/-! ## Filling in -/

/-- Whether a slot shows nothing. -/
def isOpen (f : JobForm) (k : Slot) : Bool :=
  match f.get k with
  | some t => Text.trim t = []
  | none => true

/-- The form after one slot, and the slots filled so far; `keepTracking` leaves the slots about the applicant-tracking
system alone. -/
def fill (r : Record) (keepTracking : Bool) (state : JobForm × List Slot) (k : Slot) : JobForm × List Slot :=
  match Text.given (Slot.offered r k) with
  | some v =>
    if !(keepTracking && k.isTracking) && state.1.isOpen k then (state.1.set k (some v), state.2 ++ [k]) else state
  | none => state

/-- The form with its blank slots filled from a record, and the slots that were filled. -/
def prefill (f : JobForm) (r : Record) (keepTracking : Bool) : JobForm × List Slot :=
  Slot.fillOrder.foldl (fill r keepTracking) (f, [])

/-! ## As JSON -/

/-- A form as an object of the slots that have an entry. -/
def toJson (f : JobForm) : Json := .object (Slot.all.flatMap fun k => Json.textField? k.name (f.get k))

/-- The entry that a value stands for. -/
def readEntry : Json → Except FormError (Option Text)
  | .null => .ok none
  | .text t => .ok (some t)
  | v => .error (.badEntry v)

/-- The form with the entry of a slot read from a value, if there is one. -/
def readSlot (f : JobForm) (k : Slot) : Option Json → Except FormError JobForm
  | some v => (readEntry v).map (f.set k)
  | none => .ok f

/-- The form that a value stands for: an object with slot names, or a list of entries in the order of slots. -/
def ofJson : Json → Except FormError JobForm
  | .object fields => Slot.nameOrder.foldlM (fun f k => readSlot f k (fields.lookup k.name)) empty
  | .list items => do
    let f ← (Slot.all.zip items).foldlM (fun f (k, v) => readSlot f k (some v)) empty
    if Slot.all.length < items.length then throw (.tooLong items.length)
    return f
  | v => .error (.notAForm v)

end JobForm

end JobPosting
