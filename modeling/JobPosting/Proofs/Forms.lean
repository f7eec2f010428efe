import JobPosting.Proofs.FrontEnds
import JobPosting.Proofs.Prefill

/-!
# Writing forms and reading them

A form is written as an object with a field for each slot that has a text, the empty one included, and is read back from
it. It is also read from objects with nulls and other fields, and from lists in the order of slots; what is written of it
then are the texts that were given for its slots, and nothing else.

* `JobForm.toJson_eq`, `JobForm.mem_fields_iff` : what is written of a form.
* `JobForm.given?` : what a value gives for a slot; `JobForm.ofJson_eq_ok_iff` says which values are forms, and of what.
* `Request.ofJson_of_formShape`, `Request.reads_formShape` : requests read the same from the tokens of a value.
* `form_codec` : all of this, and what comes of it for the form of an answer.
-/

namespace JobPosting

/-! ## Slots and their names -/

namespace Slot

theorem mem_all (k : Slot) : k ∈ all := by
  cases k <;> decide

theorem mem_nameOrder (k : Slot) : k ∈ nameOrder := by
  cases k <;> decide

theorem nodup_all : all.Nodup := by decide

theorem nodup_nameOrder : nameOrder.Nodup := by decide

theorem name_inj {k l : Slot} : k.name = l.name ↔ k = l := by
  have hall : ∀ k ∈ all, ∀ l ∈ all, k.name = l.name → k = l := by decide
  exact ⟨hall k (mem_all k) l (mem_all l), congrArg name⟩

end Slot

/-! ## Writing -/

namespace JobForm

/-- What a form holds under the name of each slot. -/
def entries (f : JobForm) : List (Text × Option Text) := Slot.all.map fun k => (k.name, f.get k)

variable {f g : JobForm} {k : Slot} {v : Json}

theorem toJson_eq (f : JobForm) : f.toJson = .object (Json.textFields f.entries) := by
  rw [toJson, Json.textFields, entries, List.flatMap_map]

theorem nodup_entries (f : JobForm) : (f.entries.map Prod.fst).Nodup := by
  have hnames : f.entries.map Prod.fst = Slot.all.map Slot.name := List.map_map
  rw [hnames]
  decide

theorem mem_entries (f : JobForm) (k : Slot) : (k.name, f.get k) ∈ f.entries :=
  List.mem_map_of_mem (f := fun k => (k.name, f.get k)) (Slot.mem_all k)

/-- The fields of a form are those of the slots that have a text. -/
theorem mem_fields_iff {field : Text × Json} :
    field ∈ Json.textFields f.entries ↔ ∃ k t, f.get k = some t ∧ field = (k.name, .text t) := by
  rw [Json.mem_textFields_iff]
  constructor
  · rintro ⟨name, t, he, rfl⟩
    obtain ⟨k, -, hk⟩ := List.mem_map.1 he
    obtain ⟨rfl, hget⟩ := Prod.mk.inj hk
    exact ⟨k, t, hget, rfl⟩
  · rintro ⟨k, t, hget, rfl⟩
    exact ⟨k.name, t, hget ▸ f.mem_entries k, rfl⟩

/-! ## Reading entries -/

theorem readSlot_some_eq_ok_iff : readSlot f k (some v) = .ok g ↔ ∃ x, v = Json.ofText? x ∧ g = f.set k x := by
  constructor
  · intro h
    cases v with
    | null =>
      cases h
      exact ⟨none, rfl, rfl⟩
    | text t =>
      cases h
      exact ⟨some t, rfl, rfl⟩
    | bool b | number n | list items | object fields => cases h
  · rintro ⟨x, rfl, rfl⟩
    cases x <;> rfl

/-- What is given for a slot explains its entry: if nothing is given the entry is as it was before, and otherwise the value
that is given is null or a text, and stands for the entry. -/
def Explains : Option Json → Option Text → Option Text → Prop
  | none, before, after => after = before
  | some v, _, after => v = Json.ofText? after

/-- Reading a slot leaves the others as they are. -/
theorem readSlot_eq_ok_iff {x : Option Json} :
    readSlot f k x = .ok g ↔ Explains x (f.get k) (g.get k) ∧ ∀ l, l ≠ k → g.get l = f.get l := by
  cases x with
  | none =>
    constructor
    · intro h
      cases h
      exact ⟨rfl, fun l _ => rfl⟩
    · rintro ⟨hget, hothers⟩
      refine congrArg Except.ok (ext_get fun l => ?_)
      by_cases hl : l = k
      · rw [hl]
        exact hget.symm
      · rw [hothers l hl]
  | some v =>
    rw [readSlot_some_eq_ok_iff]
    constructor
    · rintro ⟨entry, rfl, rfl⟩
      exact ⟨congrArg Json.ofText? (get_set_self f k entry).symm, fun l hl => get_set_of_ne f entry hl⟩
    · rintro ⟨hv, hothers⟩
      refine ⟨_, hv, ext_get fun l => ?_⟩
      by_cases hl : l = k
      · rw [hl, get_set_self]
      · rw [get_set_of_ne f _ hl, hothers l hl]

/-- Slots are read one after the other, and those that are not read stay as they are. -/
theorem foldlM_readSlot {ps : List (Slot × Option Json)} (hps : (ps.map Prod.fst).Nodup) :
    ps.foldlM (fun f p => readSlot f p.1 p.2) f = .ok g ↔
      (∀ p ∈ ps, Explains p.2 (f.get p.1) (g.get p.1)) ∧ ∀ k ∉ ps.map Prod.fst, g.get k = f.get k := by
  induction ps generalizing f with
  | nil =>
    constructor
    · intro h
      cases h
      exact ⟨fun p hp => (nomatch hp), fun k _ => rfl⟩
    · rintro ⟨-, hothers⟩
      exact congrArg Except.ok (ext_get fun k => (hothers k List.not_mem_nil).symm)
  | cons p ps ih =>
    obtain ⟨k, x⟩ := p
    obtain ⟨hk, hnodup⟩ := List.nodup_cons.1 hps
    have hne : ∀ q ∈ ps, q.1 ≠ k := fun q hq heq => hk (List.mem_map.2 ⟨q, hq, heq⟩)
    rw [List.foldlM_cons]
    constructor
    · intro h
      obtain ⟨m, hm, hrest⟩ := of_bind_eq_ok h
      obtain ⟨hentry, hsame⟩ := readSlot_eq_ok_iff.1 hm
      obtain ⟨hentries, hothers⟩ := (ih hnodup).1 hrest
      rw [← hothers k hk] at hentry
      refine ⟨List.forall_mem_cons.2 ⟨hentry, fun q hq => ?_⟩, fun l hl => ?_⟩
      · rw [← hsame q.1 (hne q hq)]
        exact hentries q hq
      · rw [List.map_cons, List.mem_cons, not_or] at hl
        rw [hothers l hl.2, hsame l hl.1]
    · rintro ⟨hentries, hothers⟩
      obtain ⟨hentry, hentries⟩ := List.forall_mem_cons.1 hentries
      have hm : readSlot f k x = .ok (f.set k (g.get k)) :=
        readSlot_eq_ok_iff.2 ⟨by rw [get_set_self]; exact hentry, fun l hl => get_set_of_ne f _ hl⟩
      dsimp only
      rw [hm]
      refine (ih hnodup).2 ⟨fun q hq => ?_, fun l hl => ?_⟩
      · rw [get_set_of_ne f _ (hne q hq)]
        exact hentries q hq
      · by_cases hlk : l = k
        · rw [hlk, get_set_self]
        · rw [get_set_of_ne f _ hlk]
          exact hothers l (by rw [List.map_cons, List.mem_cons, not_or]; exact ⟨hlk, hl⟩)

/-! ## Reading values -/

/-- An object, or a list of no more items than there are slots. -/
def HasShape : Json → Prop
  | .object _ => True
  | .list items => items.length ≤ Slot.all.length
  | _ => False

/-- What a value gives for a slot: the field of its name in an object, and the item at its place in a list. -/
def given? (k : Slot) : Json → Option Json
  | .object fields => fields.lookup k.name
  | .list items => items[Slot.all.idxOf k]?
  | _ => none

@[simp] theorem get_empty (k : Slot) : empty.get k = none := by
  cases k <;> rfl

theorem ofJson_object_eq_ok_iff {fields : List (Text × Json)} :
    ofJson (.object fields) = .ok f ↔ ∀ k, Explains (fields.lookup k.name) none (f.get k) := by
  let ps := Slot.nameOrder.map fun k => (k, fields.lookup k.name)
  have hfst : ps.map Prod.fst = Slot.nameOrder := by simp [ps, Function.comp_def]
  have hread : ofJson (.object fields) = ps.foldlM (fun f p => readSlot f p.1 p.2) empty := by
    rw [List.foldlM_map]
    rfl
  rw [hread, foldlM_readSlot (by rw [hfst]; exact Slot.nodup_nameOrder), hfst]
  constructor
  · rintro ⟨hentries, -⟩ k
    have hentry := hentries _ (List.mem_map_of_mem (Slot.mem_nameOrder k))
    rwa [get_empty] at hentry
  · intro h
    refine ⟨fun p hp => ?_, fun k hk => absurd (Slot.mem_nameOrder k) hk⟩
    obtain ⟨k, -, rfl⟩ := List.mem_map.1 hp
    rw [get_empty]
    exact h k

/-- An item stands at the place of its slot. -/
theorem mem_zip_iff {items : List Json} : (k, v) ∈ Slot.all.zip items ↔ items[Slot.all.idxOf k]? = some v := by
  rw [List.mem_iff_getElem?]
  constructor
  · rintro ⟨i, hi⟩
    obtain ⟨hslot, hitem⟩ := List.getElem?_zip_eq_some.1 hi
    obtain ⟨hlt, rfl⟩ := List.getElem?_eq_some_iff.1 hslot
    rwa [Slot.nodup_all.idxOf_getElem i hlt]
  · intro h
    exact ⟨_, List.getElem?_zip_eq_some.2 ⟨List.getElem?_idxOf (Slot.mem_all k), h⟩⟩

/-- The items of a list with their slots. -/
def itemsBySlot (items : List Json) : List (Slot × Option Json) := (Slot.all.zip items).map fun p => (p.1, some p.2)

theorem mem_itemsBySlot_iff {items : List Json} {x : Option Json} :
    (k, x) ∈ itemsBySlot items ↔ x ≠ none ∧ items[Slot.all.idxOf k]? = x := by
  rw [itemsBySlot, List.mem_map]
  constructor
  · rintro ⟨⟨l, v⟩, hv, heq⟩
    obtain ⟨rfl, rfl⟩ := Prod.mk.inj heq
    exact ⟨nofun, mem_zip_iff.1 hv⟩
  · rintro ⟨hne, hx⟩
    obtain ⟨v, rfl⟩ := Option.ne_none_iff_exists'.1 hne
    exact ⟨(k, v), mem_zip_iff.2 hx, rfl⟩

theorem nodup_itemsBySlot (items : List Json) : ((itemsBySlot items).map Prod.fst).Nodup := by
  have hfst : (itemsBySlot items).map Prod.fst = (Slot.all.zip items).map Prod.fst := List.map_map
  rw [hfst, List.zip_eq_zip_take_min, List.map_fst_zip (by simp)]
  exact (List.take_sublist _ _).nodup Slot.nodup_all

theorem foldlM_items {items : List Json} :
    (Slot.all.zip items).foldlM (fun f (k, v) => readSlot f k (some v)) empty = .ok f ↔
      ∀ k, Explains items[Slot.all.idxOf k]? none (f.get k) := by
  have hread : (Slot.all.zip items).foldlM (fun f (k, v) => readSlot f k (some v)) empty =
      (itemsBySlot items).foldlM (fun f p => readSlot f p.1 p.2) empty := by
    rw [itemsBySlot, List.foldlM_map]
  rw [hread, foldlM_readSlot (nodup_itemsBySlot items)]
  simp only [get_empty]
  constructor
  · rintro ⟨hentries, hothers⟩ k
    by_cases hx : items[Slot.all.idxOf k]? = none
    · rw [hx]
      refine hothers k fun hk => ?_
      obtain ⟨p, hp, rfl⟩ := List.mem_map.1 hk
      obtain ⟨hne, hgiven⟩ := mem_itemsBySlot_iff.1 hp
      exact hne (hgiven.symm.trans hx)
    · exact hentries (k, _) (mem_itemsBySlot_iff.2 ⟨hx, rfl⟩)
  · intro h
    refine ⟨fun p hp => ?_, fun k hk => ?_⟩
    · rw [← (mem_itemsBySlot_iff.1 hp).2]
      exact h p.1
    · have hnone : items[Slot.all.idxOf k]? = none := by
        by_contra hx
        exact hk (List.mem_map.2 ⟨(k, _), mem_itemsBySlot_iff.2 ⟨hx, rfl⟩, rfl⟩)
      have hentry := h k
      rwa [hnone] at hentry

theorem ofJson_list_eq_ok_iff {items : List Json} :
    ofJson (.list items) = .ok f ↔
      items.length ≤ Slot.all.length ∧
        (Slot.all.zip items).foldlM (fun f (k, v) => readSlot f k (some v)) empty = .ok f := by
  unfold ofJson
  dsimp only
  cases (Slot.all.zip items).foldlM (fun f (k, v) => readSlot f k (some v)) empty with
  | error e => exact ⟨fun h => (nomatch h), fun h => (nomatch h.2)⟩
  | ok g =>
    by_cases hlength : Slot.all.length < items.length
    · simp only [hlength, if_true]
      exact iff_of_false (fun h => nomatch h) fun h => absurd hlength (Nat.not_lt.2 h.1)
    · simp only [hlength, if_false]
      exact (and_iff_right (Nat.not_lt.1 hlength)).symm

/-- A value is a form exactly if it has the shape of one, and what it gives for a slot explains the entry. -/
theorem ofJson_eq_ok_iff : ofJson v = .ok f ↔ HasShape v ∧ ∀ k, Explains (given? k v) none (f.get k) := by
  cases v with
  | object fields => exact ofJson_object_eq_ok_iff.trans (and_iff_right trivial).symm
  | list items => exact ofJson_list_eq_ok_iff.trans (and_congr_right fun _ => foldlM_items)
  | null | bool b | number n | text t => exact ⟨fun h => (nomatch h), fun h => h.1.elim⟩

def ofEntries (entry : Slot → Option Text) : JobForm :=
  ⟨entry .foundOn, entry .provider, entry .providerTenant, entry .externalId, entry .hiringCompanyName,
    entry .postingCompanyName, entry .title⟩

@[simp] theorem get_ofEntries (entry : Slot → Option Text) (k : Slot) : (ofEntries entry).get k = entry k := by
  cases k <;> rfl

/-- A value is accepted exactly if it has the shape of a form and gives nulls and texts only. -/
theorem exists_ofJson_iff :
    (∃ f, ofJson v = .ok f) ↔ HasShape v ∧ ∀ k w, given? k v = some w → ∃ x, w = Json.ofText? x := by
  constructor
  · rintro ⟨f, h⟩
    obtain ⟨hshape, hentries⟩ := ofJson_eq_ok_iff.1 h
    refine ⟨hshape, fun k w hw => ⟨f.get k, ?_⟩⟩
    have hentry := hentries k
    rwa [hw] at hentry
  · rintro ⟨hshape, hgiven⟩
    have hentry : ∀ k, ∃ entry, Explains (given? k v) none entry := by
      intro k
      cases hw : given? k v with
      | none => exact ⟨none, rfl⟩
      | some w => exact hgiven k w hw
    choose entry hentry using hentry
    exact ⟨ofEntries entry, ofJson_eq_ok_iff.2 ⟨hshape, fun k => by rw [get_ofEntries]; exact hentry k⟩⟩

/-! ## Writing what was read -/

theorem lookup_fields (f : JobForm) (k : Slot) :
    (Json.textFields f.entries).lookup k.name = (f.get k).map Json.text :=
  Json.lookup_textFields f.nodup_entries (f.mem_entries k)

/-- A form is read from what is written of it. -/
theorem ofJson_toJson (f : JobForm) : ofJson f.toJson = .ok f := by
  rw [toJson_eq, ofJson_object_eq_ok_iff]
  intro k
  rw [lookup_fields]
  cases f.get k <;> rfl

/-- A slot has a text exactly if this text was given for it. -/
theorem get_eq_some_iff {t : Text} (h : ofJson v = .ok f) : f.get k = some t ↔ given? k v = some (.text t) := by
  have hentry := (ofJson_eq_ok_iff.1 h).2 k
  cases hgiven : given? k v with
  | none =>
    rw [hgiven] at hentry
    rw [show f.get k = none from hentry]
    exact iff_of_false nofun nofun
  | some w =>
    rw [hgiven] at hentry
    rw [show w = Json.ofText? (f.get k) from hentry]
    cases f.get k with
    | none => exact iff_of_false nofun nofun
    | some u => simp [Json.ofText?]

end JobForm

/-! ## Reading texts -/

namespace Request

open Json (Reads IsExact Fills FillsInOrder ofText?)

def slotField (k : Slot) : Json.Field FormDraft where
  name := k.name
  isRequired := false
  isSet d := d.given.contains k
  read d ts := (Json.textOrNull ts).map fun (v, rest) => (⟨d.form.set k v, k :: d.given⟩, rest)

theorem formShape_eq : formShape = Json.struct (Slot.all.map slotField) ⟨.empty, []⟩ := rfl

variable {d d' : FormDraft} {k : Slot} {f : JobForm} {v : Json}

theorem complete_slotField (d : FormDraft) : Json.complete (Slot.all.map slotField) d = .ok d := rfl

theorem find?_slotField (k : Slot) : (Slot.all.map slotField).find? (·.name = k.name) = some (slotField k) := by
  cases k <;> rfl

theorem of_find?_slotField {name : Text} {field : Json.Field FormDraft}
    (h : (Slot.all.map slotField).find? (·.name = name) = some field) :
    ∃ k : Slot, name = k.name ∧ field = slotField k := by
  obtain ⟨k, -, rfl⟩ := List.mem_map.1 (List.mem_of_find?_eq_some h)
  have hname := List.find?_some h
  exact ⟨k, (of_decide_eq_true hname).symm, rfl⟩

theorem isSet_slotField_eq_false_iff : (slotField k).isSet d = false ↔ k ∉ d.given := by
  rw [← List.contains_iff_mem, Bool.not_eq_true]
  rfl

theorem isExact_slotField (k : Slot) (d : FormDraft) : IsExact ((slotField k).read d) :=
  Json.isExact_textOrNull.map fun v => (⟨d.form.set k v, k :: d.given⟩ : FormDraft)

theorem reads_slotField (k : Slot) (d : FormDraft) (entry : Option Text) :
    Reads ((slotField k).read d) (ofText? entry) ⟨d.form.set k entry, k :: d.given⟩ :=
  (Json.reads_textOrNull entry).map fun v => (⟨d.form.set k v, k :: d.given⟩ : FormDraft)

theorem of_reads_slotField (h : Reads ((slotField k).read d) v d') :
    ∃ entry, v = ofText? entry ∧ d' = ⟨d.form.set k entry, k :: d.given⟩ := by
  obtain ⟨⟨entry, rest⟩, hread, heq⟩ := of_map_eq_ok (h [])
  cases heq
  exact ⟨entry, (Json.of_textOrNull hread).2, rfl⟩

/-! ### Objects -/

/-- What an object gives for a slot explains the entry, and a slot that was given before is not given again. -/
theorem explains_of_fills {fs : List (Text × Json)} (h : Fills (Slot.all.map slotField) d fs d') (k : Slot) :
    (k ∈ d.given → fs.lookup k.name = none) ∧ JobForm.Explains (fs.lookup k.name) (d.form.get k) (d'.form.get k) := by
  induction h with
  | nil d => exact ⟨fun _ => rfl, rfl⟩
  | known hfind hset hread hfs ih =>
    obtain ⟨j, rfl, rfl⟩ := of_find?_slotField hfind
    obtain ⟨entry, rfl, rfl⟩ := of_reads_slotField hread
    by_cases hk : k = j
    · subst hk
      have hstays := ih.2
      rw [ih.1 List.mem_cons_self, JobForm.get_set_self] at hstays
      rw [List.lookup_cons_self]
      exact ⟨fun hgiven => absurd hgiven (isSet_slotField_eq_false_iff.1 hset), congrArg ofText? hstays.symm⟩
    · have hname : k.name ≠ j.name := fun heq => hk (Slot.name_inj.1 heq)
      rw [JobForm.get_set_of_ne _ _ hk] at ih
      rw [List.lookup_cons, beq_false_of_ne hname]
      exact ⟨fun hgiven => ih.1 (List.mem_cons_of_mem _ hgiven), ih.2⟩
  | unknown hfind hfs ih =>
    rename_i name v fs d d'
    have hname : k.name ≠ name := by
      rintro rfl
      rw [find?_slotField] at hfind
      cases hfind
    rw [List.lookup_cons, beq_false_of_ne hname]
    exact ih

/-- An object with distinct names is read if every slot is given null or a text. -/
theorem exists_fills {fs : List (Text × Json)} (hdistinct : (fs.map Prod.fst).Nodup)
    (hgiven : ∀ k ∈ d.given, k.name ∉ fs.map Prod.fst) (hentries : ∀ k v, (Slot.name k, v) ∈ fs → ∃ x, v = ofText? x) :
    ∃ d', Fills (Slot.all.map slotField) d fs d' := by
  induction fs generalizing d with
  | nil => exact ⟨d, .nil d⟩
  | cons e fs ih =>
    obtain ⟨name, v⟩ := e
    obtain ⟨hname, hfs⟩ := List.nodup_cons.1 hdistinct
    have hrest : ∀ k v, (Slot.name k, v) ∈ fs → ∃ x, v = ofText? x :=
      fun k v hv => hentries k v (List.mem_cons_of_mem _ hv)
    have hold : ∀ k ∈ d.given, k.name ≠ name ∧ k.name ∉ fs.map Prod.fst := fun k hk => by
      have hnew := hgiven k hk
      rwa [List.map_cons, List.mem_cons, not_or] at hnew
    cases hfind : (Slot.all.map slotField).find? (·.name = name) with
    | none =>
      obtain ⟨d', hd'⟩ := ih hfs (fun k hk => (hold k hk).2) hrest
      exact ⟨d', .unknown hfind hd'⟩
    | some field =>
      obtain ⟨k, rfl, rfl⟩ := of_find?_slotField hfind
      obtain ⟨x, rfl⟩ := hentries k v List.mem_cons_self
      have hset := isSet_slotField_eq_false_iff.2 fun hk => (hold k hk).1 rfl
      have hstep : ∀ l ∈ k :: d.given, l.name ∉ fs.map Prod.fst :=
        List.forall_mem_cons.2 ⟨hname, fun l hl => (hold l hl).2⟩
      obtain ⟨d', hd'⟩ := ih (d := ⟨d.form.set k x, k :: d.given⟩) hfs hstep hrest
      exact ⟨d', .known hfind hset (reads_slotField k d x) hd'⟩

/-! ### Lists -/

/-- The items of a list are read just as those of a value are. -/
theorem exists_fillsInOrder_iff {ks : List Slot} {vs : List Json} :
    (∃ d', FillsInOrder d (ks.map slotField) vs d' ∧ d'.form = f) ↔
      vs.length ≤ ks.length ∧ (ks.zip vs).foldlM (fun f (k, v) => JobForm.readSlot f k (some v)) d.form = .ok f := by
  induction vs generalizing d ks with
  | nil =>
    rw [List.zip_nil_right, List.foldlM_nil]
    constructor
    · rintro ⟨d', hd', rfl⟩
      rw [Json.fillsInOrder_nil_iff.1 hd']
      exact ⟨Nat.zero_le _, rfl⟩
    · rintro ⟨-, h⟩
      exact ⟨d, Json.fillsInOrder_nil_iff.2 rfl, Except.ok.inj h⟩
  | cons v vs ih =>
    cases ks with
    | nil =>
      refine iff_of_false ?_ fun h => (nomatch h.1)
      rintro ⟨d', hd', -⟩
      obtain ⟨_, _, _, heq, -⟩ := Json.fillsInOrder_cons_iff.1 hd'
      cases heq
    | cons k ks =>
      rw [List.zip_cons_cons, List.foldlM_cons, List.length_cons, List.length_cons, Nat.add_le_add_iff_right]
      dsimp only
      constructor
      · rintro ⟨d', hd', hform⟩
        obtain ⟨_, _, _, heq, hread, hvs⟩ := Json.fillsInOrder_cons_iff.1 hd'
        obtain ⟨rfl, rfl⟩ := List.cons.inj heq
        obtain ⟨x, rfl, rfl⟩ := of_reads_slotField hread
        rw [JobForm.readSlot_some_eq_ok_iff.2 ⟨x, rfl, rfl⟩]
        exact ih.1 ⟨d', hvs, hform⟩
      · rintro ⟨hlength, h⟩
        obtain ⟨g, hslot, hrest⟩ := of_bind_eq_ok h
        obtain ⟨x, rfl, rfl⟩ := JobForm.readSlot_some_eq_ok_iff.1 hslot
        obtain ⟨d', hvs, hform⟩ := ih (d := ⟨d.form.set k x, k :: d.given⟩) |>.2 ⟨hlength, hrest⟩
        exact ⟨d', .cons (reads_slotField k d x) hvs, hform⟩

/-! ### Forms -/

/-- What is read of the tokens of a value is the form that the value is read as. -/
theorem ofJson_of_formShape {r s : List Json.Token} (h : formShape (Json.spelling v ++ r) = .ok (d, s)) :
    s = r ∧ JobForm.ofJson v = .ok d.form := by
  rw [formShape_eq] at h
  have hexact : ∀ field ∈ Slot.all.map slotField, ∀ d, IsExact (field.read d) := by
    intro field hfield d
    obtain ⟨k, -, rfl⟩ := List.mem_map.1 hfield
    exact isExact_slotField k d
  obtain ⟨fs, rfl⟩ | ⟨vs, rfl⟩ := Json.exists_of_struct h
  · obtain ⟨hr, hfills, -⟩ := Json.of_struct_object hexact h
    refine ⟨hr, JobForm.ofJson_object_eq_ok_iff.2 fun k => ?_⟩
    have hentry := (explains_of_fills hfills k).2
    rwa [JobForm.get_empty] at hentry
  · obtain ⟨hr, hfills⟩ := Json.of_struct_list hexact h
    exact ⟨hr, JobForm.ofJson_list_eq_ok_iff.2 (exists_fillsInOrder_iff.1 ⟨d, hfills, rfl⟩)⟩

/-- A form is read from the tokens of a value that it is read from as a value, if no name stands there twice. -/
theorem reads_formShape (h : JobForm.ofJson v = .ok f) (hdistinct : ∀ fs, v = .object fs → (fs.map Prod.fst).Nodup) :
    ∃ d, Reads formShape v d ∧ d.form = f := by
  cases v with
  | object fs =>
    have hentries : ∀ k v, (Slot.name k, v) ∈ fs → ∃ x, v = ofText? x := by
      intro k v hv
      have hentry := JobForm.ofJson_object_eq_ok_iff.1 h k
      rw [Json.lookup_of_mem (hdistinct fs rfl) hv] at hentry
      exact ⟨_, hentry⟩
    obtain ⟨d, hd⟩ := exists_fills (d := ⟨.empty, []⟩) (hdistinct fs rfl) (fun k hk => nomatch hk) hentries
    have hreads : Reads formShape (.object fs) d := Json.reads_struct_object hd (complete_slotField d)
    have hsame := (ofJson_of_formShape (hreads [])).2
    rw [h] at hsame
    exact ⟨d, hreads, (Except.ok.inj hsame).symm⟩
  | list items =>
    obtain ⟨d, hd, hform⟩ := exists_fillsInOrder_iff (d := ⟨.empty, []⟩).2 (JobForm.ofJson_list_eq_ok_iff.1 h)
    exact ⟨d, Json.reads_struct_list hd (complete_slotField d), hform⟩
  | null | bool b | number n | text t => cases h

/-- What is written of a form is read as the form. -/
theorem reads_toJson (f : JobForm) : ∃ d, Reads formShape f.toJson d ∧ d.form = f :=
  reads_formShape f.ofJson_toJson fun fs hfs => by
    rw [JobForm.toJson_eq, Json.object.injEq] at hfs
    rw [← hfs]
    exact Json.nodup_textFields f.nodup_entries

/-! ### Requests to fill in a form -/

/-- The body of a request to fill in a form. -/
def prefillBody (url : Text) (form : Json) (keepTracking : Bool) : Json :=
  .object [("url".toList, .text url), ("form".toList, form), ("disableAts".toList, .bool keepTracking)]

theorem reads_prefillShape (url : Text) {form : Json} (hform : Reads formShape form d) (keepTracking : Bool) :
    Reads prefillShape (prefillBody url form keepTracking) ⟨some url, some d.form, some keepTracking⟩ := by
  refine Json.reads_struct_object ?_ rfl
  have hurl := (Json.reads_textValue url).map fun url => (⟨some url, none, none⟩ : PrefillDraft)
  have hform := hform.map fun d => (⟨some url, some d.form, none⟩ : PrefillDraft)
  have hkeep := (Json.reads_boolValue keepTracking).map fun keep => (⟨some url, some d.form, some keep⟩ : PrefillDraft)
  exact .known rfl rfl hurl (.known rfl rfl hform (.known rfl rfl hkeep (.nil _)))

/-- A form that has been written is received as it was. -/
theorem prefill_of_says {r : Request} {url : Text} {keepTracking : Bool} (hjson : r.jsonBody = .ok r.body)
    (hbody : Json.Says r.body (prefillBody url f.toJson keepTracking)) (hne : url ≠ [])
    (hlength : url.length ≤ maxUrlLength) : r.prefill = .ok ⟨url, f, keepTracking⟩ := by
  obtain ⟨d, hd, rfl⟩ := reads_toJson f
  have hurl : checkUrl url = .ok url := checkUrl_eq_ok_iff.2 ⟨rfl, List.length_pos_iff.2 hne, hlength⟩
  unfold prefill readBody
  rw [hjson]
  dsimp only
  rw [Json.readAs_of_reads (reads_prefillShape url hd keepTracking) hbody.tokens]
  simp only [Except.bind, Option.getD_some, hurl, Except.map]

end Request

theorem Service.Prefilled.get?_form (p : Service.Prefilled) : p.toJson.get? "form" = some p.form.toJson := rfl

/-- What is written of a form is read as this form, from its value and from every text that says it, so that the form of
an answer can be sent again as it is. And whatever value a form is read from, what is written of the form are the texts
that the value gives for its slots, each as it was given, and nothing else; a value is accepted exactly if it is an object
or a list that is not too long, and gives nulls and texts only, and the texts that say the value are read as it is. -/
theorem form_codec :
    Slot.all.map Slot.name = ["foundOn".toList, "provider".toList, "providerTenant".toList, "externalId".toList,
      "hiringCompanyName".toList, "postingCompanyName".toList, "title".toList] ∧
    (∀ f : JobForm, JobForm.ofJson f.toJson = .ok f ∧ Json.Says f.toJson.print f.toJson ∧
      ∀ t, Json.Says t f.toJson → ∃ d, Json.readAs Request.formShape t = .ok d ∧ d.form = f) ∧
    (∀ (a : App) (r : Request) (v : Json), r.path = "/api/prefill".toList → r.method = "POST".toList →
      a.value? r = some v → ∃ f : JobForm, v.get? "form" = some f.toJson ∧
        ∀ (q : Request) (url : Text) (keepTracking : Bool), q.jsonBody = .ok q.body →
          Json.Says q.body (Request.prefillBody url f.toJson keepTracking) → url ≠ [] → url.length ≤ maxUrlLength →
          q.prefill = .ok ⟨url, f, keepTracking⟩) ∧
    (∀ (v : Json) (f : JobForm), JobForm.ofJson v = .ok f → ∃ fs, f.toJson = .object fs ∧ (fs.map Prod.fst).Nodup ∧
      ∀ field, field ∈ fs ↔ ∃ k t, JobForm.given? k v = some (.text t) ∧ field = (k.name, .text t)) ∧
    (∀ v : Json, (∃ f, JobForm.ofJson v = .ok f) ↔
      JobForm.HasShape v ∧ ∀ k w, JobForm.given? k v = some w → ∃ x, w = Json.ofText? x) ∧
    ∀ (v : Json) (t : Text), Json.tokens t = v.spelling →
      (∀ d, Json.readAs Request.formShape t = .ok d → JobForm.ofJson v = .ok d.form) ∧
      ((∀ fs, v = .object fs → (fs.map Prod.fst).Nodup) → ∀ f, JobForm.ofJson v = .ok f →
        ∃ d, Json.readAs Request.formShape t = .ok d ∧ d.form = f) := by
  refine ⟨rfl, fun f => ⟨f.ofJson_toJson, ?_, fun t ht => ?_⟩, fun a r v hpath hm hv => ?_, fun v f hf => ?_,
    fun v => JobForm.exists_ofJson_iff, fun v t ht => ⟨fun d hd => ?_, fun hdistinct f hf => ?_⟩⟩
  · exact Json.says_print (by rw [f.toJson_eq]; exact Json.isPlain_textFields f.nodup_entries)
  · obtain ⟨d, hd, hform⟩ := Request.reads_toJson f
    exact ⟨d, Json.readAs_of_reads hd ht.tokens, hform⟩
  · obtain ⟨d, -, rfl⟩ := App.of_value?_prefill hpath hm hv
    exact ⟨_, Service.Prefilled.get?_form _, fun q url keepTracking => Request.prefill_of_says⟩
  · refine ⟨_, f.toJson_eq, Json.nodup_textFields f.nodup_entries, fun field => ?_⟩
    simp only [JobForm.mem_fields_iff, JobForm.get_eq_some_iff hf]
  · exact (Request.ofJson_of_formShape (Json.of_readAs ht hd)).2
  · obtain ⟨d, hd, hform⟩ := Request.reads_formShape hf hdistinct
    exact ⟨d, Json.readAs_of_reads hd ht, hform⟩

/-- A request with a form in the order of slots: an empty text, a null, and a text that is written with an escape. -/
def listRequest : Request :=
  ⟨"POST", "/api/prefill", [("Content-Type", "application/json")],
    "\x7b\"url\": \"-x\", \"form\": [\"\", null, \"a\\\"b\"]\x7d", some "10.0.0.1", false⟩

/-- The form of the answer to this request is sent again; and an object with nulls and other fields is read. -/
theorem form_codec_list :
    let f : JobForm := { JobForm.empty with foundOn := some [], providerTenant := some "a\"b" }
    let q : Request := { listRequest with body := (Request.prefillBody "-x" f.toJson true).print }
    let v : Json := .object [("nickname".toList, .number 7), ("title".toList, .null), ("foundOn".toList, .text [])]
    let t : Text := "\x7b\"nickname\": 7.0, \"title\": null, \"foundOn\": \"\"\x7d"
    (∃ w, freshApp.value? listRequest = some w ∧ w.get? "form" = some f.toJson ∧ q.prefill = .ok ⟨"-x", f, true⟩) ∧
    ∃ g, JobForm.ofJson v = .ok g ∧
      (∃ fs, g.toJson = .object fs ∧ ∀ field, field ∈ fs ↔ field = ("foundOn".toList, .text [])) ∧
      ∃ d, Json.readAs Request.formShape t = .ok d ∧ d.form = g := by
  intro f q v t
  obtain ⟨-, hwrite, hanswer, hread, haccept, htext⟩ := form_codec
  constructor
  · have hsome : (freshApp.value? listRequest).isSome = true := by decide +kernel
    obtain ⟨w, hw⟩ := Option.isSome_iff_exists.1 hsome
    obtain ⟨f', hf', hagain⟩ := hanswer freshApp listRequest w (by decide) (by decide) hw
    obtain ⟨d, hd, hfilledIn⟩ := App.of_value?_prefill (by decide) (by decide) hw
    have hform := congrArg (Json.get? "form") hfilledIn
    rw [Service.Prefilled.get?_form] at hform
    have hdata : listRequest.prefill.map (fun d => (d.url, d.form, d.keepTracking)) = .ok ("-x".toList, f, false) := by
      decide +kernel
    have hfilled : (freshApp.service.prefill "-x" f false).1.form = f := by decide +kernel
    rw [hd] at hdata
    obtain ⟨hurl, hd⟩ := Prod.mk.inj (Except.ok.inj hdata)
    obtain ⟨hd, hkeep⟩ := Prod.mk.inj hd
    rw [hurl, hd, hkeep, hfilled] at hform
    obtain rfl : f = f' := by
      have hsame : f.toJson = f'.toJson := Option.some.inj (hform.symm.trans hf')
      have hback := (hwrite f').1
      rw [← hsame, (hwrite f).1] at hback
      exact Except.ok.inj hback
    have hjson : q.jsonBody = .ok q.body := by decide +kernel
    exact ⟨w, hw, hf', hagain q "-x" true hjson (Json.says_print (by decide)) (by decide) (by decide)⟩
  · obtain ⟨g, hg⟩ := (haccept v).2 ⟨trivial, fun k w hw => by
      cases k <;> cases hw
      · exact ⟨some [], rfl⟩
      · exact ⟨none, rfl⟩⟩
    obtain ⟨fs, hfs, -, hmem⟩ := hread v g hg
    have htokens : Json.tokens t = v.spelling := by decide +kernel
    have hdistinct : ∀ gs, v = .object gs → (gs.map Prod.fst).Nodup := by
      intro gs hgs
      rw [← Json.object.inj hgs]
      decide
    refine ⟨g, hg, ⟨fs, hfs, fun field => (hmem field).trans ⟨?_, ?_⟩⟩, (htext v _ htokens).2 hdistinct g hg⟩
    · rintro ⟨k, t, hk, rfl⟩
      cases k <;> cases hk
      rfl
    · rintro rfl
      exact ⟨.foundOn, [], rfl, rfl⟩

end JobPosting
