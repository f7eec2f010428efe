import JobPosting.Proofs.FrontEnds
import Mathlib.Data.List.Nodup

/-!
# What is told about a posting

What is answered about a posting is an object without repeated names. Its earlier names tell the same as the present
ones, and nothing is lost: the record, or that there is none, can be told from the object, in whatever order its fields
are seen, and from every text that is printed of it, whatever characters it holds.

* `Json.eq_of_print`, `Json.eq_of_printPretty` : a value can be told from what is printed of it.
* `Json.eq_of_textFields` : named texts can be told from their fields.
* `Record.told` : what is told about a posting under each name; `Record.eq_of_told` says that the outcome can be told
  from it.
* `answer_faithful` : what an answer looks like, and that the outcome can be told from it and from its text.
-/

namespace JobPosting

namespace Json

/-! ## Printed values -/

section

variable {v w : Json} (hv : v.isPlain = true) (hw : w.isPlain = true)

include hv hw

/-- A value can be told from what is printed of it. -/
theorem eq_of_print (h : v.print = w.print) : v = w := by
  have htext := says_print hv
  rw [h] at htext
  exact htext.unique (says_print hw)

theorem eq_of_printPretty (h : v.printPretty 0 = w.printPretty 0) : v = w := by
  have htext : ∀ {u : Json}, u.isPlain = true → Says (u.printPretty 0) u := by
    intro u hu
    have hu := says_printPretty hu [] fun c hc => nomatch hc
    rwa [List.append_nil] at hu
  have hboth := htext hv
  rw [h] at hboth
  exact hboth.unique (htext hw)

end

/-! ## Named texts -/

section

variable {l m : List (Text × Option Text)}

/-- Fields that are found under their names are all there. -/
theorem mem_textFields_of_lookup (h : (l.map Prod.fst).Nodup)
    (hlookup : ∀ name, (textFields l).lookup name = (textFields m).lookup name) {f : Text × Json}
    (hf : f ∈ textFields l) : f ∈ textFields m := by
  obtain ⟨name, t, he, rfl⟩ := mem_textFields_iff.1 hf
  have hfound : (textFields m).lookup name = some (.text t) := by
    rw [← hlookup]
    exact lookup_textFields h he
  obtain ⟨front, back, hm, -⟩ := List.lookup_eq_some_iff.1 hfound
  rw [hm]
  exact List.mem_append_right front List.mem_cons_self

variable (hnames : l.map Prod.fst = m.map Prod.fst) (h : (l.map Prod.fst).Nodup)

include hnames h

/-- A text that one list has under a name, the other one has, too. -/
theorem value_of_textFields (hmem : ∀ f ∈ textFields l, f ∈ textFields m) {name t : Text} {value : Option Text}
    (hl : (name, some t) ∈ l) (hm : (name, value) ∈ m) : value = some t := by
  obtain ⟨name', t', hm', heq⟩ := mem_textFields_iff.1 (hmem _ (mem_textFields_iff.2 ⟨name, t, hl, rfl⟩))
  cases heq
  rw [hnames] at h
  exact congrArg Prod.snd (List.inj_on_of_nodup_map h hm hm' rfl)

/-- Under distinct names, the same fields stand for the same texts. -/
theorem eq_of_textFields (hmem : ∀ f, f ∈ textFields l ↔ f ∈ textFields m) : l = m := by
  have hlength : l.length = m.length := by simpa using congrArg List.length hnames
  refine List.ext_getElem hlength fun i hl hm => ?_
  have hname : l[i].1 = m[i].1 := by
    have hi := List.getElem_of_eq hnames (show i < (l.map Prod.fst).length by simpa using hl)
    simpa using hi
  have hinl : (l[i].1, l[i].2) ∈ l := List.getElem_mem hl
  have hinm : (l[i].1, m[i].2) ∈ m := by
    rw [hname]
    exact List.getElem_mem hm
  have hvalue : l[i].2 = m[i].2 := by
    cases hv : l[i].2 with
    | some t =>
      rw [hv] at hinl
      exact (value_of_textFields hnames h (fun f hf => (hmem f).1 hf) hinl hinm).symm
    | none =>
      rw [hv] at hinl
      cases hw : m[i].2 with
      | none => rfl
      | some t =>
        rw [hw] at hinm
        exact value_of_textFields hnames.symm (hnames ▸ h) (fun f hf => (hmem f).2 hf) hinm hinl
  exact Prod.ext hname hvalue

end

/-! ## Sorted fields -/

theorem sortFields_textFields (entries : List (Text × Option Text)) :
    sortFields (textFields entries) = textFields entries := by
  induction entries with
  | nil => rfl
  | cons e entries ih =>
    rw [textFields_cons]
    cases e.2 with
    | none => exact ih
    | some t => exact congrArg (textField e.1 t :: ·) ih

/-- Sorting neither adds nor loses a field that holds a text. -/
theorem mem_textFields_of_sortKeys {l m : List (Text × Option Text)}
    (h : (Json.object (textFields l)).sortKeys = (Json.object (textFields m)).sortKeys) (f : Text × Json) :
    f ∈ textFields l ↔ f ∈ textFields m := by
  rw [sortKeys, sortKeys, sortFields_textFields, sortFields_textFields, Json.object.injEq] at h
  rw [← (List.mergeSort_perm (textFields l) fun a b => nameLe a.1 b.1).mem_iff, h]
  exact (List.mergeSort_perm (textFields m) fun a b => nameLe a.1 b.1).mem_iff

end Json

/-! ## Records -/

namespace Record

theorem entries_inj {r s : Record} (h : r.entries = s.entries) : r = s := by
  cases r
  cases s
  simp only [entries, List.cons.injEq, Prod.mk.injEq, Option.some.injEq, true_and, and_true] at h
  obtain ⟨hfoundOn, hprovider, htenant, hid, hhiring, hposting, htitle, -⟩ := h
  rw [hfoundOn, hprovider, htenant, hid, hhiring, hposting, htitle]

/-- What is told about a posting, under each name. -/
def told : Option Record → List (Text × Option Text)
  | some r => r.entries
  | none => []

theorem answer_eq (outcome : Option Record) : answer outcome = .object (Json.textFields (told outcome)) := by
  cases outcome with
  | none => rfl
  | some r => exact r.toJson_eq

theorem nodup_told (outcome : Option Record) : ((told outcome).map Prod.fst).Nodup := by
  cases outcome with
  | none => exact List.nodup_nil
  | some r => exact r.nodup_entries

/-- A record is told by a field, at the least. -/
theorem textFields_entries_ne_nil (r : Record) : Json.textFields r.entries ≠ [] :=
  List.cons_ne_nil (Json.textField "foundOn" r.foundOn) _

/-- The same fields tell of the same outcome. -/
theorem eq_of_told {o p : Option Record} (h : ∀ f, f ∈ Json.textFields (told o) ↔ f ∈ Json.textFields (told p)) :
    o = p := by
  cases o with
  | none =>
    cases p with
    | none => rfl
    | some s => exact absurd (List.eq_nil_iff_forall_not_mem.2 fun f hf => nomatch (h f).2 hf) s.textFields_entries_ne_nil
  | some r =>
    cases p with
    | none => exact absurd (List.eq_nil_iff_forall_not_mem.2 fun f hf => nomatch (h f).1 hf) r.textFields_entries_ne_nil
    | some s => exact congrArg some (entries_inj (Json.eq_of_textFields rfl r.nodup_entries h))

end Record

/-- What is answered about a posting is an object without repeated names, which is empty exactly if there is no record.
Each name has what the record holds under it, and is left out if the record holds nothing; so that `source` has what
`foundOn` has, `company` what `hiringCompanyName` has, and `talentAgency` what `postingCompanyName` has. Two outcomes
have answers with the same values under all names, or with the same text, plain or with sorted fields on lines of their
own, only if they are the same outcome. -/
theorem answer_faithful :
    (∀ outcome : Option Record, ∃ fs, Record.answer outcome = .object fs ∧ (fs.map Prod.fst).Nodup ∧
      (fs = [] ↔ outcome = none) ∧ fs.lookup "source".toList = fs.lookup "foundOn".toList ∧
      fs.lookup "company".toList = fs.lookup "hiringCompanyName".toList ∧
      fs.lookup "talentAgency".toList = fs.lookup "postingCompanyName".toList ∧
      ∀ r, outcome = some r → ∀ e ∈ r.entries, fs.lookup e.1 = e.2.map Json.text) ∧
    ∀ o p : Option Record,
      ((∀ name, (Record.answer o).get? name = (Record.answer p).get? name) ↔ o = p) ∧
      ((Record.answer o).print = (Record.answer p).print ↔ o = p) ∧
      ((Record.answer o).sortKeys.printPretty 0 = (Record.answer p).sortKeys.printPretty 0 ↔ o = p) := by
  constructor
  · intro outcome
    refine ⟨_, Record.answer_eq outcome, Json.nodup_textFields (Record.nodup_told outcome), ?_⟩
    cases outcome with
    | none => exact ⟨⟨fun _ => rfl, fun _ => rfl⟩, rfl, rfl, rfl, fun r hr => nomatch hr⟩
    | some r =>
      have hlookup : ∀ e ∈ r.entries, (Json.textFields r.entries).lookup e.1 = e.2.map Json.text :=
        fun e he => Json.lookup_textFields r.nodup_entries he
      have hsame : ∀ earlier name value, (earlier, value) ∈ r.entries → (name, value) ∈ r.entries →
          (Json.textFields r.entries).lookup earlier = (Json.textFields r.entries).lookup name :=
        fun _ _ _ hearlier hname => (hlookup _ hearlier).trans (hlookup _ hname).symm
      refine ⟨⟨fun h => absurd h r.textFields_entries_ne_nil, fun h => nomatch h⟩, ?_, ?_, ?_, ?_⟩
      · exact hsame _ _ (some r.foundOn) (by simp [Record.entries]) (by simp [Record.entries])
      · exact hsame _ _ r.hiringCompany (by simp [Record.entries]) (by simp [Record.entries])
      · exact hsame _ _ r.postingCompany (by simp [Record.entries]) (by simp [Record.entries])
      · intro s hs
        cases hs
        exact hlookup
  · intro o p
    refine ⟨⟨fun h => ?_, fun h name => by rw [h]⟩, ⟨fun h => ?_, fun h => by rw [h]⟩, ⟨fun h => ?_, fun h => by rw [h]⟩⟩
    · rw [Record.answer_eq, Record.answer_eq] at h
      exact Record.eq_of_told fun f => ⟨Json.mem_textFields_of_lookup (Record.nodup_told o) h,
        Json.mem_textFields_of_lookup (Record.nodup_told p) fun name => (h name).symm⟩
    · have hsame := Json.eq_of_print (Record.isPlain_answer o) (Record.isPlain_answer p) h
      rw [Record.answer_eq, Record.answer_eq, Json.object.injEq] at hsame
      exact Record.eq_of_told fun f => by rw [hsame]
    · have hplain : ∀ q, (Record.answer q).sortKeys.isPlain = true := fun q => by
        rw [Json.isPlain_sortKeys, Record.isPlain_answer]
      have hsame := Json.eq_of_printPretty (hplain o) (hplain p) h
      rw [Record.answer_eq, Record.answer_eq] at hsame
      exact Record.eq_of_told (Json.mem_textFields_of_sortKeys hsame)

/-- A name of an employer that is empty is told, and makes a difference, also beside a quotation mark and a bell. -/
theorem answer_faithful_empty :
    let r : Record := ⟨"a\"b", "lever", [], "1\\\n", some [], none, some "\u0007"⟩
    let s : Record := { r with hiringCompany := none }
    (∃ fs, Record.answer (some r) = .object fs ∧ fs.lookup "company".toList = some (.text [])) ∧
      (Record.answer (some r)).print ≠ (Record.answer (some s)).print := by
  intro r s
  obtain ⟨fs, hfs, -, -, -, -, -, hall⟩ := answer_faithful.1 (some r)
  refine ⟨⟨fs, hfs, hall r rfl ("company", some []) (by simp [Record.entries, r])⟩, fun h => ?_⟩
  have hsame : some r = some s := (answer_faithful.2 (some r) (some s)).2.1.1 h
  exact absurd hsame (by decide)

end JobPosting
