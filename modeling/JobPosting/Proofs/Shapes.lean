import JobPosting.Json.Shape
import JobPosting.Proofs.Inversion
import JobPosting.Proofs.JsonText

/-!
# Values of a shape

A text that says a value is read into a shape just as the value asks for, whatever follows it: unknown fields are passed
over, known ones are read in the order in which they come, and none of them twice.

* `Json.Reads` : a value is read, and nothing behind it; `Json.reads_skip` says that any value is passed over.
* `Json.IsExact` : a parser that reads nothing but values.
* `Json.Fills` : the fields of an object lead from one state of a structure to another.
* `Json.reads_struct_object`, `Json.of_struct_object` : a structure is read from an object that fills it, and from no
  other one; `Json.FillsInOrder`, `Json.reads_struct_list` and `Json.of_struct_list` say the same about lists.
-/

namespace JobPosting.Json

/-- The value is read as `a`, and what follows it is left. -/
def Reads {α : Type} (p : Parser α) (v : Json) (a : α) : Prop := ∀ r, p (spelling v ++ r) = .ok (a, r)

/-- Whatever is read of the tokens of a value and others behind them is the value. -/
def IsExact {α : Type} (p : Parser α) : Prop :=
  ∀ ⦃v : Json⦄ ⦃r s : List Token⦄ ⦃a : α⦄, p (spelling v ++ r) = .ok (a, s) → s = r ∧ Reads p v a

/-! ## Passing over values -/

/-- Passes over what comes behind a value inside these brackets. -/
def resume (n : Nesting) (r : List Token) : Except Fault (Unit × List Token) :=
  match behind n with
  | some (next, n) => skipFrom next n r
  | none => .ok ((), r)

theorem skipFrom_of_pass {next : Next} {n m : Nesting} {t : Token} (h : pass next n t = .ok (behind m))
    (r : List Token) : skipFrom next n (t :: r) = resume m r := by
  unfold skipFrom resume
  rw [h]
  cases behind m <;> rfl

mutual

theorem skipFrom_spelling (v : Json) {next : Next} (h : next = .value ∨ next = .item) (n : Nesting) (r : List Token) :
    skipFrom next n (spelling v ++ r) = resume n r := by
  match v with
  | .null | .bool _ | .number _ | .text _ => rcases h with rfl | rfl <;> exact skipFrom_of_pass rfl r
  | .list [] =>
    have hend : skipFrom .item (false :: n) (.closeList :: r) = resume n r := skipFrom_of_pass rfl r
    rcases h with rfl | rfl <;> exact hend
  | .list (v :: vs) =>
    have hitems : skipFrom .item (false :: n) (spelling v ++ ((itemSpellings vs).flatMap (.comma :: ·) ++
        .closeList :: r)) = resume n r := (skipFrom_spelling v (.inr rfl) _ _).trans (skipFrom_items vs n r)
    rw [spelling, itemSpellings, intercalate_cons]
    simp only [List.cons_append, List.append_assoc, List.nil_append]
    rcases h with rfl | rfl <;> exact hitems
  | .object [] =>
    have hend : skipFrom (.name true) (true :: n) (.closeObject :: r) = resume n r := skipFrom_of_pass rfl r
    rcases h with rfl | rfl <;> exact hend
  | .object ((name, v) :: fs) =>
    have hfields : skipFrom .value (true :: n) (spelling v ++ ((fieldSpellings fs).flatMap (.comma :: ·) ++
        .closeObject :: r)) = resume n r := (skipFrom_spelling v (.inl rfl) _ _).trans (skipFrom_fields fs n r)
    rw [spelling, fieldSpellings, intercalate_cons]
    simp only [List.cons_append, List.append_assoc, List.nil_append]
    rcases h with rfl | rfl <;> exact hfields

theorem skipFrom_items (vs : List Json) (n : Nesting) (r : List Token) :
    skipFrom .after (false :: n) ((itemSpellings vs).flatMap (.comma :: ·) ++ .closeList :: r) = resume n r := by
  match vs with
  | [] => exact skipFrom_of_pass rfl r
  | v :: vs =>
    rw [itemSpellings, List.flatMap_cons, List.append_assoc]
    exact (skipFrom_spelling v (.inl rfl) _ _).trans (skipFrom_items vs n r)

theorem skipFrom_fields (fs : List (Text × Json)) (n : Nesting) (r : List Token) :
    skipFrom .after (true :: n) ((fieldSpellings fs).flatMap (.comma :: ·) ++ .closeObject :: r) = resume n r := by
  match fs with
  | [] => exact skipFrom_of_pass rfl r
  | (name, v) :: fs =>
    rw [fieldSpellings, List.flatMap_cons, List.append_assoc]
    exact (skipFrom_spelling v (.inl rfl) _ _).trans (skipFrom_fields fs n r)

end

theorem reads_skip (v : Json) : Reads skip v () := skipFrom_spelling v (.inl rfl) []

/-! ## Simple values -/

theorem reads_textValue (t : Text) : Reads textValue (.text t) t := fun _ => rfl

theorem reads_boolValue (b : Bool) : Reads boolValue (.bool b) b := fun _ => rfl

def ofText? : Option Text → Json
  | some t => .text t
  | none => .null

theorem reads_textOrNull (x : Option Text) : Reads textOrNull (ofText? x) x := by
  cases x <;> exact fun _ => rfl

theorem of_textOrNull {v : Json} {r s : List Token} {x : Option Text} (h : textOrNull (spelling v ++ r) = .ok (x, s)) :
    s = r ∧ v = ofText? x := by
  cases v with
  | null | text t =>
    cases h
    exact ⟨rfl, rfl⟩
  | bool b | number n | list items | object fields => cases h

theorem isExact_textOrNull : IsExact textOrNull := by
  intro v r s x h
  obtain ⟨hr, rfl⟩ := of_textOrNull h
  exact ⟨hr, reads_textOrNull x⟩

section

variable {α β : Type} {p : Parser α} {v : Json} {a : α}

theorem Reads.map (h : Reads p v a) (g : α → β) : Reads (fun ts => (p ts).map fun (x, rest) => (g x, rest)) v (g a) := by
  intro r
  dsimp only
  rw [h r]
  rfl

theorem IsExact.map (h : IsExact p) (g : α → β) : IsExact fun ts => (p ts).map fun (x, rest) => (g x, rest) := by
  intro v r s b hb
  obtain ⟨x, hx, heq⟩ := of_map_eq_ok hb
  cases heq
  exact ⟨(h hx).1, (h hx).2.map g⟩

end

/-! ## Objects -/

section Structures

variable {σ : Type} {fields : List (Field σ)} {s s' : σ}

/-- Fields of an object lead from one state of a structure to another: known ones are read and not set twice, and the
others make no difference. -/
inductive Fills (fields : List (Field σ)) : σ → List (Text × Json) → σ → Prop where
  | nil (s : σ) : Fills fields s [] s
  | known {f : Field σ} {name : Text} {v : Json} {fs : List (Text × Json)} {s t s' : σ} :
      fields.find? (·.name = name) = some f → f.isSet s = false → Reads (f.read s) v t → Fills fields t fs s' →
      Fills fields s ((name, v) :: fs) s'
  | unknown {name : Text} {v : Json} {fs : List (Text × Json)} {s s' : σ} :
      fields.find? (·.name = name) = none → Fills fields s fs s' → Fills fields s ((name, v) :: fs) s'

/-- The tokens of fields behind the brace of an object, or behind another field. -/
def fieldTokens (first : Bool) (fs : List (Text × Json)) : List Token :=
  ((fieldSpellings fs).flatMap (.comma :: ·)).drop first.toNat

theorem spelling_object_append (fs : List (Text × Json)) (r : List Token) :
    spelling (.object fs) ++ r = .openObject :: (fieldTokens true fs ++ .closeObject :: r) := by
  cases fs with
  | nil => rfl
  | cons f fs => simp [spelling, fieldSpellings, intercalate_cons, fieldTokens]

theorem length_le_fieldTokens (fs : List (Text × Json)) : fs.length ≤ (fieldTokens true fs).length := by
  have hlength : 2 * fs.length ≤ ((fieldSpellings fs).flatMap (.comma :: ·)).length := by
    induction fs with
    | nil => exact Nat.le_refl 0
    | cons f fs ih =>
      rw [fieldSpellings, List.flatMap_cons, List.length_append, List.length_cons, List.length_cons, List.length_cons,
        List.length_cons]
      omega
  rw [fieldTokens, List.length_drop, Bool.toNat_true]
  omega

theorem of_complete (h : complete fields s = .ok s') : s' = s := by
  unfold complete at h
  split at h
  · cases h
  · exact (Except.ok.inj h).symm

section

variable {name : Text} {f : Field σ}

theorem namedField_known (hfind : fields.find? (·.name = name) = some f) (hset : f.isSet s = false) (ts : List Token) :
    namedField fields s name (.colon :: ts) = f.read s ts := by
  rw [namedField, hfind]
  simp only [hset, Bool.false_eq_true, if_false]

theorem namedField_unknown (hfind : fields.find? (·.name = name) = none) (s : σ) (v : Json) (r : List Token) :
    namedField fields s name (.colon :: (spelling v ++ r)) = .ok (s, r) := by
  rw [namedField, hfind]
  simp only [reads_skip v r, Except.map]

theorem isSet_of_namedField (hfind : fields.find? (·.name = name) = some f) {ts : List Token} {x : σ × List Token}
    (h : namedField fields s name (.colon :: ts) = .ok x) : f.isSet s = false := by
  rw [namedField, hfind] at h
  cases hset : f.isSet s with
  | false => rfl
  | true => simp [hset] at h

end

theorem objectFields_nil (fuel : Nat) (first : Bool) (s : σ) (r : List Token) :
    objectFields fields (fuel + 1) first s (fieldTokens first [] ++ .closeObject :: r) =
      (complete fields s).map (·, r) := by
  cases first <;> rfl

theorem objectFields_cons (fuel : Nat) (first : Bool) (s : σ) (name : Text) (v : Json) (fs : List (Text × Json))
    (r : List Token) :
    objectFields fields (fuel + 1) first s (fieldTokens first ((name, v) :: fs) ++ .closeObject :: r) =
      (namedField fields s name (.colon :: (spelling v ++ (fieldTokens false fs ++ .closeObject :: r)))).bind
        fun (s, rest) => objectFields fields fuel false s rest := by
  have htokens : fieldTokens false ((name, v) :: fs) ++ .closeObject :: r = .comma :: .text (some name) :: .colon ::
      (spelling v ++ (fieldTokens false fs ++ .closeObject :: r)) := by
    simp [fieldTokens, fieldSpellings]
  have hdrop : fieldTokens true ((name, v) :: fs) ++ .closeObject :: r =
      (fieldTokens false ((name, v) :: fs) ++ .closeObject :: r).drop 1 := rfl
  rw [htokens] at hdrop
  cases first with
  | false =>
    rw [htokens, objectFields]
    cases namedField fields s name _ <;> rfl
  | true =>
    rw [hdrop, List.drop_succ_cons, List.drop_zero, objectFields]
    cases namedField fields s name _ <;> rfl

theorem objectFields_of_fills {fs : List (Text × Json)} (h : Fills fields s fs s') (hs : complete fields s' = .ok s')
    {fuel : Nat} (hfuel : fs.length ≤ fuel) (first : Bool) (r : List Token) :
    objectFields fields (fuel + 1) first s (fieldTokens first fs ++ .closeObject :: r) = .ok (s', r) := by
  induction h generalizing fuel first with
  | nil s =>
    rw [objectFields_nil, hs]
    rfl
  | known hfind hset hread hfs ih =>
    obtain ⟨fuel, rfl⟩ := Nat.exists_eq_add_of_le' (Nat.one_le_of_lt hfuel)
    rw [objectFields_cons, namedField_known hfind hset, hread]
    exact ih hs (Nat.le_of_succ_le_succ hfuel) false
  | unknown hfind hfs ih =>
    obtain ⟨fuel, rfl⟩ := Nat.exists_eq_add_of_le' (Nat.one_le_of_lt hfuel)
    rw [objectFields_cons, namedField_unknown hfind]
    exact ih hs (Nat.le_of_succ_le_succ hfuel) false

theorem fills_of_objectFields (hexact : ∀ f ∈ fields, ∀ s, IsExact (f.read s)) {fs : List (Text × Json)} {fuel : Nat}
    {first : Bool} {r r' : List Token}
    (h : objectFields fields fuel first s (fieldTokens first fs ++ .closeObject :: r) = .ok (s', r')) :
    r' = r ∧ Fills fields s fs s' ∧ complete fields s' = .ok s' := by
  induction fs generalizing fuel first s with
  | nil =>
    cases fuel with
    | zero => cases h
    | succ fuel =>
      rw [objectFields_nil] at h
      obtain ⟨t, hs, heq⟩ := of_map_eq_ok h
      cases heq
      obtain rfl := of_complete hs
      exact ⟨rfl, .nil s', hs⟩
  | cons e fs ih =>
    cases fuel with
    | zero => cases h
    | succ fuel =>
      rw [objectFields_cons] at h
      obtain ⟨⟨t, q⟩, hfield, hrest⟩ := of_bind_eq_ok h
      cases hfind : fields.find? (·.name = e.1) with
      | none =>
        rw [namedField_unknown hfind] at hfield
        cases hfield
        obtain ⟨hr, hfs, hs⟩ := ih hrest
        exact ⟨hr, .unknown hfind hfs, hs⟩
      | some f =>
        have hset := isSet_of_namedField hfind hfield
        rw [namedField_known hfind hset] at hfield
        obtain ⟨rfl, hreads⟩ := hexact f (List.mem_of_find?_eq_some hfind) s hfield
        obtain ⟨hr, hfs, hs⟩ := ih hrest
        exact ⟨hr, .known hfind hset hreads hfs, hs⟩

/-- A structure is read from an object that fills it. -/
theorem reads_struct_object {fs : List (Text × Json)} (h : Fills fields s fs s') (hs : complete fields s' = .ok s') :
    Reads (struct fields s) (.object fs) s' := by
  intro r
  rw [spelling_object_append, struct]
  refine objectFields_of_fills h hs ?_ true r
  rw [List.length_append]
  exact Nat.le_add_right_of_le (length_le_fieldTokens fs)

/-- What is read from an object is a structure that the object fills. -/
theorem of_struct_object (hexact : ∀ f ∈ fields, ∀ s, IsExact (f.read s)) {fs : List (Text × Json)} {r r' : List Token}
    (h : struct fields s (spelling (.object fs) ++ r) = .ok (s', r')) :
    r' = r ∧ Fills fields s fs s' ∧ complete fields s' = .ok s' := by
  rw [spelling_object_append, struct] at h
  exact fills_of_objectFields hexact h

/-! ## Lists -/

/-- The items of a list lead from one state of a structure to another, read as its fields in their order. -/
inductive FillsInOrder : σ → List (Field σ) → List Json → σ → Prop where
  | nil (s : σ) (fields : List (Field σ)) : FillsInOrder s fields [] s
  | cons {f : Field σ} {fields : List (Field σ)} {v : Json} {vs : List Json} {s t s' : σ} :
      Reads (f.read s) v t → FillsInOrder t fields vs s' → FillsInOrder s (f :: fields) (v :: vs) s'

theorem fillsInOrder_nil_iff : FillsInOrder s fields [] s' ↔ s' = s := by
  constructor
  · intro h
    cases h
    rfl
  · rintro rfl
    exact .nil s' fields

theorem fillsInOrder_cons_iff {v : Json} {vs : List Json} :
    FillsInOrder s fields (v :: vs) s' ↔
      ∃ f rest t, fields = f :: rest ∧ Reads (f.read s) v t ∧ FillsInOrder t rest vs s' := by
  constructor
  · intro h
    cases h with
    | cons hread hvs => exact ⟨_, _, _, rfl, hread, hvs⟩
  · rintro ⟨f, rest, t, rfl, hread, hvs⟩
    exact .cons hread hvs

/-- The tokens of items behind the bracket of a list, or behind another item. -/
def itemTokens (first : Bool) (vs : List Json) : List Token :=
  ((itemSpellings vs).flatMap (.comma :: ·)).drop first.toNat

theorem spelling_list_append (vs : List Json) (r : List Token) :
    spelling (.list vs) ++ r = .openList :: (itemTokens true vs ++ .closeList :: r) := by
  cases vs with
  | nil => rfl
  | cons v vs => simp [spelling, itemSpellings, intercalate_cons, itemTokens]

variable {rest : List (Field σ)}

theorem itemTokens_cons_append (first : Bool) (v : Json) (vs : List Json) (r : List Token) :
    itemTokens first (v :: vs) ++ .closeList :: r =
      (if first then [] else [.comma]) ++ (spelling v ++ (itemTokens false vs ++ .closeList :: r)) := by
  cases first <;> simp [itemTokens, itemSpellings]

theorem listFields_nil (first : Bool) (s : σ) (r : List Token) :
    listFields fields first s rest (itemTokens first [] ++ .closeList :: r) =
      if rest = [] then .ok (s, r) else (complete fields s).map (·, r) := by
  cases first <;> cases rest <;> rfl

theorem listFields_cons (first : Bool) (s : σ) (f : Field σ) (v : Json) (vs : List Json) (r : List Token) :
    listFields fields first s (f :: rest) (itemTokens first (v :: vs) ++ .closeList :: r) =
      (f.read s (spelling v ++ (itemTokens false vs ++ .closeList :: r))).bind
        fun (s, q) => listFields fields false s rest q := by
  have hopen : ∀ q, spelling v ++ (itemTokens false vs ++ .closeList :: r) ≠ .closeList :: q :=
    spelling_append_ne_closeList v _
  rw [itemTokens_cons_append]
  generalize spelling v ++ (itemTokens false vs ++ .closeList :: r) = ts at hopen
  cases first with
  | true =>
    rw [if_pos rfl, List.nil_append, listFields.eq_7 fields s ts f rest hopen]
    cases f.read s ts <;> rfl
  | false =>
    rw [if_neg Bool.false_ne_true, List.singleton_append, listFields.eq_5 fields s f rest ts hopen]
    cases f.read s ts <;> rfl

theorem listFields_of_fills {vs : List Json} (h : FillsInOrder s rest vs s') (hs : complete fields s' = .ok s')
    (first : Bool) (r : List Token) :
    listFields fields first s rest (itemTokens first vs ++ .closeList :: r) = .ok (s', r) := by
  induction h generalizing first with
  | nil s rest =>
    rw [listFields_nil, hs]
    exact ite_self _
  | cons hread hvs ih =>
    rw [listFields_cons, hread]
    exact ih hs false

theorem fills_of_listFields (hexact : ∀ f ∈ rest, ∀ s, IsExact (f.read s)) {vs : List Json} {first : Bool}
    {r r' : List Token}
    (h : listFields fields first s rest (itemTokens first vs ++ .closeList :: r) = .ok (s', r')) :
    r' = r ∧ FillsInOrder s rest vs s' := by
  induction vs generalizing rest first s with
  | nil =>
    rw [listFields_nil] at h
    split at h
    · cases h
      exact ⟨rfl, .nil s' rest⟩
    · obtain ⟨t, hs, heq⟩ := of_map_eq_ok h
      cases heq
      obtain rfl := of_complete hs
      exact ⟨rfl, .nil s' rest⟩
  | cons v vs ih =>
    cases rest with
    | nil =>
      have hopen : ∀ q, itemTokens first (v :: vs) ++ .closeList :: r ≠ .closeList :: q := by
        intro q
        rw [itemTokens_cons_append]
        cases first with
        | true => exact spelling_append_ne_closeList v _ q
        | false => exact fun hq => nomatch (List.cons.inj hq).1
      rw [listFields] at h
      · cases h
      · exact hopen
    | cons f rest =>
      rw [listFields_cons] at h
      obtain ⟨hf, hrest⟩ := List.forall_mem_cons.1 hexact
      obtain ⟨⟨t, q⟩, hread, hitems⟩ := of_bind_eq_ok h
      obtain ⟨rfl, hreads⟩ := hf s hread
      obtain ⟨hr, hvs⟩ := ih hrest hitems
      exact ⟨hr, .cons hreads hvs⟩

/-- A structure is read from a list that fills it. -/
theorem reads_struct_list {vs : List Json} (h : FillsInOrder s fields vs s') (hs : complete fields s' = .ok s') :
    Reads (struct fields s) (.list vs) s' := by
  intro r
  rw [spelling_list_append, struct]
  exact listFields_of_fills h hs true r

/-- What is read from a list is a structure that the list fills. -/
theorem of_struct_list (hexact : ∀ f ∈ fields, ∀ s, IsExact (f.read s)) {vs : List Json} {r r' : List Token}
    (h : struct fields s (spelling (.list vs) ++ r) = .ok (s', r')) : r' = r ∧ FillsInOrder s fields vs s' := by
  rw [spelling_list_append, struct] at h
  exact fills_of_listFields hexact h

/-- A structure is read from an object or a list only. -/
theorem exists_of_struct {v : Json} {r r' : List Token} (h : struct fields s (spelling v ++ r) = .ok (s', r')) :
    (∃ fs, v = .object fs) ∨ ∃ vs, v = .list vs := by
  cases v with
  | object fs => exact .inl ⟨fs, rfl⟩
  | list vs => exact .inr ⟨vs, rfl⟩
  | null | bool b | number n | text t => cases h

end Structures

/-! ## Whole texts -/

variable {α : Type} {p : Parser α} {t : Text} {v : Json} {a : α}

theorem readAs_of_reads (h : Reads p v a) (ht : tokens t = v.spelling) : readAs p t = .ok a := by
  have hread := h []
  rw [List.append_nil] at hread
  rw [readAs, ht, hread]

theorem of_readAs (ht : tokens t = v.spelling) (h : readAs p t = .ok a) : p (spelling v ++ []) = .ok (a, []) := by
  rw [List.append_nil, ← ht]
  unfold readAs at h
  split at h
  · rename_i hread
    rw [hread, Except.ok.inj h]
  · cases h
  · cases h

end JobPosting.Json
