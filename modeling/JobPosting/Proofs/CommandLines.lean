import JobPosting.CommandLine.Output
import JobPosting.Proofs.JsonText

/-!
# What command lines print

A command line that asks for the JSON of some URLs prints their records. A URL that begins with a hyphen has to stand
behind a lone `--`, for it would be taken for flags elsewhere.

* `Command.Asks` : a command line asks for the JSON of some URLs; `Command.read_of_asks` says that it is read so.
* `Output.Prints` : what a command line prints says a value; `Output.prints_jsonOf` says which.
-/

namespace JobPosting

/-! ## Arguments -/

namespace Command

/-- A text that is taken for a value wherever it stands: it does not begin with a hyphen, or is nothing else. -/
def IsValue (t : Text) : Prop := t.head? = some '-' → t = ['-']

/-- The command for the JSON of URLs, after clean-up or without it. -/
def jsonCommand (clean : Bool) : List Text := if clean then ["url", "--json", "--sanitize"] else ["url", "--json"]

/-- A command line asks for the JSON of some URLs: they stand behind a lone `--`, or are all taken for values. -/
def Asks (clean : Bool) (us arguments : List Text) : Prop :=
  arguments = jsonCommand clean ++ "--".toList :: us ∨ arguments = jsonCommand clean ++ us ∧ ∀ u ∈ us, IsValue u

theorem foldlM_addValue (g : Given) (us : List Text) :
    us.foldlM (addValue none) g = .ok { g with values := us.reverse ++ g.values } := by
  induction us generalizing g with
  | nil => rfl
  | cons u us ih =>
    show us.foldlM (addValue none) { g with values := u :: g.values } = _
    rw [ih, List.reverse_cons, List.append_assoc]
    rfl

theorem readArguments_value {u : Text} (h : IsValue u) (known : List Flag) (g : Given) (r : List Text) :
    readArguments known none g (u :: r) = readArguments known none { g with values := u :: g.values } r := by
  match u with
  | [] => rfl
  | c :: cs =>
    by_cases hc : c = '-'
    · subst hc
      obtain rfl : cs = [] := (List.cons.inj (h rfl)).2
      rfl
    · rw [readArguments]
      · rfl
      all_goals simp [hc]

theorem readArguments_values (known : List Flag) (g : Given) {us : List Text} (h : ∀ u ∈ us, IsValue u) :
    readArguments known none g us = .ok { g with values := us.reverse ++ g.values } := by
  induction us generalizing g with
  | nil => rfl
  | cons u us ih =>
    rw [readArguments_value (h u List.mem_cons_self), ih _ fun v hv => h v (List.mem_cons_of_mem _ hv),
      List.reverse_cons, List.append_assoc]
    rfl

theorem read_url {g : Given} {arguments : List Text}
    (h : readArguments [jsonFlag, cleanFlag] none ⟨[], []⟩ arguments = .ok g) (hg : g.values ≠ []) :
    read ("url".toList :: arguments) =
      some (.urls g.values.reverse (g.flags.contains jsonFlag) (g.flags.contains cleanFlag)) := by
  have hnamed : readNamed "url".toList arguments =
      .ok (.urls g.values.reverse (g.flags.contains jsonFlag) (g.flags.contains cleanFlag)) := by
    unfold readNamed
    rw [if_pos rfl, h]
    show (if g.values = [] then _ else _) = _
    rw [if_neg hg]
    rfl
  rw [read, if_neg (by decide), if_neg (by decide), hnamed]

/-- Such a command line is read as the command for these URLs. -/
theorem read_of_asks {clean : Bool} {us arguments : List Text} (hus : us ≠ []) (h : Asks clean us arguments) :
    read arguments = some (.urls us true clean) := by
  have hne : us.reverse ≠ [] := mt List.reverse_eq_nil_iff.1 hus
  have hread : ∀ rest, (∀ flags, readArguments [jsonFlag, cleanFlag] none ⟨flags, []⟩ rest = .ok ⟨flags, us.reverse⟩) →
      read (jsonCommand clean ++ rest) = some (.urls us true clean) := by
    intro rest hrest
    cases clean with
    | true =>
      have hflags : readArguments [jsonFlag, cleanFlag] none ⟨[], []⟩ ("--json".toList :: "--sanitize".toList :: rest) =
          .ok ⟨[cleanFlag, jsonFlag], us.reverse⟩ := hrest [cleanFlag, jsonFlag]
      have hall := read_url hflags hne
      rwa [List.reverse_reverse] at hall
    | false =>
      have hflags : readArguments [jsonFlag, cleanFlag] none ⟨[], []⟩ ("--json".toList :: rest) =
          .ok ⟨[jsonFlag], us.reverse⟩ := hrest [jsonFlag]
      have hall := read_url hflags hne
      rwa [List.reverse_reverse] at hall
  rcases h with rfl | ⟨rfl, hvalues⟩
  · refine hread _ fun flags => ?_
    show us.foldlM (addValue none) _ = _
    rw [foldlM_addValue, List.append_nil]
  · refine hread _ fun flags => ?_
    rw [readArguments_values _ _ hvalues, List.append_nil]

end Command

/-! ## Output -/

namespace Output

/-- A command line succeeds, and what it prints says this value. -/
def Prints (color : Bool) (arguments : List Text) (v : Json) : Prop :=
  ∃ t, run color arguments = (0, t) ∧ Json.Says t v

/-- The records of URLs, as they are printed. -/
def found (us : List Text) : List Found := us.map fun u => (u, deduce u)

/-- What is listed about one of several URLs. -/
def item (u : Text) : Json := .object [Json.textField "url" u, Json.field "fields" (Record.answer (deduce u))]

theorem jsonOf_found {us : List Text} (h : 2 ≤ us.length) : jsonOf (found us) = .list (us.map item) := by
  match us with
  | [] => cases h
  | [u] => exact absurd h (Nat.lt_irrefl 1)
  | u :: u' :: us =>
    show Json.list ((found (u :: u' :: us)).map _) = _
    rw [found, List.map_map]
    rfl

theorem isPlain_item (u : Text) : (item u).isPlain = true := by
  have hnames : ["url".toList, "fields".toList].Nodup := by decide
  rw [item, Json.isPlain, Bool.and_eq_true, decide_eq_true_eq]
  refine ⟨hnames, ?_⟩
  show (true && ((Record.answer (deduce u)).isPlain && true)) = true
  rw [Record.isPlain_answer]
  rfl

theorem isPlain_jsonOf_found (us : List Text) : (jsonOf (found us)).isPlain = true := by
  match us with
  | [] => rfl
  | [u] => exact Record.isPlain_answer (deduce u)
  | u :: u' :: us =>
    rw [jsonOf_found (by simp), Json.isPlain, Json.arePlain_eq_all, List.all_map, List.all_eq_true]
    exact fun v _ => isPlain_item v

/-- A command line that asks for URLs prints their records, with fields in the order of their names. -/
theorem prints_jsonOf {clean : Bool} {us arguments : List Text} (hus : us ≠ []) (h : Command.Asks clean us arguments)
    (color : Bool) :
    Prints color arguments (jsonOf (found (if clean then us.map Pasted.clean else us))).sortKeys := by
  refine ⟨_, ?_, Json.says_printPretty ?_ ['\n'] ?_⟩
  · rw [run, Command.read_of_asks hus h]
    rfl
  · rw [Json.isPlain_sortKeys, isPlain_jsonOf_found]
  · intro c hc
    rw [List.mem_singleton.1 hc]
    rfl

end Output

end JobPosting
