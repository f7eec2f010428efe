/-!
# Results that may be errors

What is known of the steps of a computation from its result.

* `of_map_eq_ok`, `of_bind_eq_ok` : every step of a computation that succeeds has succeeded.
* `of_bind_eq_error` : a computation that fails has failed at one of its steps.
-/

namespace JobPosting

variable {ε α β : Type} {x : Except ε α}

theorem of_map_eq_ok {f : α → β} {b : β} (h : x.map f = .ok b) : ∃ a, x = .ok a ∧ f a = b := by
  cases x with
  | error e => cases h
  | ok a => exact ⟨a, rfl, Except.ok.inj h⟩

theorem of_bind_eq_ok {f : α → Except ε β} {b : β} (h : x.bind f = .ok b) : ∃ a, x = .ok a ∧ f a = .ok b := by
  cases x with
  | error e => cases h
  | ok a => exact ⟨a, rfl, h⟩

theorem of_bind_eq_error {f : α → Except ε β} {e : ε} (h : x.bind f = .error e) :
    x = .error e ∨ ∃ a, x = .ok a ∧ f a = .error e := by
  cases x with
  | error e' =>
    cases h
    exact .inl rfl
  | ok a => exact .inr ⟨a, rfl, h⟩

end JobPosting
