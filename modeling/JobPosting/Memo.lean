import JobPosting.Text

/-!
# Memos

A memo remembers values under texts and holds a limited number of them: when a new one does not fit, the one that has
not been used for the longest time goes.

* `Memo.find?` : the value under a key.
* `Memo.touch` : a key that is present becomes the one used last.
* `Memo.put` : a value under a key, which becomes the one used last.
-/

namespace JobPosting

/-- Remembered values, the one used last in front. -/
structure Memo (α : Type) where
  capacity : Nat
  entries : List (Text × α)
  deriving DecidableEq

namespace Memo

variable {α : Type}

def empty (capacity : Nat) : Memo α := ⟨capacity, []⟩

def size (m : Memo α) : Nat := m.entries.length

def find? (m : Memo α) (key : Text) : Option α := m.entries.lookup key

def others (m : Memo α) (key : Text) : List (Text × α) := m.entries.filter fun e => e.1 ≠ key

/-- A key that is present becomes the one used last. -/
def touch (m : Memo α) (key : Text) : Memo α :=
  match m.find? key with
  | some v => { m with entries := (key, v) :: m.others key }
  | none => m

/-- A value under a key, which becomes the one used last. -/
def put (m : Memo α) (key : Text) (v : α) : Memo α :=
  { m with entries := ((key, v) :: m.others key).take m.capacity }

end Memo

end JobPosting
