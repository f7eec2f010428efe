import JobPosting.Text.Blank

/-!
# Pasted URLs

A URL that someone pasted is cleaned up before anything is deduced from it: blanks around it and its fragment are
dropped, only its first question mark is one, and separators of query values do not repeat.

* `Pasted.joinQueries` : question marks after the first one become ampersands.
* `Pasted.collapse` : runs of ampersands become one.
* `Pasted.clean` : the whole clean-up.
-/

namespace JobPosting.Pasted

def replace (a b : Char) (t : Text) : Text := t.map fun c => if c = a then b else c

/-- Question marks after the first one become ampersands. -/
def joinQueries (t : Text) : Text :=
  match Text.cut? '?' t with
  | some (front, query) => front ++ '?' :: replace '?' '&' query
  | none => t

/-- Runs of ampersands become one. -/
def collapse : Text → Text
  | '&' :: '&' :: r => collapse ('&' :: r)
  | c :: r => c :: collapse r
  | [] => []

theorem collapse_sublist (t : Text) : (collapse t).Sublist t := by
  induction t using collapse.induct with
  | case1 r ih =>
    rw [collapse]
    exact ih.cons _
  | case2 c r hne ih =>
    rw [collapse]
    · exact ih.cons_cons _
    · exact hne
  | case3 => exact List.Sublist.refl _

/-- A pasted URL without what does not belong to it. -/
def clean (t : Text) : Text := collapse (Text.before '#' (joinQueries (Text.trim t)))

end JobPosting.Pasted
