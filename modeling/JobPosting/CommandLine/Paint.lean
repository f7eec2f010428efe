import JobPosting.Text

/-!
# Colours

Text on a terminal may be painted. Filling up to a width happens inside the paint.
-/

namespace JobPosting

/-- What a painted text means. -/
inductive Tint where
  | heading
  | key
  | value
  | faint
  | warning
  | good
  | figure
  | board
  deriving DecidableEq

namespace Tint

/-- The control sequence of some codes. -/
def control (codes : Text) : Text := '\x1B' :: '[' :: codes ++ ['m']

def reset : Text := control ['0']

def codes : Tint → Text
  | heading => "1;94"
  | key => "97"
  | value => "36"
  | faint => "90"
  | warning => "33"
  | good => "32"
  | figure => "1;97"
  | board => "35"

/-- The text with `style` again behind every reset in it. -/
def restyle (style : Text) (t : Text) : Text :=
  match t with
  | [] => []
  | c :: r =>
    match _h : Text.stripPrefix? reset (c :: r) with
    | some rest => reset ++ style ++ restyle style rest
    | none => c :: restyle style r
termination_by t.length
decreasing_by
  · have := congrArg List.length (Text.stripPrefix?_eq_some_iff.1 _h)
    simp only [List.length_cons, List.length_append, reset, control] at this ⊢
    omega
  · simp

/-- A text filled up to a width and painted, if there are colours. -/
def paint (color : Bool) (tint : Tint) (width : Nat) (t : Text) : Text :=
  if color then
    let style := control tint.codes
    style ++ Text.padRight width (restyle style t) ++ reset
  else Text.padRight width t

end Tint

end JobPosting
