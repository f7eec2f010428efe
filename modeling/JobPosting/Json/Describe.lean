import JobPosting.Json
import JobPosting.Text.Shown

/-!
# Words for JSON values

What a value is, in the words of a message.
-/

namespace JobPosting

/-- The wording of what a value is. -/
def Json.describe : Json → Text
  | .null => "null"
  | .bool b => "boolean " ++ '\x60' :: print (.bool b) ++ ['\x60']
  | .number n => "integer " ++ '\x60' :: print (.number n) ++ ['\x60']
  | .text t => "string " ++ t.shown
  | .list _ => "sequence"
  | .object _ => "map"

end JobPosting
