import JobPosting.Text.Numeral
import JobPosting.Unicode.Printable

/-!
# Quoted texts in messages

A text in a message stands between quotes, and every character that would not show is written as an escape.
-/

namespace JobPosting

/-- A character as its code between braces. -/
def codeEscape (c : Char) : Text := ['\\', 'u', '\x7B'] ++ Text.hexOfNat c.toNat ++ ['\x7D']

def showChar (c : Char) : Text :=
  if c = '"' then ['\\', '"']
  else if c = '\\' then ['\\', '\\']
  else if c.toNat = 0 then ['\\', '0']
  else if c = '\t' then ['\\', 't']
  else if c = '\n' then ['\\', 'n']
  else if c = '\r' then ['\\', 'r']
  else if 0x20 ≤ c.toNat && c.toNat < 0x7F then [c]
  else if Unicode.isExtending c || !Unicode.isShown c then codeEscape c
  else [c]

/-- A text between quotes. -/
def Text.shown (t : Text) : Text := '"' :: t.flatMap showChar ++ ['"']

end JobPosting
