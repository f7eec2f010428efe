import JobPosting.Unicode.DomainMapping
import JobPosting.Unicode.Mark

/-!
# Printable characters

Which characters show when a text is quoted: not controls, format characters, blanks other than the space, private and
unassigned characters, and not those that extend the character before them.
-/

namespace JobPosting.Unicode

/-- Characters that no domain name may hold and that show nevertheless. -/
def shownRefusals : Table := Table.ofRows
  ["2024-2026 2488-249b 2ff0-2fff 31ef 33c2 33c7 33d8 fe12 fe19 fe30 fe52 fffc-fffd 1f100"]

/-- Characters that do not show although a domain name may hold or lose them. -/
def hiddenCharacters : Table := Table.ofRows
  ["0-1f 7f a0 ad 180e 2000-200d 202f 205f-2064 206a-206f 3000 feff 1bca0-1bca3 1d173-1d17a"]

/-- Characters other than marks that extend the character before them. -/
def extendingSigns : Table := Table.ofRows
  ["9be 9d7 b3e b57 bbe bd7 cc0 cc2 cc7-cc8 cca-ccb cd5-cd6 d3e d57 dcf ddf 1715 1734 1b35 1b3b 1b3d 1b43-1b44",
    "1baa 1bf2-1bf3 200c 302e-302f a953 a9c0 ff9e-ff9f 111c0 11235 1133e 1134d 11357 113b8 113c2 113c5 113c7-113c9",
    "113cf 114b0 114bd 115af 116b6 11930 1193d 11f41 16ff0-16ff1 1d165-1d166 1d16d-1d172 e0020-e007f"]

/-- A character that shows. -/
def isShown (c : Char) : Bool :=
  !(hiddenCharacters.contains c || (domainRefusals.contains c && !shownRefusals.contains c))

/-- A character that extends the one before it. -/
def isExtending (c : Char) : Bool := nonspacingMarks.contains c || extendingSigns.contains c

end JobPosting.Unicode
