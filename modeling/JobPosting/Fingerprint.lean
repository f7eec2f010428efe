import JobPosting.Text.Bytes
import JobPosting.Text.Numeral

/-!
# Fingerprints

A fingerprint is eight hexadecimal digits that stand for a text: the 32-bit FNV-1a digest of its UTF-16 code units.
It never changes between runs or machines, so it may be kept as the identifier of a posting that has none of its own.

* `Digest.absorb` : one code unit mixed into a digest.
* `fingerprint` : the eight digits of the digest of a text.
-/

namespace JobPosting

namespace Digest

/-- The digest of the empty text. -/
def offset : UInt32 := 0x811c9dc5

/-- The factor of every step. -/
def factor : UInt32 := 0x01000193

/-- The digest after one more code unit. -/
def absorb (d : UInt32) (u : Nat) : UInt32 := (d ^^^ UInt32.ofNat u) * factor

def absorbAll (d : UInt32) (us : List Nat) : UInt32 := us.foldl absorb d

/-- The eight hexadecimal digits of a digest, the highest first. -/
def digits (d : UInt32) : Text :=
  [28, 24, 20, 16, 12, 8, 4, 0].map fun k => hexDigit ((d.toNat >>> k) % 16)

end Digest

def digest (t : Text) : UInt32 := Digest.absorbAll Digest.offset (Text.units t)

/-- The eight hexadecimal digits that stand for a text. -/
def fingerprint (t : Text) : Text := Digest.digits (digest t)

theorem fingerprint_length (t : Text) : (fingerprint t).length = 8 := rfl

theorem fingerprint_ne_nil (t : Text) : fingerprint t ≠ [] := by simp [fingerprint, Digest.digits]

end JobPosting
