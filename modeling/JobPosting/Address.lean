import JobPosting.Text.Numeral

/-!
# Internet addresses

* `Ipv4.read?` : four decimal numbers below 256, without leading zeros.
* `Ipv6.read?` : groups of hexadecimal digits, at most one gap of zeros, perhaps an IPv4 address at the end.
* `Ipv6.print` : the shortest usual form, with the longest run of zeros left out.
* `isAddress`, `isSocketAddress` : texts that are an address, or an address with a port number.
-/

namespace JobPosting

namespace Ipv4

/-- An address is its number below 2^32, in four bytes. -/
def print (n : Nat) : Text :=
  Text.join ['.'] ([24, 16, 8, 0].map fun k => Text.ofNat ((n >>> k) % 256))

/-- One of the four numbers of an address. -/
def readPart? (t : Text) : Option Nat :=
  if t.head? = some '0' && t ≠ ['0'] then none
  else match Text.toNat? 10 t with
    | some n => if n < 256 then some n else none
    | none => none

/-- The four numbers of an address in dotted decimal notation. -/
def read? (t : Text) : Option (Nat × Nat × Nat × Nat) :=
  match Text.split '.' t with
  | [a, b, c, d] => do return (← readPart? a, ← readPart? b, ← readPart? c, ← readPart? d)
  | _ => none

end Ipv4

namespace Ipv6

/-- What has been read of an address: its groups, the last one first, and how many of them stand before the gap. -/
structure Partial where
  groups : List Nat
  gap : Option Nat

namespace Partial

/-- The places taken: the groups, and one for the gap. -/
def places (p : Partial) : Nat := p.groups.length + (if p.gap.isSome then 1 else 0)

def push (p : Partial) (n : Nat) : Partial := { p with groups := n :: p.groups }

/-- The gap at this point. -/
def open? (p : Partial) : Option Partial :=
  if p.gap.isSome then none else some { p with gap := some p.groups.length }

/-- All eight groups, the gap filled with zeros. -/
def finish? (p : Partial) : Option (List Nat) :=
  let groups := p.groups.reverse
  match p.gap with
  | some k => some (groups.take k ++ List.replicate (8 - groups.length) 0 ++ groups.drop k)
  | none => if groups.length = 8 then some groups else none

end Partial

/-- An IPv4 address in the last two groups. -/
def readTail? (p : Partial) (t : Text) : Option (List Nat) :=
  if 6 < p.places then none
  else match Ipv4.read? t with
    | some (a, b, c, d) => ((p.push (a * 256 + b)).push (c * 256 + d)).finish?
    | none => none

/-- The longest beginning of at most four hexadecimal digits. -/
def groupDigits (t : Text) : Text := (t.take 4).takeWhile fun c => (digitValue? 16 c).isSome

/-- The groups of an address, read after those in `p`. -/
def readGroups? (p : Partial) (t : Text) : Option (List Nat) :=
  match t with
  | [] => p.finish?
  | c :: r =>
    if p.places = 8 then none
    else if c = ':' then
      match p.open? with
      | some q => readGroups? q r
      | none => none
    else
      match Text.toNat? 16 (groupDigits (c :: r)) with
      | none => none
      | some n =>
        match _h : (c :: r).drop (groupDigits (c :: r)).length with
        | [] => (p.push n).finish?
        | '.' :: _ => readTail? p (c :: r)
        | ':' :: s => if s = [] then none else readGroups? (p.push n) s
        | _ => none
termination_by t.length
decreasing_by
  · simp
  · have := congrArg List.length _h
    simp only [List.length_drop, List.length_cons] at this
    simp only [List.length_cons]
    omega

/-- The eight groups of an address. -/
def read? : Text → Option (List Nat)
  | ':' :: ':' :: r => readGroups? ⟨[], some 0⟩ r
  | ':' :: _ => none
  | [_] => none
  | t => readGroups? ⟨[], none⟩ t

/-- The first of the longest runs of zeros, as its start and length, among runs that begin at `start` or later. -/
def longestZeros (start : Nat) : List Nat → Nat × Nat
  | [] => (start, 0)
  | n :: r =>
    let here := ((n :: r).takeWhile (· = 0)).length
    let later := longestZeros (start + 1) r
    if later.2 ≤ here then (start, here) else later

/-- Groups with colons between them. -/
def printGroups (groups : List Nat) : Text := Text.join [':'] (groups.map Text.hexOfNat)

/-- The usual form: small letters, no leading zeros, and the longest run of two or more zeros left out. -/
def print (groups : List Nat) : Text :=
  let (start, length) := longestZeros 0 groups
  if length < 2 then printGroups groups
  else printGroups (groups.take start) ++ "::" ++ printGroups (groups.drop (start + length))

end Ipv6

def isAddress (t : Text) : Bool := (Ipv4.read? t).isSome || (Ipv6.read? t).isSome

/-- Whether a text is a decimal number below `bound`; leading zeros do not matter. -/
def isBelow (bound : Nat) (t : Text) : Bool :=
  match Text.toNat? 10 t with
  | some n => n < bound
  | none => false

/-- Whether a text is an address with a port number; an IPv6 address stands in brackets and may carry a zone number. -/
def isSocketAddress (t : Text) : Bool :=
  match t with
  | '[' :: r =>
    match Text.cut? ']' r with
    | some (inner, ':' :: digits) =>
      let (address, zone) := (Text.cut? '%' inner).getD (inner, ['0'])
      (Ipv6.read? address).isSome && isBelow 0x100000000 zone && isBelow 0x10000 digits
    | _ => false
  | _ =>
    match Text.cut? ':' t with
    | some (address, digits) => (Ipv4.read? address).isSome && isBelow 0x10000 digits
    | none => false

end JobPosting
