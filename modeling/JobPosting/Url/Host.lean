import JobPosting.Address
import JobPosting.Domain.Name
import JobPosting.Url.Basic

/-!
# Hosts of URLs

A host is an IPv6 address in brackets, an IPv4 address in any of its notations, or a domain name.

* `Ipv4.readLoose?` : one to four numbers, decimal, octal or hexadecimal; the last one fills the remaining bytes.
* `Host.read` : a host of the web in its usual form.
* `Host.checkOpaque` : a host of any other scheme, which is only checked.
-/

namespace JobPosting

namespace Ipv4

/-- A number of an address: hexadecimal behind `0x`, octal behind `0`, else decimal. -/
def readNumber? : Text → Option Nat
  | [] => none
  | '0' :: x :: r =>
    if x = 'x' || x = 'X' then (if r = [] then some 0 else Text.toNat? 16 r) else Text.toNat? 8 (x :: r)
  | t => Text.toNat? 10 t

/-- The labels of a name, without an empty last one. -/
def parts (name : Text) : List Text :=
  let labels := Text.split '.' name
  if labels.getLast? = some [] then labels.dropLast else labels

/-- Whether a name can only be meant as an address, as its last label is a number. -/
def endsInNumber (name : Text) : Bool :=
  match (parts name).getLast? with
  | some last => (last ≠ [] && last.all Text.isDigit) || (readNumber? last).isSome
  | none => false

/-- The address of some numbers: all but the last one are bytes, and the last one fills the rest. -/
def assemble? : List Nat → Option Nat
  | [] => none
  | ns =>
    let bytes := ns.dropLast
    let last := ns.getLastD 0
    if 4 < ns.length || bytes.any (255 < ·) || Nat.pow 256 (4 - bytes.length) ≤ last then none
    else some (last + (bytes.foldl (fun n b => n * 256 + b) 0) * Nat.pow 256 (4 - bytes.length))

/-- An address in any notation. -/
def readLoose? (name : Text) : Option Nat :=
  let ps := parts name
  if 4 < ps.length then none else (ps.mapM readNumber?).bind assemble?

end Ipv4

namespace Host

/-- What is between brackets. -/
def bracketed? (t : Text) : Option Text := Text.stripSuffix? "]" (t.drop 1)

def readBracketed (t : Text) : Except UrlError Text :=
  match (bracketed? t).bind Ipv6.read? with
  | some groups => .ok ('[' :: Ipv6.print groups ++ "]")
  | none => .error .badIpv6

/-- A host of the web in its usual form: percent signs resolved, and in ASCII. -/
def read (t : Text) : Except UrlError Text :=
  if t.head? = some '[' then readBracketed t
  else match Domain.toAscii? (Text.ofBytes (Text.percentDecode t)) with
    | none => .error .badDomainName
    | some name =>
      if name = [] then .error .emptyHost
      else if Ipv4.endsInNumber name then
        match Ipv4.readLoose? name with
        | some n => .ok (Ipv4.print n)
        | none => .error .badIpv4
      else .ok name

/-- Characters that no host of any scheme may hold. -/
def isForbidden (c : Char) : Bool :=
  ['\x00', '\t', '\n', '\r', ' ', '#', '/', ':', '<', '>', '?', '@', '[', '\\', ']', '^', '|'].contains c

/-- Whether a text may be the host of a URL outside the web. -/
def checkOpaque (t : Text) : Except UrlError Unit :=
  if t.head? = some '[' then (readBracketed t).map fun _ => ()
  else if t.any isForbidden then .error .badDomainCharacter
  else .ok ()

end Host

end JobPosting
