import JobPosting.Address
import JobPosting.Http.Message
import JobPosting.Text.Blank

/-!
# Clients

Requests to the API are limited for each client, so a client has to be known by an address. Behind a proxy the address
is the first usable one of the headers that proxies set, and the address of the peer otherwise.

* `Client.forwardedFor?`, `Client.realIp?`, `Client.forwarded?` : the address that a header gives.
* `Client.key?` : the address that a client is known by.
-/

namespace JobPosting.Client

def address? (t : Text) : Option Text := if isAddress t then some t else none

/-- The first address of the list that proxies append to. -/
def forwardedFor? (r : Request) : Option Text :=
  (r.header? "x-forwarded-for").bind fun v => (Text.split ',' v).findSome? fun t => address? (Text.trim t)

/-- The address that a proxy saw. -/
def realIp? (r : Request) : Option Text := (r.header? "x-real-ip").bind address?

/-! ## The standard header -/

/-- The text without any number of a character at both ends. -/
def strip (c : Char) (t : Text) : Text := ((t.dropWhile (· = c)).reverse.dropWhile (· = c)).reverse

/-- What a node of a forwarding chain is known by. -/
inductive Node where
  | address (t : Text)
  | other
  deriving DecidableEq

/-- The node that a text names; brackets have to hold an IPv6 address. -/
def Node.read? (t : Text) : Option Node :=
  let name := strip '\'' (strip '"' (Text.trim t))
  if isSocketAddress name || isAddress name then some (.address name)
  else match name with
    | '[' :: r =>
      match Text.stripSuffix? "]" r with
      | some inner => if (Ipv6.read? inner).isSome then some (.address inner) else none
      | none => some .other
    | _ => some .other

/-- One element of a forwarding chain: the node it was forwarded for, if it says so. A part without an equals sign, an
unknown protocol or a bad node spoil the whole header. -/
def element? (t : Text) : Option (Option Node) :=
  ((Text.split ';' t).map Text.trim).foldlM (fun node part =>
    if part = [] then some node
    else match Text.cut? '=' part with
      | none => none
      | some (name, value) =>
        if Text.SameLetters name "for" then (Node.read? value).map some
        else if Text.SameLetters name "by" then (Node.read? value).map fun _ => node
        else if Text.SameLetters name "proto" then
          if Text.SameLetters value "http" || Text.SameLetters value "https" then some node else none
        else some node) none

/-- The first address of a forwarding chain. -/
def chainAddress? (value : Text) : Option Text :=
  (((Text.split ',' value).mapM element?).getD []).findSome? fun
    | some (.address t) => some t
    | _ => none

/-- The first address of the standard header. -/
def forwarded? (r : Request) : Option Text :=
  (r.values "forwarded").findSome? fun v => (Request.readable? v).bind chainAddress?

/-! ## The key -/

/-- The address that the client of a request is known by. -/
def key? (behindProxy : Bool) (r : Request) : Option Text :=
  if behindProxy then (((forwardedFor? r).or (realIp? r)).or (forwarded? r)).or r.peer else r.peer

end JobPosting.Client
