import JobPosting.Memo
import JobPosting.Record

/-!
# Caches of records

Deductions are remembered under the texts they were made from. A cache may remember nothing at all, or be out of
order; then everything is deduced anew.

* `CacheLike` : what a service needs of a cache.
* `Cache.ofCapacity` : the cache of a given capacity; capacity zero remembers nothing.
* `Cache.get`, `Cache.put` : looking up and storing.
-/

namespace JobPosting

/-- What is remembered: a record, or that there is none. -/
abbrev Outcome := Option Record

inductive Lookup where
  | hit (outcome : Outcome)
  | miss
  | failed
  deriving DecidableEq

def Lookup.isHit : Lookup → Bool
  | .hit _ => true
  | _ => false

/-- What a service needs of a cache: looking up, which may change the cache or fail, and storing. Whether storing
succeeds makes no difference to the service. -/
class CacheLike (σ : Type) where
  get : σ → Text → Lookup × σ
  put : σ → Text → Outcome → σ

/-- A cache of records. -/
inductive Cache where
  /-- Remembers nothing. -/
  | null
  | memory (memo : Memo Outcome)
  /-- Every access fails. -/
  | broken
  deriving DecidableEq

namespace Cache

def ofCapacity (n : Nat) : Cache := if n = 0 then .null else .memory (Memo.empty n)

/-- Looking up a key; a hit makes it the one used last. -/
def get (c : Cache) (key : Text) : Lookup × Cache :=
  match c with
  | .null => (.miss, c)
  | .memory m =>
    match m.find? key with
    | some outcome => (.hit outcome, .memory (m.touch key))
    | none => (.miss, c)
  | .broken => (.failed, c)

def put (c : Cache) (key : Text) (outcome : Outcome) : Cache :=
  match c with
  | .memory m => .memory (m.put key outcome)
  | c => c

instance : CacheLike Cache := ⟨get, put⟩

def size : Cache → Nat
  | .memory m => m.size
  | _ => 0

def kind : Cache → Text
  | .null => "null"
  | .memory _ => "memory"
  | .broken => "broken"

/-- Whether the cache is in order. -/
def isHealthy : Cache → Bool
  | .broken => false
  | _ => true

end Cache

end JobPosting
