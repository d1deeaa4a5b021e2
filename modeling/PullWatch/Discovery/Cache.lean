import PullWatch.CheckRun
import PullWatch.Instant.Printer
import PullWatch.PullRequest

/-!
# The discovery cache

Listings are kept for a limited time under the repository's id and a text that names the query. An
entry leaves the cache when it is looked up after its time, when anything is stored after its time,
when its repository is dropped and when everything is dropped. With a lifetime of zero nothing is
stored.

Times are readings of a clock that never goes back, in nanoseconds.

## Main definitions

* `Cache`, `Cached`, `CacheEntry`: the cache and what it holds.
* `Cache.pullsKey`, `Cache.checksKey`: the texts that name queries.
* `Cache.find`, `Cache.store`, `Cache.dropRepository`, `Cache.clear`: the operations.
-/

namespace PullWatch

/-- A kept listing. -/
inductive Cached where
  | pulls (found : List FetchedPullRequest)
  | checks (found : List CheckRun)

/-- A kept listing with its place and its time of storing. -/
structure CacheEntry where
  repositoryId : Int
  key : String
  storedAt : Nat
  value : Cached

namespace CacheEntry

/-- The entry belongs to a repository and a query. -/
def isAt (e : CacheEntry) (repositoryId : Int) (key : String) : Bool :=
  e.repositoryId = repositoryId ∧ e.key = key

/-- The entry's time is over. -/
def isExpired (e : CacheEntry) (lifetime now : Nat) : Bool :=
  lifetime ≤ now - e.storedAt

end CacheEntry

/-- Kept listings; at most one for each repository and query. -/
structure Cache where
  /-- Nanoseconds that an entry lives. -/
  lifetime : Nat
  entries : List CacheEntry := []

namespace Cache

/-- The cache keeps anything at all. -/
def isEnabled (c : Cache) : Bool := 0 < c.lifetime

/-- The number of entries, found expired or not. -/
def size (c : Cache) : Nat := c.entries.length

/-- The text that names a listing of pull requests. -/
def pullsKey (states : List PullState) (since : Option Instant) : String :=
  "pulls?states=" ++ String.intercalate "," (states.map PullState.name) ++ "&since="
    ++ (since.map Instant.rfc3339).getD ""

/-- The text that names a listing of check runs. -/
def checksKey (sha : String) : String := "check-runs?sha=" ++ sha

/-- What is kept for a query. An entry whose time is over is removed. -/
def find (c : Cache) (now : Nat) (repositoryId : Int) (key : String) : Option Cached × Cache :=
  if c.isEnabled then
    match c.entries.find? fun e => e.isAt repositoryId key with
    | none => (none, c)
    | some e =>
      if e.isExpired c.lifetime now then
        (none, { c with entries := c.entries.filter fun e => !e.isAt repositoryId key })
      else (some e.value, c)
  else (none, c)

/-- The pull requests kept for a query. -/
def findPulls (c : Cache) (now : Nat) (repositoryId : Int) (key : String) :
    Option (List FetchedPullRequest) × Cache :=
  match c.find now repositoryId key with
  | (some (.pulls found), c) => (some found, c)
  | (_, c) => (none, c)

/-- The check runs kept for a query. -/
def findChecks (c : Cache) (now : Nat) (repositoryId : Int) (key : String) :
    Option (List CheckRun) × Cache :=
  match c.find now repositoryId key with
  | (some (.checks found), c) => (some found, c)
  | (_, c) => (none, c)

/-- Keeps a listing. All entries whose time is over are removed first. -/
def store (c : Cache) (now : Nat) (repositoryId : Int) (key : String) (value : Cached) : Cache :=
  if c.isEnabled then
    let live := c.entries.filter fun e =>
      !e.isExpired c.lifetime now && !e.isAt repositoryId key
    { c with entries := live ++ [{ repositoryId, key, storedAt := now, value }] }
  else c

/-- Drops the entries of a repository; also tells how many there were. -/
def dropRepository (c : Cache) (repositoryId : Int) : Nat × Cache :=
  let kept := c.entries.filter fun e => e.repositoryId ≠ repositoryId
  (c.entries.length - kept.length, { c with entries := kept })

/-- Drops all entries. -/
def clear (c : Cache) : Cache := { c with entries := [] }

end Cache

end PullWatch
