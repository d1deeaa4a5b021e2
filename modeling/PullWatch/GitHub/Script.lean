import PullWatch.GitHub.Service
import PullWatch.Json.Member

/-!
# A service that follows a script

A script lists the answers for one repository page by page. A listing that runs out goes on with
empty pages, or with its last page over and over.

## Main definitions

* `GitHub.Script`, `GitHub.Script.ofJson`: the answers for one repository.
* `GitHub.Service.following`: the service that follows the scripts of repositories.
-/

namespace PullWatch.GitHub

open Json (Decoder member member? memberOr)

/-- The answers for one repository: the pages of each listing and of each commit. -/
structure Script where
  pulls : List (String × List (Except Failure Page)) := []
  checks : List (String × List (Except Failure Json)) := []
  /-- The last page of a listing is repeated. -/
  repeats : Bool := false

/-- The envelope of a page of check runs. -/
def envelope (total : Json) (items : List Json) : Json :=
  Json.object [("total_count", total), ("check_runs", .arr items)]

/-- How a request fails. -/
def Failure.ofJson : Decoder Failure := fun v => do
  let message ← memberOr v "text" Json.text ""
  let make ← member v "kind"
    (Json.oneOf [("not_found", notFound), ("rate_limited", rateLimited), ("api", api)] (·.1))
  .ok (make.2 message)

/-- A page of pull requests. -/
def Page.ofJson : Decoder (Except Failure Page) := fun v => do
  match ← member? v "error" Failure.ofJson with
  | some f => .ok (.error f)
  | none =>
    .ok (.ok { items := ← memberOr v "items" (Json.sequence .ok) []
               hasNext := ← memberOr v "has_next" Json.flag false })

/-- A page of check runs: an envelope, or the payloads and the stated total. -/
def checkPageOfJson : Decoder (Except Failure Json) := fun v => do
  match ← member? v "error" Failure.ofJson with
  | some f => .ok (.error f)
  | none =>
    match v.get? "envelope" with
    | some e => .ok (.ok e)
    | none =>
      let items ← memberOr v "items" (Json.sequence .ok) []
      .ok (.ok (envelope ((v.get? "total").getD .null) items))

namespace Script

/-- The pages of several listings. -/
def listings {α : Type} (page : Decoder α) : Decoder (List (String × List α)) := fun v => do
  (← Json.entries v).mapM fun e => do .ok (e.1, ← Json.sequence page e.2)

/-- A script. -/
def ofJson : Decoder Script := fun v => do
  .ok
    { pulls := ← memberOr v "pulls" (listings Page.ofJson) []
      checks := ← memberOr v "checks" (listings checkPageOfJson) []
      repeats := ← memberOr v "repeat" Json.flag false }

/-- The n-th page of a listing, counted from 1. -/
def pageOf {α : Type} (s : Script) (listings : List (String × List α)) (name : String) (n : Nat)
    (empty : α) : α :=
  let pages := ((listings.find? fun l => l.1 == name).map (·.2)).getD []
  match pages[n - 1]? with
  | some page => page
  | none => if s.repeats then pages.getLast?.getD empty else empty

end Script

/-- The scripts of repositories under their full names. -/
abbrev Scripts := List (String × Script)

/-- The script of a repository; one that has none answers with empty pages. -/
def Scripts.of (scripts : Scripts) (owner name : String) : Script :=
  ((scripts.find? fun s => s.1 == owner ++ "/" ++ name).map (·.2)).getD {}

/-- The scripts with that of one repository replaced. -/
def Scripts.set (scripts : Scripts) (fullName : String) (s : Script) : Scripts :=
  (fullName, s) :: scripts.filter fun e => e.1 != fullName

/-- The service that follows scripts. -/
def Service.following (scripts : Scripts) : Service :=
  { pulls := fun q =>
      let s := scripts.of q.owner q.name
      s.pageOf s.pulls q.listing.name q.page (.ok { items := [], hasNext := false })
    checks := fun q =>
      let s := scripts.of q.owner q.name
      s.pageOf s.checks q.sha q.page (.ok (envelope (.int 0) [])) }

end PullWatch.GitHub
