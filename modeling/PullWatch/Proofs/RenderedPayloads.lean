import PullWatch.GitHub.Payload
import PullWatch.Proofs.Elaborations

/-!
# Payloads are read as they are rendered

A service renders a record as an object. It may write each time as the clocks of any zone show it,
it may write null for what has its default value, and its objects may say more than is read of them.
Whatever it does, reading the payload gives the record back.

## Main definitions

* `GitHub.Rendition`: what a service is free to choose.
* `PullRequest.rendering`, `CheckRun.rendering`: the renderings of records.
* `PullRequest.MergeDated`: a pull request has a time of merging if it was merged, and none if it
  was closed without.

## Main results

* `GitHub.PullPayload.reads_json`, `GitHub.CheckPayload.reads_json`: the fields of a payload are
  read back.
* `payloads_read_back`: records are read back, and no payload is read as a pull request whose state
  and time of merging do not fit.
-/

namespace PullWatch

open Json

namespace GitHub

/-- What a service is free to choose when it renders a record. -/
structure Rendition where
  /-- The clocks that show the time of a field. -/
  zone : String → (t : Instant) → t.Offset
  /-- A field is null when it has its default value. -/
  terse : String → Bool

variable (r : Rendition)

/-- The time of a field. -/
def Rendition.time (field : String) (t : Instant) : Json := .str (r.zone field t).text

/-- A value, unless it is a default that the service does not write. -/
def Rendition.unlessDefault {α : Type} [DecidableEq α] (field : String) (default value : α) :
    Option α :=
  if r.terse field = true ∧ value = default then none else some value

theorem Rendition.getD_unlessDefault {α : Type} [DecidableEq α] (field : String)
    (default value : α) : (r.unlessDefault field default value).getD default = value := by
  rw [unlessDefault]
  split_ifs with h
  · exact h.2.symm
  · rfl

theorem Rendition.bind_unlessDefault {α β : Type} [DecidableEq α] (field : String)
    {default : α} (value : α) {f : α → Option β} (h : f default = none) :
    (r.unlessDefault field default value).bind f = f value := by
  rw [unlessDefault]
  split_ifs with hdefault
  · rw [hdefault.2, h]
    rfl
  · rfl

/-! ### Parts of payloads -/

/-- A record with one text field. -/
def singleJson (field value : String) : Json := .obj [(field, .str value)]

theorem elaborates_singleJson (field value : String) :
    (singleJson field value).Elaborates (singleJson field value) :=
  elaborates_obj_self (by simp) (by simpa using .str value)

theorem reads_singleJson (record field value : String) :
    Reads (decodeSingleText record field) (singleJson field value) value := by
  rintro _ (_ | _ | _ | _ | _ | _ | ⟨distinct, hmembers⟩)
  have hvalue := reads_text value _ (hmembers _ List.mem_cons_self)
  have hshape : (singleText record field).members (.obj _) = .ok _ :=
    members_obj distinct (by simpa [singleText] using fits_of_eq_ok hvalue)
  simp only [decodeSingleText, hshape, required_of_eq_ok hvalue nofun, bind, Except.bind]

theorem reads_login (login : String) : Reads decodeLogin (singleJson "login" login) login :=
  reads_singleJson "RawUser" "login" login

theorem reads_label (name : String) : Reads decodeLabel (singleJson "name" name) name :=
  reads_singleJson "RawLabel" "name" name

theorem reads_milestone (title : String) : Reads decodeMilestone (singleJson "title" title) title :=
  reads_singleJson "RawMilestone" "title" title

namespace BranchPayload

variable (b : BranchPayload)

/-- The object of a branch. -/
def json : Json := .obj [("ref", .str b.ref), ("sha", .str b.sha)]

theorem elaborates_json : b.json.Elaborates b.json :=
  elaborates_obj_self (by simp) (by simp [Elaborates.str])

theorem reads_json : Reads decode b.json b := by
  rintro _ (_ | _ | _ | _ | _ | _ | ⟨distinct, hmembers⟩)
  simp only [List.forall_mem_cons] at hmembers
  obtain ⟨href, hsha, -⟩ := hmembers
  have href := reads_text _ _ href
  have hsha := reads_text _ _ hsha
  have hshape : shape.members (.obj _) = .ok _ :=
    members_obj distinct (by simpa [shape] using ⟨fits_of_eq_ok href, fits_of_eq_ok hsha⟩)
  simp only [decode, hshape, required_of_eq_ok href nofun, required_of_eq_ok hsha nofun, bind,
    Except.bind]

end BranchPayload

namespace Rendition

theorem elaborates_time (field : String) (t : Instant) :
    (r.time field t).Elaborates (r.time field t) := .str _

theorem reads_time (field : String) (t : Instant) : Reads Json.time (r.time field t) t :=
  Json.reads_time _

end Rendition

/-! ### Pull requests -/

namespace PullPayload

/-- The fields that a service renders of a pull request. A merged one is rendered as closed. -/
def ofPullRequest (pull : PullRequest) : PullPayload :=
  { number := pull.number
    title := pull.title
    user := r.unlessDefault "user" ghostLogin pull.author
    state := match pull.state with
      | .opened => "open"
      | .closed | .merged => "closed"
    draft := r.unlessDefault "draft" false pull.draft
    base := { ref := pull.baseBranch, sha := pull.baseSha }
    head := { ref := pull.headBranch, sha := pull.headSha }
    htmlUrl := pull.url
    body := pull.body
    labels := r.unlessDefault "labels" [] pull.labels
    assignees := r.unlessDefault "assignees" [] pull.assignees
    milestone := pull.milestone
    createdAt := pull.createdAt
    updatedAt := pull.updatedAt
    closedAt := pull.closedAt
    mergedAt := pull.mergedAt }

variable (p : PullPayload)

/-- The object of the fields, its members in ascending order of their names. -/
def json : Json := .obj
  [("assignees", Json.optional (Json.list (singleJson "login")) p.assignees),
   ("base", p.base.json),
   ("body", Json.optional .str p.body),
   ("closed_at", Json.optional (r.time "closed_at") p.closedAt),
   ("created_at", r.time "created_at" p.createdAt),
   ("draft", Json.optional .bool p.draft),
   ("head", p.head.json),
   ("html_url", .str p.htmlUrl),
   ("labels", Json.optional (Json.list (singleJson "name")) p.labels),
   ("merged_at", Json.optional (r.time "merged_at") p.mergedAt),
   ("milestone", Json.optional (singleJson "title") p.milestone),
   ("number", .nat p.number.toNat),
   ("state", .str p.state),
   ("title", .str p.title),
   ("updated_at", r.time "updated_at" p.updatedAt),
   ("user", Json.optional (singleJson "login") p.user)]

theorem elaborates_json : (p.json r).Elaborates (p.json r) := by
  refine elaborates_obj_self (by simp) ?_
  simp only [List.forall_mem_cons]
  exact ⟨elaborates_optional_self (elaborates_list_self (elaborates_singleJson _)) _,
    p.base.elaborates_json, elaborates_optional_self .str _,
    elaborates_optional_self (r.elaborates_time _) _, r.elaborates_time _ _,
    elaborates_optional_self .bool _, p.head.elaborates_json, .str _,
    elaborates_optional_self (elaborates_list_self (elaborates_singleJson _)) _,
    elaborates_optional_self (r.elaborates_time _) _,
    elaborates_optional_self (elaborates_singleJson _) _, .int _, .str _, .str _,
    r.elaborates_time _ _, elaborates_optional_self (elaborates_singleJson _) _,
    List.forall_mem_nil _⟩

/-- The fields of a payload are read back. -/
theorem reads_json : Reads decode (p.json r) p := by
  rintro _ (_ | _ | _ | _ | _ | _ | ⟨distinct, hmembers⟩)
  simp only [List.forall_mem_cons] at hmembers
  obtain ⟨hassignees, hbase, hbody, hclosedAt, hcreatedAt, hdraft, hhead, hurl, hlabels, hmergedAt,
    hmilestone, hnumber, hstate, htitle, hupdatedAt, huser, -⟩ := hmembers
  have hassignees := reads_optional (reads_list reads_login) (fun _ => nofun) _ _ hassignees
  have hbase := p.base.reads_json _ hbase
  have hbody := reads_optional reads_text (fun _ => nofun) _ _ hbody
  have hclosedAt := reads_optional (r.reads_time "closed_at") (fun _ => nofun) _ _ hclosedAt
  have hcreatedAt := r.reads_time _ _ _ hcreatedAt
  have hdraft := reads_optional reads_flag (fun _ => nofun) _ _ hdraft
  have hhead := p.head.reads_json _ hhead
  have hurl := reads_text _ _ hurl
  have hlabels := reads_optional (reads_list reads_label) (fun _ => nofun) _ _ hlabels
  have hmergedAt := reads_optional (r.reads_time "merged_at") (fun _ => nofun) _ _ hmergedAt
  have hmilestone := reads_optional reads_milestone (fun _ => nofun) _ _ hmilestone
  have hnumber := reads_word _ _ hnumber
  have hstate := reads_text _ _ hstate
  have htitle := reads_text _ _ htitle
  have hupdatedAt := r.reads_time _ _ _ hupdatedAt
  have huser := reads_optional reads_login (fun _ => nofun) _ _ huser
  have hshape : shape.members (.obj _) = .ok _ := members_obj distinct (by
    simp only [shape, List.forall_mem_cons]
    exact ⟨fits_of_eq_ok hnumber, fits_of_eq_ok htitle, fits_of_eq_ok huser, fits_of_eq_ok hstate,
      fits_of_eq_ok hdraft, fits_of_eq_ok hbase, fits_of_eq_ok hhead, fits_of_eq_ok hurl,
      fits_of_eq_ok hbody, fits_of_eq_ok hlabels, fits_of_eq_ok hassignees,
      fits_of_eq_ok hmilestone, fits_of_eq_ok hcreatedAt, fits_of_eq_ok hupdatedAt,
      fits_of_eq_ok hclosedAt, fits_of_eq_ok hmergedAt, List.forall_mem_nil _⟩)
  simp only [decode, hshape, required_of_eq_ok hnumber nofun, required_of_eq_ok htitle nofun,
    optional?_of_eq_ok huser, required_of_eq_ok hstate nofun, optional?_of_eq_ok hdraft,
    required_of_eq_ok hbase nofun, required_of_eq_ok hhead nofun, required_of_eq_ok hurl nofun,
    optional?_of_eq_ok hbody, optional?_of_eq_ok hlabels, optional?_of_eq_ok hassignees,
    optional?_of_eq_ok hmilestone, required_of_eq_ok hcreatedAt nofun,
    required_of_eq_ok hupdatedAt nofun, optional?_of_eq_ok hclosedAt,
    optional?_of_eq_ok hmergedAt, bind, Except.bind]

end PullPayload

/-! ### Check runs -/

deriving instance DecidableEq for OutputPayload

namespace OutputPayload

variable (o : OutputPayload)

/-- The object of an output, its members in ascending order of their names. -/
def json : Json := .obj
  [("summary", Json.optional .str o.summary), ("text", Json.optional .str o.text),
   ("title", Json.optional .str o.title)]

theorem elaborates_json : o.json.Elaborates o.json := by
  refine elaborates_obj_self (by simp) ?_
  simp only [List.forall_mem_cons]
  exact ⟨elaborates_optional_self .str _, elaborates_optional_self .str _,
    elaborates_optional_self .str _, List.forall_mem_nil _⟩

theorem reads_json : Reads decode o.json o := by
  rintro _ (_ | _ | _ | _ | _ | _ | ⟨distinct, hmembers⟩)
  simp only [List.forall_mem_cons] at hmembers
  obtain ⟨hsummary, htext, htitle, -⟩ := hmembers
  have hsummary := reads_optional reads_text (fun _ => nofun) _ _ hsummary
  have htext := reads_optional reads_text (fun _ => nofun) _ _ htext
  have htitle := reads_optional reads_text (fun _ => nofun) _ _ htitle
  have hshape : shape.members (.obj _) = .ok _ := members_obj distinct (by
    simp only [shape, List.forall_mem_cons]
    exact ⟨fits_of_eq_ok htitle, fits_of_eq_ok hsummary, fits_of_eq_ok htext,
      List.forall_mem_nil _⟩)
  simp only [decode, hshape, optional?_of_eq_ok htitle, optional?_of_eq_ok hsummary,
    optional?_of_eq_ok htext, bind, Except.bind]

end OutputPayload

/-- A check suite, as an object with its id. -/
def suiteJson (id : UInt64) : Json := .obj [("id", .nat id.toNat)]

theorem elaborates_suiteJson (id : UInt64) : (suiteJson id).Elaborates (suiteJson id) :=
  elaborates_obj_self (by simp) (by simpa using .int _)

theorem reads_suiteJson (id : UInt64) : Reads decodeSuite (suiteJson id) id := by
  rintro _ (_ | _ | _ | _ | _ | _ | ⟨distinct, hmembers⟩)
  have hid := reads_word id _ (hmembers _ List.mem_cons_self)
  have hshape : suiteShape.members (.obj _) = .ok _ :=
    members_obj distinct (by simpa [suiteShape] using fits_of_eq_ok hid)
  simp only [decodeSuite, hshape, required_of_eq_ok hid nofun, bind, Except.bind]

namespace CheckPayload

/-- The fields that a service renders of a check run. -/
def ofCheckRun (check : CheckRun) : CheckPayload :=
  { id := check.externalId
    name := check.name
    status := check.status.name
    conclusion := check.conclusion.map CheckConclusion.name
    suite := check.suiteId
    detailsUrl := check.detailsUrl
    htmlUrl := check.logsUrl
    output := r.unlessDefault "output" { title := none, summary := none, text := none }
      { title := check.outputTitle, summary := check.outputSummary, text := check.outputText }
    startedAt := check.startedAt
    completedAt := check.completedAt }

variable (p : CheckPayload)

/-- The object of the fields, its members in ascending order of their names. -/
def json : Json := .obj
  [("check_suite", Json.optional suiteJson p.suite),
   ("completed_at", Json.optional (r.time "completed_at") p.completedAt),
   ("conclusion", Json.optional .str p.conclusion),
   ("details_url", Json.optional .str p.detailsUrl),
   ("html_url", Json.optional .str p.htmlUrl),
   ("id", .nat p.id.toNat),
   ("name", .str p.name),
   ("output", Json.optional OutputPayload.json p.output),
   ("started_at", Json.optional (r.time "started_at") p.startedAt),
   ("status", .str p.status)]

theorem elaborates_json : (p.json r).Elaborates (p.json r) := by
  refine elaborates_obj_self (by simp) ?_
  simp only [List.forall_mem_cons]
  exact ⟨elaborates_optional_self elaborates_suiteJson _,
    elaborates_optional_self (r.elaborates_time _) _, elaborates_optional_self .str _,
    elaborates_optional_self .str _, elaborates_optional_self .str _, .int _, .str _,
    elaborates_optional_self OutputPayload.elaborates_json _,
    elaborates_optional_self (r.elaborates_time _) _, .str _, List.forall_mem_nil _⟩

/-- The fields of a payload are read back. -/
theorem reads_json : Reads decode (p.json r) p := by
  rintro _ (_ | _ | _ | _ | _ | _ | ⟨distinct, hmembers⟩)
  simp only [List.forall_mem_cons] at hmembers
  obtain ⟨hsuite, hcompletedAt, hconclusion, hdetails, hurl, hid, hname, houtput, hstartedAt,
    hstatus, -⟩ := hmembers
  have hsuite := reads_optional reads_suiteJson (fun _ => nofun) _ _ hsuite
  have hcompletedAt :=
    reads_optional (r.reads_time "completed_at") (fun _ => nofun) _ _ hcompletedAt
  have hconclusion := reads_optional reads_text (fun _ => nofun) _ _ hconclusion
  have hdetails := reads_optional reads_text (fun _ => nofun) _ _ hdetails
  have hurl := reads_optional reads_text (fun _ => nofun) _ _ hurl
  have hid := reads_word _ _ hid
  have hname := reads_text _ _ hname
  have houtput := reads_optional OutputPayload.reads_json (fun _ => nofun) _ _ houtput
  have hstartedAt := reads_optional (r.reads_time "started_at") (fun _ => nofun) _ _ hstartedAt
  have hstatus := reads_text _ _ hstatus
  have hshape : shape.members (.obj _) = .ok _ := members_obj distinct (by
    simp only [shape, List.forall_mem_cons]
    exact ⟨fits_of_eq_ok hid, fits_of_eq_ok hname, fits_of_eq_ok hstatus,
      fits_of_eq_ok hconclusion, fits_of_eq_ok hsuite, fits_of_eq_ok hdetails, fits_of_eq_ok hurl,
      fits_of_eq_ok houtput, fits_of_eq_ok hstartedAt, fits_of_eq_ok hcompletedAt,
      List.forall_mem_nil _⟩)
  simp only [decode, hshape, required_of_eq_ok hid nofun, required_of_eq_ok hname nofun,
    required_of_eq_ok hstatus nofun, optional?_of_eq_ok hconclusion, optional?_of_eq_ok hsuite,
    optional?_of_eq_ok hdetails, optional?_of_eq_ok hurl, optional?_of_eq_ok houtput,
    optional?_of_eq_ok hstartedAt, optional?_of_eq_ok hcompletedAt, bind, Except.bind]

end CheckPayload

end GitHub

open GitHub

/-! ### Records -/

/-- A pull request as a service renders it. -/
def PullRequest.rendering (r : Rendition) (pull : PullRequest) : Json :=
  (PullPayload.ofPullRequest r pull).json r

/-- A check run as a service renders it. -/
def CheckRun.rendering (r : Rendition) (check : CheckRun) : Json :=
  (CheckPayload.ofCheckRun r check).json r

/-- A merged pull request has a time of merging, and one that was closed without has none. -/
structure PullRequest.MergeDated (pull : PullRequest) : Prop where
  closed : pull.state = .closed → pull.mergedAt = none
  merged : pull.state = .merged → pull.mergedAt.isSome

section Records

variable (r : Rendition)

/-- The state of a rendered pull request is told by its name and its time of merging. -/
theorem PullRequest.MergeDated.payloadState?_eq {pull : PullRequest} (h : pull.MergeDated) :
    payloadState? (PullPayload.ofPullRequest r pull).state pull.mergedAt = some pull.state := by
  cases hstate : pull.state with
  | opened => simp [PullPayload.ofPullRequest, payloadState?, hstate]
  | closed => simp [PullPayload.ofPullRequest, payloadState?, hstate, h.closed hstate]
  | merged => simp [PullPayload.ofPullRequest, payloadState?, hstate, h.merged hstate]

theorem toPullRequest_ofPullRequest (pull : PullRequest) :
    (PullPayload.ofPullRequest r pull).toPullRequest pull.state = pull := by
  simp only [PullPayload.ofPullRequest, PullPayload.toPullRequest,
    Rendition.getD_unlessDefault]

theorem toCheckRun_ofCheckRun (check : CheckRun) :
    (CheckPayload.ofCheckRun r check).toCheckRun check.status check.conclusion = check := by
  simp only [CheckPayload.ofCheckRun, CheckPayload.toCheckRun, Rendition.bind_unlessDefault]

/-- A pull request is read back, whatever else its payload says. -/
theorem parsePull_of_elaborates {pull : PullRequest} (hdated : pull.MergeDated) {payload : Json}
    (h : payload.Elaborates (pull.rendering r)) :
    parsePull payload = .ok { pull with payload } := by
  have hdecode := (PullPayload.ofPullRequest r pull).reads_json r payload h
  have hstate : payloadState? (PullPayload.ofPullRequest r pull).state
      (PullPayload.ofPullRequest r pull).mergedAt = some pull.state := hdated.payloadState?_eq r
  rw [parsePull, decodePull, hdecode]
  simp only [hstate, toPullRequest_ofPullRequest]
  rfl

/-- A check run is read back, whatever else its payload says. -/
theorem parseCheck_of_elaborates {check : CheckRun} {payload : Json}
    (h : payload.Elaborates (check.rendering r)) : parseCheck payload = .ok check := by
  have hdecode := (CheckPayload.ofCheckRun r check).reads_json r payload h
  have hstatus : CheckStatus.ofName? (CheckPayload.ofCheckRun r check).status =
      some check.status := CheckStatus.ofName?_name _
  have hcheck : decodeCheck payload = .ok check := by
    have hrecord := toCheckRun_ofCheckRun r check
    rw [decodeCheck, hdecode]
    simp only [hstatus]
    cases hconclusion : check.conclusion with
    | none =>
      have hname : (CheckPayload.ofCheckRun r check).conclusion = none := by
        simp [CheckPayload.ofCheckRun, hconclusion]
      rw [hconclusion] at hrecord
      simp only [hname, hrecord]
    | some conclusion =>
      have hname : (CheckPayload.ofCheckRun r check).conclusion = some conclusion.name := by
        simp [CheckPayload.ofCheckRun, hconclusion]
      rw [hconclusion] at hrecord
      simp only [hname, CheckConclusion.ofName?_name, hrecord]
  rw [parseCheck, hcheck]
  rfl

/-- A time of merging makes a closed pull request a merged one. -/
theorem mergedAt_of_payloadState? {name : String} {mergedAt : Option Instant} {state : PullState}
    (h : payloadState? name mergedAt = some state) :
    (state = .closed → mergedAt = none) ∧ (state = .merged → mergedAt.isSome) := by
  rw [payloadState?] at h
  split_ifs at h with hopen hclosed hmerged
  · obtain rfl := Option.some.inj h
    exact ⟨nofun, nofun⟩
  · obtain rfl := Option.some.inj h
    exact ⟨nofun, fun _ => hmerged⟩
  · obtain rfl := Option.some.inj h
    exact ⟨fun _ => Option.not_isSome_iff_eq_none.1 hmerged, nofun⟩

/-- What is read of any payload keeps the payload, and its state and time of merging fit. -/
theorem mergeDated_of_parsePull {payload : Json} {pull : FetchedPullRequest}
    (h : parsePull payload = .ok pull) : pull.payload = payload ∧ pull.MergeDated := by
  rw [parsePull, Outcome.mapError_eq_ok, decodePull] at h
  cases hdecode : PullPayload.decode payload with
  | error cause => simp [hdecode] at h
  | ok p =>
    cases hstate : payloadState? p.state p.mergedAt with
    | none => simp [hdecode, hstate] at h
    | some state =>
      simp only [hdecode, hstate, Except.ok.injEq] at h
      subst h
      obtain ⟨hclosed, hmerged⟩ := mergedAt_of_payloadState? hstate
      exact ⟨rfl, hclosed, hmerged⟩

end Records

/-- Reading a payload gives back the record that a service rendered: in whatever zones it writes the
times, whether or not it writes defaults, and whatever else it says or, being null, leaves out. A
rendering is such a payload itself. And no payload is read as a closed pull request with a time of
merging, or as a merged one without. -/
theorem payloads_read_back :
    (∀ (r : Rendition) (pull : PullRequest) (payload : Json), pull.MergeDated →
      payload.Elaborates (pull.rendering r) → parsePull payload = .ok { pull with payload }) ∧
    (∀ (r : Rendition) (check : CheckRun) (payload : Json),
      payload.Elaborates (check.rendering r) → parseCheck payload = .ok check) ∧
    (∀ (r : Rendition) (pull : PullRequest) (check : CheckRun),
      (pull.rendering r).Elaborates (pull.rendering r) ∧
        (check.rendering r).Elaborates (check.rendering r)) ∧
    ∀ (payload : Json) (pull : FetchedPullRequest), parsePull payload = .ok pull →
      pull.payload = payload ∧ (pull.state = .closed → pull.mergedAt = none) ∧
        (pull.state = .merged → pull.mergedAt.isSome) :=
  ⟨fun r _ _ hdated h => parsePull_of_elaborates r hdated h,
    fun r _ _ h => parseCheck_of_elaborates r h,
    fun r _ _ => ⟨PullPayload.elaborates_json r _, CheckPayload.elaborates_json r _⟩,
    fun _ _ h => ⟨(mergeDated_of_parsePull h).1, (mergeDated_of_parsePull h).2.closed,
      (mergeDated_of_parsePull h).2.merged⟩⟩

/-! ### A pull request merged in a leap second -/

/-- The leap second at the end of 2016, halfway through. -/
def leapTime : Instant :=
  { second := 1483228799, fraction := 1500000000, inRange := by decide, wellFormed := by decide }

/-- A time of a year that is written with a sign. -/
def farTime : Instant :=
  { second := 253402300800, fraction := 0, inRange := by decide, wellFormed := by decide }

/-- The time of merging is shown by clocks five and a half hours ahead, and defaults are left to the
reader. -/
def sampleRendition : Rendition :=
  { zone := fun field => Instant.Offset.orUtc (if field = "merged_at" then 330 else 0)
    terse := fun _ => true }

/-- A merged pull request of a deleted account. -/
def mergedSample : PullRequest :=
  { number := 18446744073709551615, title := "Add a reader", author := "ghost", state := .merged
    draft := false, baseBranch := "main", baseSha := "b0", headBranch := "reader", headSha := "h0"
    url := "https://example.org/1", body := none, labels := ["io"], assignees := []
    milestone := none, createdAt := .epoch, updatedAt := farTime, closedAt := none
    mergedAt := some leapTime }

/-- Its payload, without what is null, and with more than is read. -/
def mergedPayload : Json := .obj
  [("base", .obj [("label", .str "acme:main"), ("ref", .str "main"), ("sha", .str "b0")]),
   ("body", .null), ("created_at", .str "1970-01-01T00:00:00Z"),
   ("head", .obj [("ref", .str "reader"), ("sha", .str "h0")]),
   ("html_url", .str "https://example.org/1"),
   ("labels", .arr [.obj [("color", .str "d73a4a"), ("name", .str "io")]]), ("locked", .bool false),
   ("merged_at", .str "2017-01-01T05:29:60.500+05:30"), ("number", .nat 18446744073709551615),
   ("state", .str "closed"), ("title", .str "Add a reader"),
   ("updated_at", .str "+10000-01-01T00:00:00Z"), ("user", .null)]

/-- A check run that waits. -/
def waitingSample : CheckRun :=
  { externalId := 7, name := "build", status := .queued, conclusion := none, suiteId := some 3
    detailsUrl := none, logsUrl := none, outputTitle := none, outputSummary := none
    outputText := none, startedAt := none, completedAt := none }

/-- Its payload, without what is null, and with more than is read. -/
def waitingPayload : Json := .obj
  [("app", .obj [("slug", .str "runner")]), ("check_suite", .obj [("id", .nat 3)]), ("id", .nat 7),
   ("name", .str "build"), ("status", .str "queued")]

theorem elaborates_mergedPayload :
    mergedPayload.Elaborates (mergedSample.rendering sampleRendition) := by
  have hcreated : sampleRendition.time "created_at" .epoch = .str "1970-01-01T00:00:00Z" :=
    congrArg Json.str (by decide +kernel)
  have hupdated : sampleRendition.time "updated_at" farTime = .str "+10000-01-01T00:00:00Z" :=
    congrArg Json.str (by decide +kernel)
  have hmerged : Json.optional (sampleRendition.time "merged_at") (some leapTime) =
      .str "2017-01-01T05:29:60.500+05:30" := congrArg Json.str (by decide +kernel)
  have hlabel : (Json.obj [("color", .str "d73a4a"), ("name", .str "io")]).Elaborates
      (singleJson "name" "io") :=
    .obj (by decide) (List.forall_mem_cons.2 ⟨.str _, List.forall_mem_nil _⟩)
  refine .obj (by decide) ?_
  simp only [List.forall_mem_cons, mergedSample, PullPayload.ofPullRequest, hcreated, hupdated,
    hmerged]
  refine ⟨.null, .obj (by decide) ?_, .null, .null, .str _, .null, .obj (by decide) ?_, .str _,
    .arr (.cons hlabel .nil), .str _, .null, .int _, .str _, .str _, .str _, .null,
    List.forall_mem_nil _⟩
  all_goals exact List.forall_mem_cons.2 ⟨.str _, List.forall_mem_cons.2 ⟨.str _,
    List.forall_mem_nil _⟩⟩

theorem elaborates_waitingPayload :
    waitingPayload.Elaborates (waitingSample.rendering sampleRendition) := by
  have hsuite : (Json.obj [("id", .nat 3)]).Elaborates (suiteJson 3) := elaborates_suiteJson 3
  refine .obj (by decide) ?_
  simp only [List.forall_mem_cons, waitingSample, CheckPayload.ofCheckRun]
  exact ⟨hsuite, .null, .null, .null, .null, .int _, .str _, .null, .null, .str _,
    List.forall_mem_nil _⟩

/-- Both payloads are read as the records that they render. -/
theorem payloads_read_back_sample :
    mergedSample.MergeDated ∧ mergedPayload.Elaborates (mergedSample.rendering sampleRendition) ∧
    waitingPayload.Elaborates (waitingSample.rendering sampleRendition) ∧
    parsePull mergedPayload = .ok { mergedSample with payload := mergedPayload } ∧
    parseCheck waitingPayload = .ok waitingSample ∧ mergedSample.mergedAt.isSome := by
  have hdated : mergedSample.MergeDated := ⟨nofun, fun _ => rfl⟩
  obtain ⟨hpulls, hchecks, -, hfit⟩ := payloads_read_back
  have hpull := hpulls sampleRendition mergedSample mergedPayload hdated elaborates_mergedPayload
  exact ⟨hdated, elaborates_mergedPayload, elaborates_waitingPayload, hpull,
    hchecks sampleRendition waitingSample waitingPayload elaborates_waitingPayload,
    (hfit mergedPayload _ hpull).2.2 rfl⟩

end PullWatch
