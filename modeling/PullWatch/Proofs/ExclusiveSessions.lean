import Mathlib.Logic.Function.Basic
import PullWatch.Proofs.Sessions

/-!
# One session at a time

Any number of calls may ask one processor for sessions at the same time. A call begins by setting
the running flag, and is rejected if the flag was set before. Otherwise it shows its session to
observers again and again, and however it ends, it first hides the session and then clears the flag.
Each of these is one step, and steps of different calls may follow each other in any order, with
whatever else happens to the processor in between.

The flag belongs to the one call that has set it, and while it does the shown session is that call's
own. So a rejected call changes nothing, observers see the running session or none, and a call that
has ended cannot hide the session of another.

## Main definitions

* `CallStage`, `CallAction`: how far a call has come, and its steps.
* `Calls`, `Calls.step?`, `Calls.run?`: calls of one processor, one event, and a series of events.
* `Calls.Exclusive`: the flag and the shown session belong to one call, or to none.
* `Calls.Orderly`: what observers and other calls can rely on.

## Main results

* `Calls.Exclusive.step`: one event.
* `Calls.orderly_of_run`: every series of events.
* `Processor.processAll_run`: a session is such a call.
-/

namespace PullWatch

namespace Processor

/-- The processor with the running flag set. -/
def acquire (p : Processor) : Processor := { p with isRunning := true }

/-- The processor with no session shown to observers. -/
def hide (p : Processor) : Processor := { p with live := none }

/-- The processor with the running flag cleared. -/
def release (p : Processor) : Processor := { p with isRunning := false }

/-- Setting a flag that is set changes nothing. -/
theorem acquire_eq_self {p : Processor} (h : p.isRunning = true) : p.acquire = p := by
  rw [acquire, ← h]

end Processor

/-! ### Calls -/

/-- How far a call has come. -/
inductive CallStage where
  /-- It has not looked at the flag yet. -/
  | waiting
  /-- It found the flag set. -/
  | rejected
  /-- It has set the flag, and shown a session last. -/
  | running (shown : Option Session)
  /-- It has hidden its session and not yet cleared the flag. -/
  | leaving
  | ended

/-- A step of a call. -/
inductive CallAction where
  /-- Sets the flag and learns whether it was set before. -/
  | swap
  | publish (session : Session)
  | hide
  | release

namespace CallStage

/-- The call has set the flag and not yet cleared it. -/
def isActive : CallStage → Bool
  | running _ | leaving => true
  | waiting | rejected | ended => false

/-- The session that the call shows to observers. -/
def shown? : CallStage → Option Session
  | running shown => shown
  | waiting | rejected | leaving | ended => none

theorem shown?_eq_none {stage : CallStage} (h : stage.isActive = false) : stage.shown? = none := by
  cases stage with
  | waiting | rejected | leaving | ended => rfl
  | running shown => cases h

/-- One step of a call, if it may take it: its next stage, and the processor. It may leave at any
time after it has set the flag. -/
def step? (p : Processor) : CallStage → CallAction → Option (CallStage × Processor)
  | waiting, .swap => some (if p.isRunning then rejected else running none, p.acquire)
  | running _, .publish session => some (running (some session), p.publish session)
  | running _, .hide => some (leaving, p.hide)
  | leaving, .release => some (ended, p.release)
  | _, _ => none

end CallStage

/-- What happens at a processor. -/
inductive CallEvent where
  /-- A step of a call. -/
  | act (call : Nat) (action : CallAction)
  /-- Anything else: passes use the cache, and a shutdown may be requested. -/
  | touch (cache : Cache) (isShutdown : Bool)

/-- Calls of one processor, any number of them. -/
structure Calls where
  processor : Processor
  stages : Nat → CallStage

namespace Calls

/-- No call has begun. -/
def fresh (p : Processor) : Calls := { processor := p, stages := fun _ => .waiting }

/-- One event, if it may happen. -/
def step? (s : Calls) : CallEvent → Option Calls
  | .act call action =>
    ((s.stages call).step? s.processor action).map fun (stage, p) =>
      { processor := p, stages := Function.update s.stages call stage }
  | .touch cache isShutdown => some { s with processor := { s.processor with cache, isShutdown } }

/-- A series of events, if they may happen one after the other. -/
def run? (s : Calls) (events : List CallEvent) : Option Calls := events.foldlM step? s

/-- What a step of a call does. -/
inductive Acts (s : Calls) (k : Nat) : CallAction → Calls → Prop
  | rejected (hstage : s.stages k = .waiting) (hflag : s.processor.isRunning = true) :
    Acts s k .swap { s with stages := Function.update s.stages k .rejected }
  | begun (hstage : s.stages k = .waiting) (hflag : s.processor.isRunning = false) :
    Acts s k .swap
      { processor := s.processor.acquire, stages := Function.update s.stages k (.running none) }
  | published {shown : Option Session} (session : Session)
      (hstage : s.stages k = .running shown) :
    Acts s k (.publish session)
      { processor := s.processor.publish session
        stages := Function.update s.stages k (.running (some session)) }
  | hidden {shown : Option Session} (hstage : s.stages k = .running shown) :
    Acts s k .hide
      { processor := s.processor.hide, stages := Function.update s.stages k .leaving }
  | released (hstage : s.stages k = .leaving) :
    Acts s k .release
      { processor := s.processor.release, stages := Function.update s.stages k .ended }

variable {s s' : Calls} {k : Nat} {action : CallAction}

/-- Every step of a call is one of these. -/
theorem acts_of_step? (h : s.step? (.act k action) = some s') : Acts s k action s' := by
  obtain ⟨⟨stage, p⟩, hstep, rfl⟩ := Option.map_eq_some_iff.1 h
  cases hstage : s.stages k with
  | waiting =>
    cases action with
    | swap =>
      rw [hstage, CallStage.step?] at hstep
      obtain ⟨rfl, rfl⟩ := Prod.mk.inj (Option.some.inj hstep)
      cases hflag : s.processor.isRunning with
      | true =>
        simp only [if_true, Processor.acquire_eq_self hflag]
        exact .rejected hstage hflag
      | false => exact .begun hstage hflag
    | publish | hide | release => rw [hstage] at hstep; cases hstep
  | running shown =>
    cases action with
    | publish session =>
      rw [hstage, CallStage.step?] at hstep
      obtain ⟨rfl, rfl⟩ := Prod.mk.inj (Option.some.inj hstep)
      exact .published session hstage
    | hide =>
      rw [hstage, CallStage.step?] at hstep
      obtain ⟨rfl, rfl⟩ := Prod.mk.inj (Option.some.inj hstep)
      exact .hidden hstage
    | swap | release => rw [hstage] at hstep; cases hstep
  | leaving =>
    cases action with
    | release =>
      rw [hstage, CallStage.step?] at hstep
      obtain ⟨rfl, rfl⟩ := Prod.mk.inj (Option.some.inj hstep)
      exact .released hstage
    | swap | publish | hide => rw [hstage] at hstep; cases hstep
  | rejected | ended => rw [hstage] at hstep; cases action <;> cases hstep

/-- The flag and the shown session belong to a call, or to none: that call alone is active, the flag
is set for it, and observers see what it has shown. -/
structure OwnedBy (s : Calls) (owner : Option Nat) : Prop where
  active_iff : ∀ j, (s.stages j).isActive = true ↔ owner = some j
  flag : s.processor.isRunning = owner.isSome
  live : s.processor.live = owner.bind fun j => (s.stages j).shown?

namespace OwnedBy

variable {owner : Option Nat}

theorem owner_eq_none (h : s.OwnedBy owner) (hnone : ∀ k, (s.stages k).isActive = false) :
    owner = none := by
  cases owner with
  | none => rfl
  | some k => exact absurd ((hnone k).symm.trans ((h.active_iff k).2 rfl)) Bool.false_ne_true

theorem owner_eq (h : s.OwnedBy owner) (hk : (s.stages k).isActive = true) : owner = some k :=
  (h.active_iff k).1 hk

/-- A call in an active stage is the owner. -/
theorem owner_eq_of_stage {stage : CallStage} (h : s.OwnedBy owner) (hstage : s.stages k = stage)
    (hactive : stage.isActive = true) : owner = some k :=
  h.owner_eq (hstage ▸ hactive)

/-- A call takes a step while no other call is the owner. Afterwards it is the owner if it is
active. -/
theorem update {stage : CallStage} {p : Processor} (h : s.OwnedBy owner)
    (halone : ∀ j, owner = some j → j = k) (hflag : p.isRunning = stage.isActive)
    (hlive : p.live = stage.shown?) :
    OwnedBy { processor := p, stages := Function.update s.stages k stage }
      (if stage.isActive then some k else none) where
  active_iff j := by
    rcases eq_or_ne j k with rfl | hne
    · simp
    · have hothers : owner ≠ some j := fun heq => hne (halone j heq)
      simp [hne, hne.symm, h.active_iff, hothers]
  flag := by
    rw [hflag]
    cases stage.isActive <;> rfl
  live := by
    rw [hlive]
    cases hactive : stage.isActive with
    | true => simp
    | false => exact CallStage.shown?_eq_none hactive

/-- A call takes a step that has to do neither with the flag nor with the shown session. -/
theorem update_of_ne {stage : CallStage} (h : s.OwnedBy owner) (hne : owner ≠ some k)
    (hactive : stage.isActive = false) :
    OwnedBy { s with stages := Function.update s.stages k stage } owner where
  active_iff j := by
    rcases eq_or_ne j k with rfl | hjk
    · simp [hactive, hne]
    · simp [hjk, h.active_iff]
  flag := h.flag
  live := by
    rw [h.live]
    refine Option.bind_congr fun j hj => ?_
    have hjk : j ≠ k := fun heq => hne (heq ▸ hj)
    exact congrArg CallStage.shown? (Function.update_of_ne hjk ..).symm

/-- The active call clears the flag. -/
theorem release (h : s.OwnedBy (some k)) (hstage : s.stages k = .leaving) :
    OwnedBy
      { processor := s.processor.release, stages := Function.update s.stages k .ended } none :=
  have hlive : s.processor.live = none := by rw [h.live, Option.bind_some, hstage]; rfl
  h.update (fun _ heq => (Option.some.inj heq).symm) rfl hlive

/-- A step of a call. -/
theorem act (h : s.OwnedBy owner) (hacts : s.Acts k action s') : ∃ owner', s'.OwnedBy owner' := by
  cases hacts with
  | rejected hstage hflag =>
    have hne : owner ≠ some k := fun heq => by
      have hactive := (h.active_iff k).2 heq
      rw [hstage] at hactive
      cases hactive
    exact ⟨owner, h.update_of_ne hne rfl⟩
  | begun hstage hflag =>
    obtain rfl : owner = none := Option.isNone_iff_eq_none.1 (by simpa [hflag] using h.flag)
    exact ⟨_, h.update (fun _ heq => nomatch heq) rfl h.live⟩
  | published session hstage =>
    obtain rfl := h.owner_eq_of_stage hstage rfl
    exact ⟨_, h.update (fun _ heq => (Option.some.inj heq).symm) h.flag rfl⟩
  | hidden hstage =>
    obtain rfl := h.owner_eq_of_stage hstage rfl
    exact ⟨_, h.update (fun _ heq => (Option.some.inj heq).symm) h.flag rfl⟩
  | released hstage =>
    obtain rfl := h.owner_eq_of_stage hstage rfl
    exact ⟨none, h.release hstage⟩

/-- One event. -/
theorem step (h : s.OwnedBy owner) {e : CallEvent} (hstep : s.step? e = some s') :
    ∃ owner', s'.OwnedBy owner' := by
  cases e with
  | act k action => exact h.act (acts_of_step? hstep)
  | touch cache isShutdown =>
    obtain rfl := Option.some.inj hstep
    exact ⟨owner, h.active_iff, h.flag, h.live⟩

/-- A series of events. -/
theorem run (h : s.OwnedBy owner) {events : List CallEvent} (hrun : s.run? events = some s') :
    ∃ owner', s'.OwnedBy owner' := by
  induction events generalizing s owner with
  | nil =>
    obtain rfl := Option.some.inj hrun
    exact ⟨owner, h⟩
  | cons e events ih =>
    rw [run?, List.foldlM_cons] at hrun
    obtain ⟨next, hstep, hrest⟩ := Option.bind_eq_some_iff.1 hrun
    obtain ⟨owner', hnext⟩ := h.step hstep
    exact ih hnext hrest

end OwnedBy

/-! ### What can be relied on -/

/-- What observers and other calls can rely on. -/
structure Orderly (s : Calls) : Prop where
  /-- At most one call is past the swap. -/
  one : ∀ j k, (s.stages j).isActive = true → (s.stages k).isActive = true → j = k
  /-- The flag is set exactly while a call is past the swap. -/
  flag_iff : s.processor.isRunning = true ↔ ∃ k, (s.stages k).isActive = true
  /-- Observers see what the active call has shown last, until it hides that. -/
  shown : ∀ k, (s.stages k).isActive = true → s.processor.live = (s.stages k).shown?
  /-- A session is shown only while the flag is set. -/
  flagged : s.processor.live ≠ none → s.processor.isRunning = true
  /-- Without an active call observers see none. -/
  idle : (∀ k, (s.stages k).isActive = false) → s.processor.status = .idle
  /-- A call that is rejected changes nothing of the processor. -/
  rejected : ∀ k action s', s.step? (.act k action) = some s' → s'.stages k = .rejected →
    s'.processor = s.processor
  /-- Only the active call changes what observers see. -/
  untouched : ∀ k action s', s.step? (.act k action) = some s' →
    s'.processor.live ≠ s.processor.live → (s.stages k).isActive = true
  /-- When the active call has ended, no call is active. -/
  ended : ∀ k s', s.step? (.act k .release) = some s' → ∀ j, (s'.stages j).isActive = false
  /-- Without an active call the next one is accepted. -/
  accepted : ∀ k, (∀ j, (s.stages j).isActive = false) → s.stages k = .waiting →
    ∃ s', s.step? (.act k .swap) = some s' ∧ s'.stages k = .running none

theorem OwnedBy.orderly {owner : Option Nat} (h : s.OwnedBy owner) : s.Orderly where
  one j k hj hk := Option.some.inj ((h.owner_eq hj).symm.trans (h.owner_eq hk))
  flag_iff := by
    rw [h.flag, Option.isSome_iff_exists]
    exact exists_congr fun k => (h.active_iff k).symm
  shown k hk := by
    rw [h.live, h.owner_eq hk]
    rfl
  flagged hlive := by
    cases owner with
    | none => exact absurd h.live hlive
    | some k => exact h.flag
  idle hnone := by
    obtain rfl := h.owner_eq_none hnone
    have hlive : s.processor.live = none := h.live
    rw [Processor.status, hlive]
  rejected k action s' hstep hrejected := by
    cases acts_of_step? hstep with
    | rejected => rfl
    | begun | published | hidden | released => simp at hrejected
  untouched k action s' hstep hchanged := by
    cases acts_of_step? hstep with
    | rejected | begun | released => exact absurd rfl hchanged
    | published _ hstage | hidden hstage =>
      rw [hstage]
      rfl
  ended k s' hstep j := by
    cases acts_of_step? hstep with
    | released hstage =>
      obtain rfl := h.owner_eq_of_stage hstage rfl
      exact Bool.eq_false_iff.2 fun hj => nomatch ((h.release hstage).active_iff j).1 hj
  accepted k hnone hwaiting := by
    obtain rfl := h.owner_eq_none hnone
    have hflag : s.processor.isRunning = false := h.flag
    refine ⟨{ processor := s.processor.acquire, stages := Function.update s.stages k _ }, ?_,
      Function.update_self ..⟩
    rw [step?, hwaiting, CallStage.step?, hflag]
    rfl

theorem ownedBy_fresh {p : Processor} (hidle : p.isRunning = false) (hlive : p.live = none) :
    (fresh p).OwnedBy none where
  active_iff _ := by simp [fresh, CallStage.isActive]
  flag := hidle
  live := hlive

/-- One session at a time. Whatever happens at an idle processor, in whatever order, its calls are
orderly. -/
theorem orderly_of_run {p : Processor} (hidle : p.isRunning = false) (hlive : p.live = none)
    {events : List CallEvent} (hrun : (fresh p).run? events = some s) : s.Orderly := by
  obtain ⟨owner, howned⟩ := (ownedBy_fresh hidle hlive).run hrun
  exact howned.orderly

/-- Two calls that are rejected, the second while the session before it is being hidden, and one
that is accepted when that session has ended. -/
def sampleEvents (session : Session) : List CallEvent :=
  [.act 0 .swap, .act 0 (.publish session), .act 1 .swap, .act 0 .hide, .act 2 .swap,
    .act 0 .release, .touch { lifetime := 0 } true, .act 3 .swap, .act 3 (.publish session)]

theorem orderly_of_run_sample :
    ∃ s, (fresh { config := {}, cache := { lifetime := 0 } }).run?
        (sampleEvents (.start .full .epoch)) = some s ∧
      s.stages 1 = .rejected ∧ s.stages 2 = .rejected ∧ s.stages 0 = .ended ∧
      s.stages 3 = .running (some (.start .full .epoch)) ∧ s.Orderly := by
  have hrun : ∃ s, (fresh { config := {}, cache := { lifetime := 0 } }).run?
        (sampleEvents (.start .full .epoch)) = some s ∧
      s.stages 1 = .rejected ∧ s.stages 2 = .rejected ∧ s.stages 0 = .ended ∧
      s.stages 3 = .running (some (.start .full .epoch)) := ⟨_, rfl, rfl, rfl, rfl, rfl⟩
  obtain ⟨s, hrun, hfirst, hsecond, hended, hlast⟩ := hrun
  exact ⟨s, hrun, hfirst, hsecond, hended, hlast, orderly_of_run rfl rfl hrun⟩

/-! ### Sessions are calls -/

/-- A call that is past the swap shows sessions one after the other. -/
theorem run?_publishes (p : Processor) (stages : Nat → CallStage) (k : Nat)
    (shown : Option Session) (sessions : List Session) :
    ∃ last live,
      run? { processor := p, stages := Function.update stages k (.running shown) }
          (sessions.map fun session => .act k (.publish session)) =
        some
          { processor := { p with live }
            stages := Function.update stages k (.running last) } := by
  induction sessions generalizing p shown with
  | nil => exact ⟨shown, p.live, rfl⟩
  | cons session sessions ih =>
    obtain ⟨last, live, hrest⟩ := ih (p.publish session) (some session)
    refine ⟨last, live, ?_⟩
    have hstep :
        step? { processor := p, stages := Function.update stages k (.running shown) }
            (.act k (.publish session)) =
          some
            { processor := p.publish session
              stages := Function.update stages k (.running (some session)) } := by
      simp [step?, CallStage.step?]
    rw [List.map_cons, run?, List.foldlM_cons, hstep]
    exact hrest

end Calls

/-- The session of an event that shows one. -/
def RunEvent.published? : RunEvent → Option Session
  | published session => some session
  | sent _ => none

/-- What happens at a processor when a call runs a session and nothing else happens. -/
def Outcome.callEvents (o : Outcome Batch) (k : Nat) : List CallEvent :=
  .act k .swap ::
    ((o.trace.filterMap RunEvent.published?).map (fun session => .act k (.publish session)) ++
      [.touch o.processor.cache o.processor.isShutdown, .act k .hide, .act k .release])

section Sessions

variable {p : Processor} {env : Surroundings} {db : Database} {mode : Mode}

/-- A session of an idle processor is a call that is accepted, shows what the session shows, and
ends. -/
theorem Processor.processAll_run (hidle : p.isRunning = false) (ids : Option (List Int)) (k : Nat) :
    (Calls.fresh p).run? ((p.processAll env db ids mode).callEvents k) =
      some
        { processor := (p.processAll env db ids mode).processor
          stages := Function.update (fun _ => .waiting) k .ended } := by
  generalize ho : p.processAll env db ids mode = o
  have hafter : o.processor =
      { p with
        cache := o.processor.cache, isShutdown := o.processor.isShutdown, isRunning := false
        live := none } := by
    rw [← ho, processAll_eq, hidle]
    rfl
  have hswap : (Calls.fresh p).step? (.act k .swap) =
      some
        { processor := p.acquire
          stages := Function.update (fun _ => .waiting) k (.running none) } := by
    simp [Calls.step?, Calls.fresh, CallStage.step?, hidle]
  obtain ⟨last, live, hpublishes⟩ := Calls.run?_publishes p.acquire (fun _ => .waiting) k none
    (o.trace.filterMap RunEvent.published?)
  rw [Calls.run?] at hpublishes
  rw [Outcome.callEvents, Calls.run?, List.foldlM_cons, hswap]
  simp only [Option.bind_eq_bind, Option.bind_some, List.foldlM_append, hpublishes]
  -- hiding the session and clearing the flag leave the processor of the outcome
  simp only [List.foldlM_cons, List.foldlM_nil, Calls.step?, CallStage.step?, Function.update_self,
    Option.map_some, Option.bind_eq_bind, Option.bind_some, Function.update_idem]
  exact congrArg (fun processor => some (Calls.mk processor _)) hafter.symm

/-- A session that finds another one running is a call that is rejected. -/
theorem Processor.processAll_rejected (hrunning : p.isRunning = true) (ids : Option (List Int))
    (k : Nat) :
    (p.processAll env db ids mode).result = .error .alreadyRunning ∧
      (Calls.fresh p).run? [.act k .swap] =
        some
          { processor := (p.processAll env db ids mode).processor
            stages := Function.update (fun _ => .waiting) k .rejected } := by
  rw [processAll_eq, if_pos hrunning]
  refine ⟨rfl, ?_⟩
  simp [Calls.run?, Calls.step?, Calls.fresh, CallStage.step?, hrunning,
    Processor.acquire_eq_self hrunning]

end Sessions

end PullWatch
