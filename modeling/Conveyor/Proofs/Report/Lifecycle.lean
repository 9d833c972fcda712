/-
**The life of an instance.**

Whoever holds a stage may ask its instances for this and that, one by one, or cancel all those that
were not started.  Whatever is asked for, in whatever order and however often it is refused, the
statuses that an instance takes are a path of the course from pending to succeeded, which it may leave
by a failure once it was started and by a cancellation as long as it has not ended.  What is known of
its times tells where on this path it stands.

Main definitions:

* `Conveyor.InstanceStatus.course`, `Conveyor.InstanceStatus.Follows` — the course, and what may
  follow on a path;
* `Conveyor.JobInstance.taken` — the statuses that an instance takes;
* `Conveyor.JobInstance.HasLived`, `Conveyor.JobInstance.Life` — the path of an instance, and what is
  known of its times;
* `Conveyor.StageReport.sweep` — the pending instances cancelled one by one, up to a refusal;
* `Conveyor.StageReport.Call`, `Conveyor.StageReport.afterCalls` — what a stage is called for.

Main results:

* `Conveyor.InstanceStatus.mayBecome_iff_follows` — the table says what follows on a path;
* `Conveyor.JobInstance.ask_met_iff` — a demand is met just when its status may follow;
* `Conveyor.JobInstance.HasLived.ask` — a demand keeps the path, or adds to it;
* `Conveyor.StageReport.sweep_eq` — nobody refuses when the pending instances are cancelled;
* `Conveyor.StageReport.hasLived_of_afterCalls` — **the life of the instances of a stage**.
-/

import Mathlib.Data.List.Chain
import Conveyor.Proofs.Report.Refusal

set_option autoImplicit false

namespace Conveyor

/-! ### Paths -/

namespace InstanceStatus

/-- The course of an instance that succeeds. -/
def course : List InstanceStatus :=
  [.pending, .startingServices, .runningSteps, .collectingArtifacts, .succeeded]

/-- What follows on a path: the next status of the course, a failure of what was started, or a
cancellation.  Nothing follows a status that has ended. -/
def Follows (s t : InstanceStatus) : Prop :=
  [s, t] <:+: course ∨ (s ≠ .pending ∧ s.isTerminal = false ∧ t = .failed) ∨
    (s.isTerminal = false ∧ t = .cancelled)

instance (s t : InstanceStatus) : Decidable (Follows s t) := inferInstanceAs (Decidable (_ ∨ _))

/-- The table says what follows on a path. -/
theorem mayBecome_iff_follows {s t : InstanceStatus} : s.mayBecome t = true ↔ Follows s t := by
  cases s <;> cases t <;> decide

/-- How far a status is from the start. -/
def rank : InstanceStatus → Nat
  | .pending => 0
  | .startingServices => 1
  | .runningSteps => 2
  | .collectingArtifacts => 3
  | .succeeded | .failed | .cancelled => 4

/-- What follows is farther from the start. -/
theorem Follows.rank_lt {s t : InstanceStatus} (h : Follows s t) : s.rank < t.rank := by
  revert h
  cases s <;> cases t <;> decide

/-- A path never comes back to a status. -/
theorem nodup_of_isChain {path : List InstanceStatus} (h : path.IsChain Follows) : path.Nodup := by
  have hrank : (path.map rank).IsChain (· < ·) := by
    rw [List.isChain_map]
    exact h.imp fun _ _ hst => hst.rank_lt
  exact hrank.pairwise.imp Nat.ne_of_lt |>.of_map rank fun _ _ hne heq => hne (congrArg rank heq)

/-- A path ends with a status that has ended. -/
theorem eq_nil_of_isChain {before later : List InstanceStatus} {s : InstanceStatus}
    (h : (before ++ s :: later).IsChain Follows) (hs : s.isTerminal = true) : later = [] := by
  cases later with
  | nil => rfl
  | cons t later =>
      have hst : Follows s t := (List.isChain_cons_cons.1 (List.isChain_append.1 h).2.1).1
      rw [← mayBecome_iff_follows, not_mayBecome_of_isTerminal hs] at hst
      cases hst

end InstanceStatus

/-! ### Instances -/

namespace JobInstance

/-- The status that an instance takes when it is asked for something, if it does not refuse. -/
def takes (i : JobInstance) (d : Demand) : List InstanceStatus :=
  match (i.ask d).2 with
  | none => [d.target]
  | some _ => []

/-- What is asked for is done just when its status may follow on a path. -/
theorem ask_met_iff (i : JobInstance) (d : Demand) :
    (i.ask d).2 = none ↔ i.status.Follows d.target := by
  rw [← InstanceStatus.mayBecome_iff_follows]
  rcases ask_cases i d with ⟨hmay, hask⟩ | ⟨hmay, hask⟩
  · exact iff_of_true (by rw [hask]) hmay
  · exact iff_of_false (by simp [hask]) (by simp [hmay])

/-- The statuses that an instance takes, one after the other, when it is asked for this and that. -/
def taken (i : JobInstance) : List Demand → List InstanceStatus
  | [] => []
  | d :: ds => i.takes d ++ (i.ask d).1.taken ds

/-- An instance has come along a path: what is known of its times tells where it stands. -/
structure HasLived (j : JobInstance) (path : List InstanceStatus) : Prop where
  chain : path.IsChain InstanceStatus.Follows
  first : path.head? = some .pending
  last : path.getLast? = some j.status
  finished_iff : j.finished = true ↔ j.isTerminal = true
  started_iff : j.started = true ↔ .startingServices ∈ path
  unstarted : j.started = false → j.status = .pending ∨ j.status = .cancelled

variable {i j : JobInstance} {path : List InstanceStatus}

/-- At first, an instance is pending. -/
theorem hasLived_of_planned (h : i.planned = i) : i.HasLived [.pending] := by
  rw [← h]
  exact ⟨.singleton _, rfl, rfl, iff_of_false nofun nofun, iff_of_false nofun (by decide),
    fun _ => .inl rfl⟩

/-- A status that may follow adds to the path. -/
theorem HasLived.enter (h : j.HasLived path) {s : InstanceStatus}
    (hs : j.status.mayBecome s = true) : (j.enter s).HasLived (path ++ [s]) where
  chain := by
    refine List.isChain_append.2 ⟨h.chain, .singleton s, ?_⟩
    rw [h.last]
    rintro _ ⟨⟩ _ ⟨⟩
    exact InstanceStatus.mayBecome_iff_follows.1 hs
  first := by rw [List.head?_append, h.first, Option.some_or]
  last := by rw [List.getLast?_concat, status_enter]
  finished_iff := by
    -- What may still become something had not ended.
    have hopen : j.finished = false := by
      rw [Bool.eq_false_iff, Ne, h.finished_iff]
      intro hended
      rw [InstanceStatus.not_mayBecome_of_isTerminal hended] at hs
      cases hs
    simp [JobInstance.enter, isTerminal, hopen]
  started_iff := by
    rw [List.mem_append, List.mem_singleton, ← h.started_iff, JobInstance.enter, Bool.or_eq_true,
      beq_iff_eq, @eq_comm _ s]
  unstarted hstarted := by
    simp only [JobInstance.enter, Bool.or_eq_false_iff, beq_eq_false_iff_ne] at hstarted
    rw [status_enter]
    rcases h.unstarted hstarted.1 with hp | hc
    · rw [hp] at hs
      cases s <;> first | exact .inr rfl | exact absurd rfl hstarted.2 | cases hs
    · rw [hc] at hs
      cases s <;> cases hs

/-- The path does not tell the error. -/
theorem HasLived.noted (h : j.HasLived path) (d : Demand) : (j.noted d).HasLived path := by
  cases d <;> exact ⟨h.chain, h.first, h.last, h.finished_iff, h.started_iff, h.unstarted⟩

/-- A demand that is met adds to the path, and one that is refused keeps it. -/
theorem HasLived.ask (h : j.HasLived path) (d : Demand) :
    (j.ask d).1.HasLived (path ++ j.takes d) := by
  rcases ask_cases j d with ⟨hmay, hask⟩ | ⟨_, hask⟩
  · rw [takes, hask]
    exact (h.noted d).enter (by rwa [status_noted])
  · rw [takes, hask]
    simpa using h.noted d

/-- **The path of an instance**: whatever it is asked for, the statuses that it takes prolong it. -/
theorem HasLived.afterAll (h : j.HasLived path) (ds : List Demand) :
    (j.afterAll ds).HasLived (path ++ j.taken ds) := by
  induction ds generalizing j path with
  | nil => rwa [taken, List.append_nil]
  | cons d ds ih =>
      rw [afterAll_cons, taken, ← List.append_assoc]
      exact ih (h.ask d)

/-- What the path of an instance is like, and what is known of the time that it took. -/
structure Life (j : JobInstance) (path : List InstanceStatus) : Prop extends j.HasLived path where
  nodup : path.Nodup
  ended_last : ∀ (before later : List InstanceStatus) (s : InstanceStatus),
    path = before ++ s :: later → s.isTerminal = true → later = []
  started_of_status : j.status = .succeeded ∨ j.status = .failed → j.started = true
  hasDuration_iff : j.hasDuration = true ↔ j.started = true ∧ j.isTerminal = true

theorem HasLived.life (h : j.HasLived path) : j.Life path where
  toHasLived := h
  nodup := InstanceStatus.nodup_of_isChain h.chain
  ended_last _ _ _ hpath hs := InstanceStatus.eq_nil_of_isChain (hpath ▸ h.chain) hs
  started_of_status hs := by
    by_contra hstarted
    rcases h.unstarted (by simpa using hstarted) with hj | hj <;> simp [hj] at hs
  hasDuration_iff := by rw [hasDuration, Bool.and_eq_true, h.finished_iff]

/-- An instance that has ended refuses everything. -/
theorem status_afterAll_of_isTerminal (h : j.isTerminal = true) (ds : List Demand) :
    (j.afterAll ds).status = j.status := by
  induction ds generalizing j with
  | nil => rfl
  | cons d ds ih =>
      have hask : (j.ask d).1.status = j.status := by
        rcases ask_cases j d with ⟨hmay, _⟩ | ⟨_, hask⟩
        · rw [InstanceStatus.not_mayBecome_of_isTerminal h] at hmay
          cases hmay
        · rw [hask, status_noted]
      rw [afterAll_cons, ih (by rwa [isTerminal, hask]), hask]

end JobInstance

/-! ### Stages -/

namespace StageReport

open JobInstance (Demand)

/-- The pending instances cancelled one after the other, until one of them refuses. -/
def cancelEach (reason : String) : List JobInstance → List JobInstance × Option Refusal
  | [] => ([], none)
  | i :: is =>
      if i.status = .pending then
        match i.cancel reason with
        | (j, some r) => (j :: is, some r)
        | (j, none) => (j :: (cancelEach reason is).1, (cancelEach reason is).2)
      else (i :: (cancelEach reason is).1, (cancelEach reason is).2)

/-- The pending instances of a stage cancelled one after the other: how many they are, or the refusal
that stopped it. -/
def sweep (s : StageReport) (reason : String) : StageReport × Except Refusal Nat :=
  ({ s with instances := (cancelEach reason s.instances).1 },
    match (cancelEach reason s.instances).2 with
    | some r => .error r
    | none => .ok s.pending.length)

theorem cancelEach_eq (reason : String) (is : List JobInstance) :
    cancelEach reason is = (is.map (cancelIfPending reason), none) := by
  induction is with
  | nil => rfl
  | cons i is ih =>
      unfold cancelEach
      rw [ih]
      by_cases hp : i.status = .pending
      · have hcancel : i.cancel reason = (cancelIfPending reason i, none) := by
          rw [cancelIfPending_of_pending hp]
          simp [JobInstance.cancel, JobInstance.attempt, JobInstance.transition, hp,
            InstanceStatus.mayBecome]
        rw [if_pos hp, hcancel]
        rfl
      · rw [if_neg hp, List.map_cons, cancelIfPending_of_ne hp]

/-- Nobody refuses when the pending instances are cancelled. -/
theorem sweep_eq (s : StageReport) (reason : String) :
    s.sweep reason = (s.cancelPending reason, .ok s.pending.length) := by
  rw [sweep, cancelEach_eq]
  rfl

/-- What a stage is called for: something that an instance is asked for, or the cancellation of those
that were not started. -/
inductive Call where
  | ask (k : Nat) (d : Demand)
  | cancelPending (reason : String)

/-- A stage after a call, whatever was refused. -/
def call (s : StageReport) : Call → StageReport
  | .ask k d => { s with instances := s.instances.modify k fun i => (i.ask d).1 }
  | .cancelPending reason => (s.sweep reason).1

/-- A stage after one call after the other. -/
def afterCalls (s : StageReport) (cs : List Call) : StageReport := cs.foldl call s

/-- What the instance at a place is asked for by a call. -/
def Call.asks (k : Nat) (i : JobInstance) : Call → List Demand
  | .ask l d => if l = k then [d] else []
  | .cancelPending reason => if i.status = .pending then [.cancel reason] else []

/-- What the instance at a place is asked for by one call after the other. -/
def Call.asksAll (k : Nat) (i : JobInstance) : List Call → List Demand
  | [] => []
  | c :: cs => c.asks k i ++ asksAll k (i.afterAll (c.asks k i)) cs

theorem getElem?_call (s : StageReport) (c : Call) (k : Nat) :
    (s.call c).instances[k]? = s.instances[k]?.map fun i => i.afterAll (c.asks k i) := by
  cases c with
  | ask l d =>
      rw [call, List.getElem?_modify]
      refine congrFun (congrArg Option.map (funext fun i => ?_)) _
      by_cases hl : l = k
      · rw [Call.asks, if_pos hl, if_pos hl]
        rfl
      · rw [Call.asks, if_neg hl, if_neg hl]
        rfl
  | cancelPending reason =>
      rw [call, sweep_eq]
      simp only [cancelPending, List.getElem?_map, Call.asks]
      refine congrArg (s.instances[k]?.map ·) (funext fun i => ?_)
      unfold cancelIfPending
      split <;> rfl

/-- Each instance sees no more than what it is asked for itself. -/
theorem getElem?_afterCalls (s : StageReport) (cs : List Call) (k : Nat) :
    (s.afterCalls cs).instances[k]? =
      s.instances[k]?.map fun i => i.afterAll (Call.asksAll k i cs) := by
  induction cs generalizing s with
  | nil => simp [afterCalls, Call.asksAll, JobInstance.afterAll]
  | cons c cs ih =>
      have hcons : s.afterCalls (c :: cs) = (s.call c).afterCalls cs := rfl
      rw [hcons, ih, getElem?_call, Option.map_map]
      refine congrArg (s.instances[k]?.map ·) (funext fun i => ?_)
      rw [Function.comp_apply, Call.asksAll, JobInstance.afterAll_append]

/-- The pending instances of a stage are cancelled for a reason, nobody refuses, and their number is
returned, which is zero when this is repeated.  Cancelling them all at once, as an execution does, comes
to the same. -/
structure Cancels (s : StageReport) (reason : String) : Prop where
  at_once : (s.sweep reason).1 = s.cancelPending reason
  number : (s.sweep reason).2 = .ok (s.instances.countP (·.status = .pending))
  each : List.Forall₂ (fun i j => if i.status = .pending then
      j = { i with status := .cancelled, error := some reason, errorKind := some "CancellationError"
                   finished := true }
    else j = i) s.instances (s.sweep reason).1.instances
  again : ∀ r, (s.sweep reason).1.sweep r = ((s.sweep reason).1, .ok 0)

theorem cancels (s : StageReport) (reason : String) : s.Cancels reason where
  at_once := by rw [sweep_eq]
  number := by
    rw [sweep_eq, pending, List.countP_eq_length_filter]
    rfl
  each := by
    rw [sweep_eq, cancelPending, List.forall₂_map_right_iff]
    refine List.forall₂_same.2 fun i _ => ?_
    by_cases hp : i.status = .pending
    · rw [if_pos hp, cancelIfPending_of_pending hp]
      simp [JobInstance.enter, InstanceStatus.isTerminal]
    · rw [if_neg hp, cancelIfPending_of_ne hp]
  again r := by
    have hne : ∀ i ∈ (s.cancelPending reason).instances, i.status ≠ .pending := by
      intro i hi
      obtain ⟨i, _, rfl⟩ := List.mem_map.1 hi
      exact status_cancelIfPending_ne_pending reason i
    have hnone : (s.cancelPending reason).pending = [] := by
      rw [pending, List.filter_eq_nil_iff]
      intro i hi
      simpa using hne i hi
    have hsame : (s.cancelPending reason).cancelPending r = s.cancelPending reason := by
      have hmap : (s.cancelPending reason).instances.map (cancelIfPending r) =
          (s.cancelPending reason).instances :=
        List.map_congr_left (fun i hi => cancelIfPending_of_ne (hne i hi)) |>.trans (List.map_id _)
      rw [cancelPending, hmap]
    rw [sweep_eq, sweep_eq, hsame, hnone]
    rfl

/-- **The life of the instances of a stage**, whatever it is called for and whatever is refused.  The
statuses that an instance takes are a path, with none twice and none after one that has ended, and what
is known of its times tells where it stands.  Those that were not started can be cancelled at any
time. -/
theorem hasLived_of_afterCalls {s : StageReport} (hs : ∀ i ∈ s.instances, i.planned = i)
    (cs : List Call) :
    (∀ (k : Nat) (i : JobInstance), s.instances[k]? = some i → ∃ j : JobInstance,
      (s.afterCalls cs).instances[k]? = some j ∧
      j.Life (.pending :: i.taken (Call.asksAll k i cs)) ∧
      (∀ d, (j.ask d).2 = none ↔ j.status.Follows d.target) ∧
      (j.isTerminal = true → ∀ more, ∃ j' : JobInstance,
        (s.afterCalls (cs ++ more)).instances[k]? = some j' ∧ j'.status = j.status)) ∧
    ∀ reason, (s.afterCalls cs).Cancels reason := by
  refine ⟨fun k i hi => ?_, fun reason => cancels _ reason⟩
  have hstart : i.HasLived [.pending] :=
    JobInstance.hasLived_of_planned (hs i (List.mem_of_getElem? hi))
  have hlived := hstart.afterAll (Call.asksAll k i cs)
  have hj : (s.afterCalls cs).instances[k]? = some (i.afterAll (Call.asksAll k i cs)) := by
    rw [getElem?_afterCalls, hi, Option.map_some]
  refine ⟨_, hj, hlived.life, JobInstance.ask_met_iff _, fun hended more => ?_⟩
  have happend : s.afterCalls (cs ++ more) = (s.afterCalls cs).afterCalls more := List.foldl_append
  rw [happend, getElem?_afterCalls, hj, Option.map_some]
  exact ⟨_, rfl, JobInstance.status_afterAll_of_isTerminal hended _⟩

/-- A stage of two idle instances. -/
def idlePair : StageReport :=
  { name := "ci", instances := [JobInstance.idle, JobInstance.idle] }

/-- The first instance is started and fails, the second one is cancelled before it was started, and
half of the calls are refused. -/
theorem hasLived_of_idlePair :
    (∀ i ∈ idlePair.instances, i.planned = i) ∧
    ∃ (j j' : JobInstance) (t : StageReport), t = idlePair.afterCalls [.ask 0 (.fail (.value "early")),
        .ask 0 (.transition .startingServices), .cancelPending "halt",
        .ask 1 (.transition .startingServices), .ask 0 (.fail (.value "boom")),
        .ask 0 (.cancel "late")] ∧ t.instances = [j, j'] ∧
      j.HasLived [.pending, .startingServices, .failed] ∧ j.hasDuration = true ∧
      j'.HasLived [.pending, .cancelled] ∧ j'.started = false ∧
      (t.sweep "halt").2 = .ok 0 := by
  have hplanned : ∀ i ∈ idlePair.instances, i.planned = i := by
    intro i hi
    rw [idlePair, List.mem_cons, List.mem_singleton, or_self] at hi
    rw [hi]
    rfl
  obtain ⟨hlived, hcancels⟩ := hasLived_of_afterCalls hplanned [.ask 0 (.fail (.value "early")),
    .ask 0 (.transition .startingServices), .cancelPending "halt",
    .ask 1 (.transition .startingServices), .ask 0 (.fail (.value "boom")), .ask 0 (.cancel "late")]
  obtain ⟨j, hj, hlife, -⟩ := hlived 0 _ rfl
  obtain ⟨j', hj', hlife', -⟩ := hlived 1 _ rfl
  cases hj
  cases hj'
  exact ⟨hplanned, _, _, _, rfl, rfl, hlife.toHasLived, hlife.hasDuration_iff.2 ⟨rfl, rfl⟩,
    hlife'.toHasLived, rfl, (hcancels "halt").number⟩

end StageReport

end Conveyor
