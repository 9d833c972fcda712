/-
**What an execution keeps while it goes on.**

The stages behind an execution are settled, the workers of its open stage are sound, and nothing
was started in the stages before it.  Every change of an execution keeps this, and changes the
instances where they stand.

Main definitions:

* `Conveyor.StageReport.Settled` — a stage that is over, with a status that says how;
* `Conveyor.Execution.Sound` — what an execution keeps;
* `Conveyor.Execution.Carries` — one execution goes on to another one.

Main results:

* `Conveyor.Execution.carries_mapWorkers`, `Conveyor.Execution.carries_turn` — the workers of the
  open stage change;
* `Conveyor.Execution.carries_cancelPending`, `Conveyor.Execution.carries_close`,
  `Conveyor.Execution.carries_skip`, `Conveyor.Execution.carries_openStage`,
  `Conveyor.Execution.carries_conclude`, `Conveyor.Execution.carries_abort` — the execution changes
  as a whole.
-/

import Mathlib.Data.List.Nodup
import Conveyor.Engine.Execution
import Conveyor.Proofs.Worker.Act

set_option autoImplicit false

namespace Conveyor

/-! ### Stages that are over -/

namespace StageReport

/-- A stage that is over: its instances have ended, and its status says how, or it was skipped. -/
structure Settled (s : StageReport) : Prop where
  ended : ∀ i ∈ s.instances, i.isTerminal = true
  status : s.status = s.outcome ∨
    (s.status = .cancelled ∧ ∀ i ∈ s.instances, i.status = .cancelled)

theorem cancelPending_of_ended {s : StageReport} (reason : String)
    (h : ∀ i ∈ s.instances, i.isTerminal = true) : s.cancelPending reason = s := by
  have hi : s.instances.map (cancelIfPending reason) = s.instances := by
    refine (List.map_congr_left ?_).trans (List.map_id _)
    exact fun i hi => (becomes_cancelIfPending reason i).ended (h i hi)
  rw [cancelPending, hi]

end StageReport

/-! ### The instances of the open stage -/

namespace OpenStage

/-- The instances of an open stage can be told apart. -/
def Distinct (s : OpenStage) : Prop := (s.workers.map fun w => w.inst.identity).Nodup

theorem eq_of_identity_eq {s : OpenStage} (hd : s.Distinct) {v w : Worker} (hv : v ∈ s.workers)
    (hw : w ∈ s.workers) (h : v.inst.identity = w.inst.identity) : v = w :=
  List.inj_on_of_nodup_map hd hv hw h

theorem put_of_mem {s : OpenStage} (hd : s.Distinct) {w : Worker} (hw : w ∈ s.workers) :
    s.put w = s := by
  have hsame : s.workers.map (fun v => if v.inst.identity = w.inst.identity then w else v) =
      s.workers := by
    refine (List.map_congr_left fun v hv => ?_).trans (List.map_id _)
    split
    · rename_i h
      exact eq_of_identity_eq hd hw hv h.symm
    · rfl
  rw [put, mapWorkers, hsame]

/-- Noting an outcome does nothing, or cancels the instances that were not started. -/
theorem exists_workers_noteOutcome (s : OpenStage) (failFast : Bool) (w : Worker) :
    ∃ f : Worker → Worker, (s.noteOutcome failFast w).workers = s.workers.map f ∧
      (s.noteOutcome failFast w).name = s.name ∧
      ∀ v, f v = v ∨
        ∃ reason, f v = { v with inst := StageReport.cancelIfPending reason v.inst } := by
  unfold noteOutcome
  split
  · exact ⟨_, rfl, rfl, fun v => .inr ⟨_, rfl⟩⟩
  · exact ⟨id, (List.map_id _).symm, rfl, fun v => .inl rfl⟩

theorem noteOutcome_of_not_failFast (s : OpenStage) (w : Worker) : s.noteOutcome false w = s := by
  simp [noteOutcome]

end OpenStage

/-- Cancelling an instance that was not started leaves a sound worker. -/
theorem Worker.Sound.cancelIfPending {w : Worker} (h : w.Sound) (reason : String) :
    Worker.Sound { w with inst := StageReport.cancelIfPending reason w.inst } := by
  refine ⟨?_, h.refused⟩
  by_cases hs : w.inst.status = .pending
  · have hfits := h.fits
    rw [hs] at hfits
    simp only [StageReport.status_cancelIfPending, hs, if_true]
    cases hpt : w.point with
    | queued => exact .inr rfl
    | ended => exact .inl rfl
    | starting => simp [hpt, Point.Fits] at hfits
    | running => simp [hpt, Point.Fits] at hfits
    | stopping => exact absurd rfl (hpt ▸ hfits : InstanceStatus.MayEnd _ _).ne_pending
  · rw [StageReport.cancelIfPending_of_ne hs]
    exact h.fits

namespace Execution

/-- What an execution keeps while it goes on. -/
structure Sound (e : Execution) : Prop where
  past : ∀ s ∈ e.past, s.Settled
  workers : ∀ s, e.current = some s → ∀ w ∈ s.workers, w.Sound
  distinct : ∀ s, e.current = some s → s.Distinct
  future : ∀ s ∈ e.future, (s.instances.map JobInstance.identity).Nodup ∧
    ∀ i ∈ s.instances, i.status = .pending ∨ i.status = .cancelled
  returned : ∀ st, e.ending = some (.returned st) →
    e.current = none ∧ e.future = [] ∧ st = e.finalStatus ∧
      e.aggregated = dedupe (e.instances.flatMap RunReport.contribution)

/-- An instance is in a stage that is behind, in the open one, or in one to come. -/
theorem instances_cases {e : Execution} {i : JobInstance} (hi : i ∈ e.instances) :
    (∃ s ∈ e.past, i ∈ s.instances) ∨
      (∃ s w, e.current = some s ∧ w ∈ s.workers ∧ i = w.inst) ∨
      ∃ s ∈ e.future, i ∈ s.instances := by
  obtain ⟨s, hs, his⟩ := List.mem_flatMap.1 hi
  simp only [stages, List.mem_append, List.mem_map, Option.mem_toList] at hs
  rcases hs with (hs | ⟨s, hs, rfl⟩) | hs
  · exact .inl ⟨s, hs, his⟩
  · obtain ⟨w, hw, rfl⟩ := List.mem_map.1 his
    exact .inr (.inl ⟨s, w, hs, hw, rfl⟩)
  · exact .inr (.inr ⟨s, hs, his⟩)

/-- An execution that returned has nothing but stages that are over. -/
theorem Sound.settled_of_returned {e : Execution} (h : e.Sound) {st : Status}
    (hst : e.ending = some (.returned st)) : ∀ s ∈ e.stages, s.Settled := by
  obtain ⟨hcur, hfut, _, _⟩ := h.returned st hst
  intro s hs
  refine h.past s ?_
  simpa [stages, hcur, hfut] using hs

theorem Sound.isTerminal_of_returned {e : Execution} (h : e.Sound) {st : Status}
    (hst : e.ending = some (.returned st)) : ∀ i ∈ e.instances, i.isTerminal = true := by
  intro i hi
  obtain ⟨s, hs, his⟩ := List.mem_flatMap.1 hi
  exact (h.settled_of_returned hst s hs).ended i his

/-- One execution goes on to another one: its instances change where they stand, and what is behind
it and how it ended is kept. -/
structure Carries (e e' : Execution) : Prop where
  sound : e'.Sound
  stages : List.Forall₂ StageReport.Becomes e.stages e'.stages
  past : e.past.map StageReport.name <+: e'.past.map StageReport.name
  ending : ∀ x, e.ending = some x → e'.ending = some x

theorem Carries.refl {e : Execution} (h : e.Sound) : e.Carries e :=
  ⟨h, StageReport.forall₂_becomes_refl _, List.prefix_rfl, fun _ hx => hx⟩

theorem Carries.trans {e f g : Execution} (h : e.Carries f) (h' : f.Carries g) : e.Carries g :=
  ⟨h'.sound, forall₂_trans (fun _ _ _ hst htu => hst.trans htu) h.stages h'.stages,
    h.past.trans h'.past, fun x hx => h'.ending x (h.ending x hx)⟩

theorem Carries.instances {e e' : Execution} (h : e.Carries e') :
    List.Forall₂ JobInstance.Becomes e.instances e'.instances :=
  StageReport.forall₂_flatMap (h.stages.imp fun _ _ hst => hst.instances)

/-! ### Changes of workers -/

theorem forall₂_stages_setCurrent {e : Execution} {s s' : OpenStage} (hs : e.current = some s)
    (h : s.report.Becomes s'.report) :
    List.Forall₂ StageReport.Becomes e.stages { e with current := some s' }.stages := by
  simp only [stages, hs, Option.toList_some, List.map_cons, List.map_nil]
  exact List.rel_append (List.rel_append (StageReport.forall₂_becomes_refl _) (.cons h .nil))
    (StageReport.forall₂_becomes_refl _)

/-- The workers of the open stage change, and the stage keeps its name. -/
theorem carries_mapWorkers {e : Execution} (h : e.Sound) {s s' : OpenStage} {f : Worker → Worker}
    (hs : e.current = some s) (hname : s'.name = s.name) (hw : s'.workers = s.workers.map f)
    (hf : ∀ w ∈ s.workers, (f w).Sound ∧ w.inst.Becomes (f w).inst) :
    e.Carries { e with current := some s' } := by
  have hids : s'.workers.map (fun w => w.inst.identity) =
      s.workers.map fun w => w.inst.identity := by
    rw [hw, List.map_map]
    exact List.map_congr_left fun w hws =>
      JobInstance.identity_eq_of_planned (hf w hws).2.planned
  have hreport : s.report.Becomes s'.report := by
    refine ⟨hname, ?_⟩
    simp only [OpenStage.report, hw]
    rw [List.forall₂_map_left_iff, List.forall₂_map_right_iff, List.forall₂_map_right_iff]
    exact List.forall₂_same.2 fun w hws => (hf w hws).2
  refine ⟨⟨h.past, ?_, ?_, h.future, ?_⟩, forall₂_stages_setCurrent hs hreport,
    List.prefix_rfl, fun _ hx => hx⟩
  · intro t ht w hwt
    obtain rfl : s' = t := Option.some.inj ht
    rw [hw] at hwt
    obtain ⟨v, hv, rfl⟩ := List.mem_map.1 hwt
    exact (hf v hv).1
  · intro t ht
    obtain rfl : s' = t := Option.some.inj ht
    rw [OpenStage.Distinct, hids]
    exact h.distinct s hs
  · intro st hst
    rw [(h.returned st hst).1] at hs
    exact absurd hs (by simp)

/-- A worker of the open stage makes a turn. -/
theorem carries_turn {e : Execution} (h : e.Sound) {s : OpenStage} {w w' : Worker}
    (hs : e.current = some s) (hw : w ∈ s.workers) (hsound : w'.Sound)
    (hbecomes : w.inst.Becomes w'.inst) (failFast : Bool) :
    e.Carries { e with current := some ((s.put w').noteOutcome failFast w') } := by
  obtain ⟨f, hf, hname, hcases⟩ := (s.put w').exists_workers_noteOutcome failFast w'
  have hid : w'.inst.identity = w.inst.identity :=
    JobInstance.identity_eq_of_planned hbecomes.planned
  refine carries_mapWorkers (f := fun v => f (if v.inst.identity = w'.inst.identity then w' else v))
    h hs hname ?_ ?_
  · rw [hf, OpenStage.put, OpenStage.mapWorkers, List.map_map]
    rfl
  · intro v hv
    -- the first change puts the turned worker in its place, the second one may cancel
    have hput : (if v.inst.identity = w'.inst.identity then w' else v).Sound ∧
        v.inst.Becomes (if v.inst.identity = w'.inst.identity then w' else v).inst := by
      split
      · rename_i heq
        rw [OpenStage.eq_of_identity_eq (h.distinct s hs) hv hw (heq.trans hid)]
        exact ⟨hsound, hbecomes⟩
      · exact ⟨h.workers s hs v hv, .refl _⟩
    rcases hcases (if v.inst.identity = w'.inst.identity then w' else v) with he | ⟨reason, he⟩
    · rw [he]
      exact hput
    · rw [he]
      exact ⟨hput.1.cancelIfPending reason,
        hput.2.trans (StageReport.becomes_cancelIfPending reason _)⟩

/-! ### Changes of the execution as a whole -/

/-- What is behind has ended, so that there is nothing to cancel in it. -/
theorem past_cancelPending {e : Execution} (h : e.Sound) (reason : String) :
    (e.cancelPending reason).past = e.past := by
  refine (List.map_congr_left fun s hs => ?_).trans (List.map_id _)
  exact StageReport.cancelPending_of_ended reason (h.past s hs).ended

/-- The instances that were not started are cancelled. -/
theorem carries_cancelPending {e : Execution} (h : e.Sound) (reason : String) :
    e.Carries (e.cancelPending reason) := by
  have hpast : e.past.map (·.cancelPending reason) = e.past := past_cancelPending h reason
  have hstages : List.Forall₂ StageReport.Becomes e.stages (e.cancelPending reason).stages := by
    simp only [stages, cancelPending]
    refine List.rel_append (List.rel_append ?_ ?_) ?_
    · rw [List.forall₂_map_right_iff]
      exact List.forall₂_same.2 fun s _ => StageReport.becomes_cancelPending s reason
    · cases e.current with
      | none => exact .nil
      | some s =>
          refine .cons ⟨rfl, ?_⟩ .nil
          simp only [OpenStage.report, OpenStage.cancelPending, OpenStage.mapWorkers, List.map_map]
          rw [List.forall₂_map_left_iff, List.forall₂_map_right_iff]
          exact List.forall₂_same.2 fun w _ => StageReport.becomes_cancelIfPending reason w.inst
    · rw [List.forall₂_map_right_iff]
      exact List.forall₂_same.2 fun s _ => StageReport.becomes_cancelPending s reason
  have hnames : (e.cancelPending reason).past = e.past := hpast
  refine ⟨⟨?_, ?_, ?_, ?_, ?_⟩, hstages, hnames ▸ List.prefix_rfl, fun _ hx => hx⟩
  · simp only [cancelPending, hpast]
    exact h.past
  · intro t ht w hw
    obtain ⟨s, hs, rfl⟩ := Option.map_eq_some_iff.1 ht
    obtain ⟨v, hv, rfl⟩ := List.mem_map.1 hw
    exact (h.workers s hs v hv).cancelIfPending reason
  · intro t ht
    obtain ⟨s, hs, rfl⟩ := Option.map_eq_some_iff.1 ht
    have hd := h.distinct s hs
    simpa [OpenStage.Distinct, OpenStage.cancelPending, OpenStage.mapWorkers, Function.comp_def]
      using hd
  · intro t ht
    obtain ⟨s, hs, rfl⟩ := List.mem_map.1 ht
    obtain ⟨hd, hp⟩ := h.future s hs
    refine ⟨by simpa [StageReport.cancelPending, Function.comp_def] using hd, ?_⟩
    intro i hi
    obtain ⟨j, hj, rfl⟩ := List.mem_map.1 hi
    rw [StageReport.status_cancelIfPending]
    rcases hp j hj with hj | hj <;> simp [hj]
  · intro st hst
    obtain ⟨hcur, hfut, hfinal, hartifacts⟩ := h.returned st hst
    have hsame : (e.cancelPending reason).stages = e.stages := by
      simp [stages, cancelPending, hpast, hcur, hfut]
    refine ⟨by simp [cancelPending, hcur], by simp [cancelPending, hfut], ?_, ?_⟩
    · rw [hfinal, finalStatus, finalStatus, instances, instances, hsame]
    · rw [instances, hsame]
      exact hartifacts

/-- Whoever has ended without an abort has a terminal instance. -/
theorem isTerminal_of_isOver {s : OpenStage} (hw : ∀ w ∈ s.workers, w.Sound)
    (hover : s.isOver = true) (habort : s.wasAborted = false) :
    ∀ w ∈ s.workers, w.inst.isTerminal = true := by
  intro w hws
  obtain ⟨aborted, hpt⟩ := Point.exists_of_hasEnded (List.all_eq_true.1 hover w hws)
  have hcalm : w.point.wasAborted = false := by
    simpa using List.any_eq_false.1 habort w hws
  have hfits := (hw w hws).fits
  rw [hpt] at hcalm hfits
  obtain rfl : aborted = false := hcalm
  exact hfits.resolve_right fun h => absurd h.1 Bool.false_ne_true

/-- The open stage is over and is put behind. -/
theorem carries_close {e : Execution} (h : e.Sound) {s : OpenStage} (hs : e.current = some s)
    (hending : e.ending = none) (hover : s.isOver = true) (habort : s.wasAborted = false)
    (failFast : Bool) : e.Carries (e.close failFast s) := by
  have hended := isTerminal_of_isOver (h.workers s hs) hover habort
  have hstages : List.Forall₂ StageReport.Becomes e.stages (e.close failFast s).stages := by
    simp only [stages, close, hs, Option.toList_some, List.map_cons, List.map_nil,
      Option.toList_none, List.append_nil]
    exact List.rel_append (List.rel_append (StageReport.forall₂_becomes_refl _)
      (.cons (StageReport.becomes_finalize _) .nil)) (StageReport.forall₂_becomes_refl _)
  have hpast : e.past.map StageReport.name <+: (e.close failFast s).past.map StageReport.name :=
    (List.prefix_append _ _).map _
  refine ⟨⟨?_, by simp [close], by simp [close], h.future, ?_⟩, hstages, hpast, fun _ hx => hx⟩
  · intro t ht
    rcases List.mem_append.1 ht with ht | ht
    · exact h.past t ht
    · rw [List.mem_singleton.1 ht]
      refine ⟨?_, .inl rfl⟩
      intro i hi
      obtain ⟨w, hw, rfl⟩ := List.mem_map.1 hi
      exact hended w hw
  · intro st hst
    exact absurd (hending.symm.trans hst) (by simp)

theorem forall₂_stages_skipped {e : Execution} {s : StageReport} {rest : List StageReport}
    (hs : e.future = s :: rest) (reason : String) (hcur : e.current = none) :
    List.Forall₂ StageReport.Becomes e.stages
      { e with past := e.past ++ [skipped s reason], future := rest }.stages := by
  simp only [stages, hs, hcur, Option.toList_none, List.map_nil, List.append_nil,
    List.append_assoc, List.singleton_append]
  exact List.rel_append (StageReport.forall₂_becomes_refl _)
    (.cons (StageReport.becomes_of_map fun i _ => StageReport.becomes_cancelIfPending reason i)
      (StageReport.forall₂_becomes_refl _))

/-- A stage is skipped. -/
theorem carries_skip {e : Execution} (h : e.Sound) {s : StageReport} {rest : List StageReport}
    (hs : e.future = s :: rest) (hending : e.ending = none) (hcur : e.current = none)
    (reason : String) :
    e.Carries { e with past := e.past ++ [skipped s reason], future := rest } := by
  obtain ⟨_, hpending⟩ := h.future s (hs ▸ List.mem_cons_self ..)
  -- what was not started is cancelled now, and the rest was cancelled before
  have hcancelled : ∀ i ∈ (skipped s reason).instances, i.status = .cancelled := by
    intro i hi
    obtain ⟨j, hj, rfl⟩ := List.mem_map.1 hi
    rw [StageReport.status_cancelIfPending]
    rcases hpending j hj with hj | hj <;> simp [hj]
  refine ⟨⟨?_, h.workers, h.distinct, ?_, ?_⟩, forall₂_stages_skipped hs reason hcur,
    (List.prefix_append _ _).map _, fun _ hx => hx⟩
  · intro t ht
    rcases List.mem_append.1 ht with ht | ht
    · exact h.past t ht
    · rw [List.mem_singleton.1 ht]
      exact ⟨fun i hi => JobInstance.isTerminal_of_cancelled (hcancelled i hi),
        .inr ⟨rfl, hcancelled⟩⟩
  · exact fun t ht => h.future t (hs ▸ List.mem_cons_of_mem _ ht)
  · intro st hst
    exact absurd (hending.symm.trans hst) (by simp)

/-- A stage is opened: all its instances wait. -/
theorem carries_openStage {e : Execution} (h : e.Sound) {s : StageReport} {rest : List StageReport}
    (hs : e.future = s :: rest) (hending : e.ending = none) (hcur : e.current = none) :
    e.Carries { e with current := some (.ofReport s), future := rest } := by
  obtain ⟨hdistinct, hpending⟩ := h.future s (hs ▸ List.mem_cons_self ..)
  have hreport : s.Becomes (OpenStage.ofReport s).report := by
    refine ⟨rfl, ?_⟩
    simp only [OpenStage.report, OpenStage.ofReport, List.map_map, Function.comp_def, List.map_id']
    exact (StageReport.Becomes.refl s).instances
  have hstages : List.Forall₂ StageReport.Becomes e.stages
      { e with current := some (.ofReport s), future := rest }.stages := by
    simp only [stages, hs, hcur, Option.toList_none, Option.toList_some, List.map_nil,
      List.map_cons, List.append_nil, List.append_assoc, List.singleton_append]
    exact List.rel_append (StageReport.forall₂_becomes_refl _)
      (.cons hreport (StageReport.forall₂_becomes_refl _))
  refine ⟨⟨h.past, ?_, ?_, ?_, ?_⟩, hstages, List.prefix_rfl, fun _ hx => hx⟩
  · intro t ht w hw
    obtain rfl : OpenStage.ofReport s = t := Option.some.inj ht
    obtain ⟨i, hi, rfl⟩ := List.mem_map.1 hw
    exact ⟨hpending i hi, rfl⟩
  · intro t ht
    obtain rfl : OpenStage.ofReport s = t := Option.some.inj ht
    simpa [OpenStage.Distinct, OpenStage.ofReport, Function.comp_def] using hdistinct
  · exact fun t ht => h.future t (hs ▸ List.mem_cons_of_mem _ ht)
  · intro st hst
    exact absurd (hending.symm.trans hst) (by simp)

/-- The execution returns when no stage is left. -/
theorem carries_conclude {e : Execution} (h : e.Sound) (hending : e.ending = none)
    (hcur : e.current = none) (hfut : e.future = []) :
    e.Carries (e.finish (.returned e.finalStatus)) := by
  refine ⟨⟨h.past, h.workers, h.distinct, h.future, ?_⟩, StageReport.forall₂_becomes_refl _,
    List.prefix_rfl, ?_⟩
  · intro st hst
    obtain rfl : e.finalStatus = st := by simpa [finish] using hst
    exact ⟨hcur, hfut, rfl, rfl⟩
  · intro x hx
    exact absurd (hending.symm.trans hx) (by simp)

/-- The execution is aborted. -/
theorem carries_abort {e : Execution} (h : e.Sound) (hending : e.ending = none) :
    e.Carries (e.finish .aborted) := by
  refine ⟨⟨h.past, h.workers, h.distinct, h.future, ?_⟩, StageReport.forall₂_becomes_refl _,
    List.prefix_rfl, ?_⟩
  · intro st hst
    cases hst
  · intro x hx
    exact absurd (hending.symm.trans hx) (by simp)

end Execution

end Conveyor
