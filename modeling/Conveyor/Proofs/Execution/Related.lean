/-
**What every change does to every instance.**

The instances of an execution stand where they were planned, so that an execution before a change
and the one after it can be compared instance by instance.

Main definitions:

* `Conveyor.Execution.instance?` — the instance at a place in the stages;
* `Conveyor.Execution.Related` — two executions whose instances are related where they stand;
* `Conveyor.JobInstance.Lenient` — a relation that a cancel of what is pending keeps.

Main results:

* `Conveyor.Execution.Change.related_cases`, `Conveyor.Execution.Change.related` — what a turn does
  with the instance that makes it, and a cancel with any instance, is all that is ever done;
* `Conveyor.Execution.Change.one_at_a_time` — a change starts at most one instance, and makes at
  most one fail, and it is the same one;
* `Conveyor.Execution.Change.started_of_not_begin` — no other turn than the first one starts
  anybody.
-/

import Conveyor.Proofs.Execution.Orderly

set_option autoImplicit false

namespace Conveyor

/-- What stands in one of two related lists at a place is related to what stands there in the other
one. -/
theorem exists_getElem?_of_forall₂ {α β : Type} {R : α → β → Prop} {xs : List α} {ys : List β}
    (h : List.Forall₂ R xs ys) {n : Nat} {x : α} (hx : xs[n]? = some x) :
    ∃ y, ys[n]? = some y ∧ R x y := by
  induction h generalizing n with
  | nil => simp at hx
  | cons hxy _ ih =>
      cases n with
      | zero =>
          obtain rfl : _ = x := Option.some.inj hx
          exact ⟨_, rfl, hxy⟩
      | succ n => exact ih hx

/-- A relation of instances that holds as long as nothing happens, and that a cancel of what is
pending keeps. -/
structure JobInstance.Lenient (R : JobInstance → JobInstance → Prop) : Prop where
  refl : ∀ i, R i i
  cancel : ∀ reason i j, R i j → R i (StageReport.cancelIfPending reason j)

namespace Execution

/-- The instance at a place: which stage, and where in it. -/
def instance? (e : Execution) (stage position : Nat) : Option JobInstance :=
  e.stages[stage]?.bind fun s => s.instances[position]?

theorem instance?_eq_some_iff {e : Execution} {m x : Nat} {i : JobInstance} :
    e.instance? m x = some i ↔ ∃ s, e.stages[m]? = some s ∧ s.instances[x]? = some i := by
  rw [instance?, Option.bind_eq_some_iff]

/-- Every instance stands at a place. -/
theorem mem_instances_iff {e : Execution} {i : JobInstance} :
    i ∈ e.instances ↔ ∃ m x, e.instance? m x = some i := by
  constructor
  · intro hi
    obtain ⟨s, hs, his⟩ := List.mem_flatMap.1 hi
    obtain ⟨m, hm⟩ := List.mem_iff_getElem?.1 hs
    obtain ⟨x, hx⟩ := List.mem_iff_getElem?.1 his
    exact ⟨m, x, instance?_eq_some_iff.2 ⟨s, hm, hx⟩⟩
  · rintro ⟨m, x, hi⟩
    obtain ⟨s, hs, his⟩ := instance?_eq_some_iff.1 hi
    exact List.mem_flatMap.2 ⟨s, List.mem_of_getElem? hs, List.mem_of_getElem? his⟩

/-- The instances of two executions are related where they stand. -/
def Related (R : JobInstance → JobInstance → Prop) (e e' : Execution) : Prop :=
  List.Forall₂ (fun s t => List.Forall₂ R s.instances t.instances) e.stages e'.stages

variable {R : JobInstance → JobInstance → Prop} {e e' : Execution}

theorem Related.instance? (h : Related R e e') {m x : Nat} {i : JobInstance}
    (hi : e.instance? m x = some i) : ∃ j, e'.instance? m x = some j ∧ R i j := by
  obtain ⟨s, hs, his⟩ := instance?_eq_some_iff.1 hi
  obtain ⟨t, ht, hst⟩ := exists_getElem?_of_forall₂ h hs
  obtain ⟨j, hj, hij⟩ := exists_getElem?_of_forall₂ hst his
  exact ⟨j, instance?_eq_some_iff.2 ⟨t, ht, hj⟩, hij⟩

/-- What stands at a place afterwards stood there before. -/
theorem Related.exists_instance? (h : Related R e e') {m x : Nat} {j : JobInstance}
    (hj : e'.instance? m x = some j) : ∃ i, e.instance? m x = some i ∧ R i j := by
  obtain ⟨t, ht, hjt⟩ := instance?_eq_some_iff.1 hj
  obtain ⟨s, hs, hst⟩ := exists_getElem?_of_forall₂ h.flip ht
  obtain ⟨i, hi, hij⟩ := exists_getElem?_of_forall₂ hst.flip hjt
  exact ⟨i, instance?_eq_some_iff.2 ⟨s, hs, hi⟩, hij⟩

theorem Related.trans {f g : Execution} (htrans : ∀ i j k, R i j → R j k → R i k)
    (h : Related R e f) (h' : Related R f g) : Related R e g :=
  forall₂_trans (R := fun s t : StageReport => List.Forall₂ R s.instances t.instances)
    (fun _ _ _ hst htu => forall₂_trans htrans hst htu) h h'

theorem related_refl (hrefl : ∀ i, R i i) (e : Execution) : Related R e e :=
  List.forall₂_same.2 fun _ _ => List.forall₂_same.2 fun i _ => hrefl i

/-- Instances become what they become where they stand. -/
theorem Carries.related (h : e.Carries e') : Related JobInstance.Becomes e e' :=
  h.stages.imp fun _ _ hst => hst.instances

/-! ### Changes -/

theorem forall₂_instances_refl (hrefl : ∀ i, R i i) (ss : List StageReport) :
    List.Forall₂ (fun s t => List.Forall₂ R s.instances t.instances) ss ss :=
  List.forall₂_same.2 fun _ _ => List.forall₂_same.2 fun i _ => hrefl i

/-- The open stage changes, and nothing else. -/
theorem related_setCurrent (hrefl : ∀ i, R i i) {s s' : OpenStage} (hs : e.current = some s)
    (h : List.Forall₂ R (s.workers.map Worker.inst) (s'.workers.map Worker.inst)) :
    Related R e { e with current := some s' } := by
  have hsame := forall₂_instances_refl hrefl
  simp only [Related, stages, hs, Option.toList_some, List.map_cons, List.map_nil]
  exact List.rel_append (List.rel_append (hsame _) (.cons h .nil)) (hsame _)

/-- A turn of a worker of the open stage. -/
theorem related_turn (hR : JobInstance.Lenient R) (hsound : e.Sound) {s : OpenStage}
    {w w' : Worker} (hs : e.current = some s) (hw : w ∈ s.workers)
    (hid : w'.inst.identity = w.inst.identity) (hturn : R w.inst w'.inst) (failFast : Bool) :
    Related R e { e with current := some ((s.put w').noteOutcome failFast w') } := by
  obtain ⟨f, hf, _, hcases⟩ := (s.put w').exists_workers_noteOutcome failFast w'
  refine related_setCurrent hR.refl hs ?_
  rw [hf, OpenStage.put, OpenStage.mapWorkers, List.map_map, List.map_map,
    List.forall₂_map_left_iff, List.forall₂_map_right_iff]
  -- first the worker takes its place, and then whoever is pending may be cancelled
  refine List.forall₂_same.2 fun v hv => ?_
  have hput : R v.inst (if v.inst.identity = w'.inst.identity then w' else v).inst := by
    split
    · rename_i heq
      rw [OpenStage.eq_of_identity_eq (hsound.distinct s hs) hv hw (heq.trans hid)]
      exact hturn
    · exact hR.refl v.inst
  rcases hcases (if v.inst.identity = w'.inst.identity then w' else v) with he | ⟨reason, he⟩
  · simp only [Function.comp_apply, he]
    exact hput
  · simp only [Function.comp_apply, he]
    exact hR.cancel reason _ _ hput

theorem related_cancelPending (hR : JobInstance.Lenient R) (e : Execution) (reason : String) :
    Related R e (e.cancelPending reason) := by
  have hmapped (ss : List StageReport) :
      List.Forall₂ (fun s t => List.Forall₂ R s.instances t.instances) ss
        (ss.map (·.cancelPending reason)) := by
    rw [List.forall₂_map_right_iff]
    refine List.forall₂_same.2 fun s _ => ?_
    rw [StageReport.cancelPending, List.forall₂_map_right_iff]
    exact List.forall₂_same.2 fun i _ => hR.cancel reason i i (hR.refl i)
  refine List.rel_append (List.rel_append (hmapped _) ?_) (hmapped _)
  cases hcur : e.current with
  | none => simp [cancelPending, hcur]
  | some s =>
      simp only [cancelPending, hcur, Option.map_some, Option.toList_some, List.map_cons,
        List.map_nil, OpenStage.report, OpenStage.cancelPending, OpenStage.mapWorkers,
        List.map_map]
      refine .cons ?_ .nil
      rw [List.forall₂_map_left_iff, List.forall₂_map_right_iff]
      exact List.forall₂_same.2 fun w _ => hR.cancel reason _ _ (hR.refl w.inst)

theorem related_close (hrefl : ∀ i, R i i) {s : OpenStage} (hs : e.current = some s)
    (failFast : Bool) : Related R e (e.close failFast s) := by
  have hsame := forall₂_instances_refl hrefl
  have hdone : List.Forall₂ R s.report.instances s.report.finalize.instances :=
    List.forall₂_same.2 fun i _ => hrefl i
  simp only [Related, stages, close, hs, Option.toList_some, List.map_cons, List.map_nil,
    Option.toList_none, List.append_nil]
  exact List.rel_append (List.rel_append (hsame _) (.cons hdone .nil)) (hsame _)

theorem related_skip (hR : JobInstance.Lenient R) {s : StageReport} {rest : List StageReport}
    (hcur : e.current = none) (hfut : e.future = s :: rest) (reason : String) :
    Related R e { e with past := e.past ++ [skipped s reason], future := rest } := by
  have hsame := forall₂_instances_refl hR.refl
  simp only [Related, stages, hcur, hfut, Option.toList_none, List.map_nil, List.append_nil,
    List.append_assoc, List.singleton_append]
  refine List.rel_append (hsame _) (.cons ?_ (hsame rest))
  rw [skipped, StageReport.cancelPending, List.forall₂_map_right_iff]
  exact List.forall₂_same.2 fun i _ => hR.cancel reason i i (hR.refl i)

theorem related_openStage (hrefl : ∀ i, R i i) {s : StageReport} {rest : List StageReport}
    (hcur : e.current = none) (hfut : e.future = s :: rest) :
    Related R e { e with current := some (.ofReport s), future := rest } := by
  have hsame := forall₂_instances_refl hrefl
  have hopen : (OpenStage.ofReport s).report.instances = s.instances := by
    simp [OpenStage.report, OpenStage.ofReport, Function.comp_def]
  simp only [Related, stages, hcur, hfut, Option.toList_none, List.map_nil, List.append_nil,
    Option.toList_some, List.map_cons, List.append_assoc, List.singleton_append]
  refine List.rel_append (hsame _) (.cons ?_ (hsame rest))
  rw [hopen]
  exact List.forall₂_same.2 fun i _ => hrefl i

variable {may : Act → Prop} {wd : String} {halted failFast : Bool}

/-- A change relates the instances in every lenient way, or it is the turn of one worker and does so
if the turn does. -/
theorem Change.related_cases (hsound : e.Sound) (hc : Change may wd halted failFast e e') :
    (∀ R, JobInstance.Lenient R → Related R e e') ∨
    ∃ a s w, may a ∧ e.current = some s ∧ w ∈ s.workers ∧ (a = .begin → w.point = .queued) ∧
      ∀ R, JobInstance.Lenient R → R w.inst (w.act wd halted a).worker.inst → Related R e e' := by
  cases hc with
  | @turn s w a hmay hs hw hb =>
      have hbecomes : w.inst.Becomes (w.act wd halted a).worker.inst :=
        Worker.becomes_act (hsound.workers s hs w hw) hb
      exact .inr ⟨a, s, w, hmay, hs, hw, hb, fun R hR hturn => related_turn hR hsound hs hw
        (JobInstance.identity_eq_of_planned hbecomes.planned) hturn failFast⟩
  | cancelPending reason _ => exact .inl fun R hR => related_cancelPending hR e reason
  | close hs _ _ _ => exact .inl fun R hR => related_close hR.refl hs failFast
  | skip reason hcur hfut _ _ => exact .inl fun R hR => related_skip hR hcur hfut reason
  | openStage hcur hfut _ _ _ => exact .inl fun R hR => related_openStage hR.refl hcur hfut
  | conclude _ _ _ => exact .inl fun R hR => related_refl hR.refl e
  | giveUp _ _ _ => exact .inl fun R hR => related_refl hR.refl e

/-- What a turn does with the instance that makes it, and a cancel with any instance, is all that is
ever done. -/
theorem Change.related (hR : JobInstance.Lenient R) (hsound : e.Sound)
    (hc : Change may wd halted failFast e e')
    (hturn : ∀ a s w, may a → e.current = some s → w ∈ s.workers →
      (a = .begin → w.point = .queued) → R w.inst (w.act wd halted a).worker.inst) :
    Related R e e' := by
  rcases hc.related_cases hsound with h | ⟨a, s, w, hmay, hs, hw, hb, h⟩
  · exact h R hR
  · exact h R hR (hturn a s w hmay hs hw hb)

/-! ### Who is started -/

/-- No other turn than the first one starts anybody. -/
theorem Change.started_of_not_begin (hsound : e.Sound) (hmay : ∀ a, may a → a ≠ .begin)
    (hc : Change may wd halted failFast e e') :
    Related (fun i j => j.started = i.started) e e' :=
  hc.related
    ⟨fun _ => rfl, fun reason _ j h => (StageReport.started_cancelIfPending reason j).trans h⟩
    hsound fun a _ _ ha _ _ _ => Worker.started_act (hmay a ha)

/-- A change starts at most one instance, and makes at most one fail, and it is the same one. -/
theorem Change.one_at_a_time (hsound : e.Sound) (hc : Change may wd halted failFast e e') :
    ∃ o : JobInstance, Related (fun i j =>
      i = o ∨ (j.started = i.started ∧ (j.status = .failed → i.status = .failed))) e e' := by
  have hlenient (o : JobInstance) : JobInstance.Lenient fun i j =>
      i = o ∨ (j.started = i.started ∧ (j.status = .failed → i.status = .failed)) := by
    refine ⟨fun i => .inr ⟨rfl, id⟩, fun reason i j h => ?_⟩
    exact h.imp id fun ⟨hstarted, hfailed⟩ => ⟨by simpa using hstarted,
      fun hf => hfailed (StageReport.failed_of_cancelIfPending hf)⟩
  -- it is the one that makes the turn; if nobody makes one, any instance will do
  rcases hc.related_cases hsound with h | ⟨a, s, w, _, _, _, _, h⟩
  · exact ⟨default, h _ (hlenient default)⟩
  · exact ⟨w.inst, h _ (hlenient w.inst) (.inl rfl)⟩

end Execution

end Conveyor
