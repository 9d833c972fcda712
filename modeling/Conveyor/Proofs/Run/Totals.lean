/-
**What the measurements of runs and of instances add up to.**

An execution measures itself and its instances when it ends, and only then.  Each instance is
measured once, under the status that it has at that moment.  That status is final, unless the
execution was aborted while the instance was still at work.

Main definitions:

* `Conveyor.Execution.ended` — the instances with a property, if the execution has ended;
* `Conveyor.Run.GoesOn`, `Conveyor.Run.Ends` — steps in which no execution ends, and in which one
  does;
* `Conveyor.Run.Totals` — what the measurements add up to.

Main results:

* `Conveyor.Run.Booking.goesOn_or_ends` — every step is one or the other;
* `Conveyor.Run.Reachable.totals` — **what the measurements add up to in every run that there is**.
-/

import Conveyor.Proofs.Run.Booking

set_option autoImplicit false

namespace Conveyor

/-- Whether a measurement is of an instance of a stage. -/
def Measurement.isInstanceOf (stage : String) : Measurement → Bool
  | .instance s _ => s == stage
  | _ => false

namespace JobInstance

/-- Whether an instance is of a stage and has a status. -/
def stands (stage : String) (s : InstanceStatus) (i : JobInstance) : Bool :=
  i.stageName == stage && i.status == s

theorem stands_iff {stage : String} {s : InstanceStatus} {i : JobInstance} :
    i.stands stage s = true ↔ i.stageName = stage ∧ i.status = s := by
  simp [stands]

/-- Whoever has a final status keeps it. -/
theorem Becomes.stands {stage : String} {s : InstanceStatus} {i j : JobInstance} (h : i.Becomes j)
    (hs : s.isTerminal = true) (hi : i.stands stage s = true) : j.stands stage s = true := by
  obtain ⟨_, hstatus⟩ := stands_iff.1 hi
  rwa [h.ended (by rw [isTerminal, hstatus, hs])]

theorem stageName_eq_of_planned {i j : JobInstance} (h : j.planned = i.planned) :
    j.stageName = i.stageName := by
  have hname : j.planned.stageName = i.planned.stageName := by rw [h]
  exact hname

end JobInstance

section
variable {α : Type} {R : α → α → Prop} {xs ys : List α} {f : α → Nat}

theorem total_eq_of_forall₂ (h : List.Forall₂ R xs ys) (hf : ∀ x y, R x y → f y = f x) :
    total (ys.map f) = total (xs.map f) := by
  induction h with
  | nil => rfl
  | cons hxy _ ih => rw [List.map_cons, List.map_cons, total, total, ih, hf _ _ hxy]

theorem total_le_of_forall₂ (h : List.Forall₂ R xs ys) (hf : ∀ x y, R x y → f x ≤ f y) :
    total (xs.map f) ≤ total (ys.map f) := by
  induction h with
  | nil => exact Nat.le_refl 0
  | cons hxy _ ih => exact Nat.add_le_add (hf _ _ hxy) ih

end

namespace Execution

variable {e e' : Execution} {R : JobInstance → JobInstance → Prop}

/-! ### Instances that are related where they stand -/

theorem Related.instances (h : Related R e e') : List.Forall₂ R e.instances e'.instances :=
  StageReport.forall₂_flatMap h

theorem Related.countP_eq {p : JobInstance → Bool} (h : Related R e e')
    (hp : ∀ i j, R i j → p j = p i) : e'.instances.countP p = e.instances.countP p := by
  rw [countP_eq_total, countP_eq_total]
  exact total_eq_of_forall₂ h.instances fun i j hij => by rw [hp i j hij]

theorem Related.countP_le {p : JobInstance → Bool} (h : Related R e e')
    (hp : ∀ i j, R i j → p i = true → p j = true) :
    e.instances.countP p ≤ e'.instances.countP p := by
  rw [countP_eq_total, countP_eq_total]
  refine total_le_of_forall₂ h.instances fun i j hij => ?_
  split
  · rename_i hi
    exact Nat.le_of_eq (if_pos (hp i j hij hi)).symm
  · exact Nat.zero_le _

theorem lenient_becomes : JobInstance.Lenient JobInstance.Becomes where
  refl := .refl
  cancel reason _ j h := h.trans (StageReport.becomes_cancelIfPending reason j)

/-! ### Executions that have ended -/

/-- How many instances with a property an execution has, if it has ended. -/
def ended (p : JobInstance → Bool) (e : Execution) : Nat :=
  if e.ending.isSome then e.instances.countP p else 0

theorem ended_of_none (p : JobInstance → Bool) (h : e.ending = none) : e.ended p = 0 := by
  simp [ended, h]

theorem ended_of_isSome (p : JobInstance → Bool) (h : e.ending.isSome = true) :
    e.ended p = e.instances.countP p := if_pos h

/-! ### The measurements of an execution that ended -/

theorem count_run_finalTally (e : Execution) (st s : Status) :
    (e.finalTally st).count (.run s) = if st = s then 1 else 0 := by
  have hrest : (e.instances.flatMap instanceTally).count (.run s) = 0 := by
    refine List.count_eq_zero.2 fun hm => ?_
    obtain ⟨i, _, hi⟩ := List.mem_flatMap.1 hm
    unfold instanceTally at hi
    split at hi <;> simp at hi
  by_cases hs : st = s <;> simp [finalTally, hrest, hs]

/-- One measurement of each kind is made of an instance. -/
theorem countP_instanceTally {p : Measurement → Bool} (hp : ∀ stage, p (.instanceDuration stage) =
    false) (i : JobInstance) :
    (instanceTally i).countP p = if p (.instance i.stageName i.status) then 1 else 0 := by
  unfold instanceTally
  split
  · simp [List.countP_cons, hp]
  · simp [List.countP_cons]

theorem countP_finalTally {p : Measurement → Bool} {q : JobInstance → Bool}
    (hrun : ∀ s, p (.run s) = false) (hduration : p .runDuration = false)
    (hdurations : ∀ stage, p (.instanceDuration stage) = false)
    (hinstance : ∀ i : JobInstance, p (.instance i.stageName i.status) = q i) (e : Execution)
    (st : Status) : (e.finalTally st).countP p = e.instances.countP q := by
  have hparts : (e.instances.flatMap instanceTally).countP p = e.instances.countP q := by
    rw [countP_flatMap_eq_total, countP_eq_total]
    refine congrArg total (List.map_congr_left fun i _ => ?_)
    rw [countP_instanceTally hdurations, hinstance]
  rw [finalTally, List.countP_cons, List.countP_cons, hparts, hrun, hduration]
  rfl

/-- An instance is measured under the status that it has. -/
theorem exists_of_mem_finalTally {e : Execution} {st : Status} {stage : String}
    {s : InstanceStatus} (h : .instance stage s ∈ e.finalTally st) :
    ∃ i ∈ e.instances, i.stageName = stage ∧ i.status = s := by
  simp only [finalTally, List.mem_cons, List.mem_flatMap, reduceCtorEq, false_or] at h
  obtain ⟨i, hi, hm⟩ := h
  unfold instanceTally at hm
  split at hm
  · obtain ⟨rfl, rfl⟩ : stage = i.stageName ∧ s = i.status := by simpa using hm
    exact ⟨i, hi, rfl, rfl⟩
  · obtain ⟨rfl, rfl⟩ : stage = i.stageName ∧ s = i.status := by simpa using hm
    exact ⟨i, hi, rfl, rfl⟩

end Execution

namespace Run

variable {may : Act → Prop} {r r' : Run}

/-! ### Steps in which an execution ends, and others -/

/-- A step in which no execution ends.  One may be added. -/
def GoesOn (r r' : Run) : Prop :=
  ∃ kept fresh ms, r'.executions = kept ++ fresh ∧
    List.Forall₂ (fun e e' : Execution => e'.ending = e.ending ∧
      Execution.Related JobInstance.Becomes e e') r.executions kept ∧
    (∀ e ∈ fresh, e.ending = none) ∧ r'.tally = r.tally ++ ms ∧ ∀ m ∈ ms, m.isOfWork = true

/-- A step in which an execution ends. -/
def Ends (r r' : Run) : Prop :=
  ∃ (k : Nat) (e : Execution) (ending : Ending), r.executions[k]? = some e ∧ e.ending = none ∧
    r'.executions = r.executions.set k (e.finish ending) ∧
    r'.tally = r.tally ++ (e.finish ending).finalTally ending.status

theorem forall₂_goesOn_refl (es : List Execution) :
    List.Forall₂ (fun e e' : Execution => e'.ending = e.ending ∧
      Execution.Related JobInstance.Becomes e e') es es :=
  List.forall₂_same.2 fun e _ => ⟨rfl, Execution.related_refl .refl e⟩

/-- One execution goes on, and the others stay as they are. -/
theorem goesOn_of_set {k : Nat} {e e' : Execution} (he : r.executions[k]? = some e)
    (hending : e'.ending = e.ending) (hrelated : Execution.Related JobInstance.Becomes e e')
    (hexec : r'.executions = r.executions.set k e') (ms : List Measurement)
    (htally : r'.tally = r.tally ++ ms) (hms : ∀ m ∈ ms, m.isOfWork = true) : r.GoesOn r' := by
  refine ⟨r.executions.set k e', [], ms, by rw [hexec, List.append_nil], ?_, by simp, htally, hms⟩
  refine List.forall₂_iff_get.2 ⟨(List.length_set ..).symm, fun j hj hj' => ?_⟩
  simp only [List.get_eq_getElem, List.getElem_set]
  split
  · rename_i hkj
    subst hkj
    obtain rfl : r.executions[k] = e := by
      rw [List.getElem?_eq_getElem hj] at he
      exact Option.some.inj he
    exact ⟨hending, hrelated⟩
  · exact ⟨rfl, Execution.related_refl .refl _⟩

/-- In every step an execution ends, or all of them go on. -/
theorem Booking.goesOn_or_ends (h : r.Sound) (hb : Booking may r r') :
    r.GoesOn r' ∨ r.Ends r' := by
  cases hb with
  | still hexec htally =>
      exact .inl ⟨r.executions, [], [], by rw [hexec, List.append_nil],
        forall₂_goesOn_refl _, by simp, by rw [htally, List.append_nil], by simp⟩
  | @turns k e s w a hmay he hs hw hb hexec htally =>
      have hes := h.executions e (List.mem_of_getElem? he)
      have hws := hes.workers s hs w hw
      have hbecomes : w.inst.Becomes (w.act r.config.workingDir r.cancelRequested a).worker.inst :=
        Worker.becomes_act hws hb
      have hrelated := Execution.related_turn Execution.lenient_becomes hes hs hw
        (JobInstance.identity_eq_of_planned hbecomes.planned) hbecomes r.config.failFast
      exact .inl (goesOn_of_set he (by rfl) hrelated hexec _ htally
        (Worker.isOfWork_of_mem_tally hws hb))
  | rearranges he hc hexec htally =>
      exact .inl (goesOn_of_set he hc.ending (hc.related _ Execution.lenient_becomes)
        hexec [] (by rw [htally, List.append_nil]) (by simp))
  | ends ending he hending hexec htally => exact .inr ⟨_, _, ending, he, hending, hexec, htally⟩
  | added hplan hexec htally =>
      refine .inl ⟨r.executions, _, [], hexec, forall₂_goesOn_refl _, ?_,
        by rw [htally, List.append_nil], by simp⟩
      intro e he
      rw [List.mem_singleton.1 he]
      exact ending_opening r _

/-! ### Sums over the executions -/

section
variable {f : Execution → Nat}

/-- What counts only executions that have ended, and does not change while they go on, is the same
after a step in which none ends. -/
theorem GoesOn.total_eq (h : r.GoesOn r') (hopen : ∀ e : Execution, e.ending = none → f e = 0)
    (hf : ∀ e e' : Execution, e'.ending = e.ending →
      Execution.Related JobInstance.Becomes e e' → f e' = f e) :
    total (r'.executions.map f) = total (r.executions.map f) := by
  obtain ⟨kept, fresh, _, hexec, hkept, hfresh, _, _⟩ := h
  have hzero : total (fresh.map f) = 0 := by
    refine total_eq_zero fun n hn => ?_
    obtain ⟨e, he, rfl⟩ := List.mem_map.1 hn
    exact hopen e (hfresh e he)
  rw [hexec, List.map_append, total_append, hzero, Nat.add_zero]
  exact total_eq_of_forall₂ hkept fun e e' he => hf e e' he.1 he.2

/-- What does not fall while executions go on does not fall in a step in which none ends. -/
theorem GoesOn.total_le (h : r.GoesOn r')
    (hf : ∀ e e' : Execution, e'.ending = e.ending →
      Execution.Related JobInstance.Becomes e e' → f e ≤ f e') :
    total (r.executions.map f) ≤ total (r'.executions.map f) := by
  obtain ⟨kept, fresh, _, hexec, hkept, _, _, _⟩ := h
  rw [hexec, List.map_append, total_append]
  exact Nat.le_trans (total_le_of_forall₂ hkept fun e e' he => hf e e' he.1 he.2)
    (Nat.le_add_right ..)

/-- An execution that ends counts what it holds then. -/
theorem total_of_ends {k : Nat} {e : Execution} {ending : Ending}
    (he : r.executions[k]? = some e) (hopen : f e = 0)
    (hexec : r'.executions = r.executions.set k (e.finish ending)) :
    total (r'.executions.map f) = total (r.executions.map f) + f (e.finish ending) := by
  have hset := total_set he (e.finish ending) f
  rw [hexec]
  omega

end

/-- Nothing that is measured at the end of a run is measured while all executions go on. -/
theorem GoesOn.countP_eq (h : r.GoesOn r') {p : Measurement → Bool}
    (hp : ∀ m, m.isOfWork = true → p m = false) : r'.tally.countP p = r.tally.countP p := by
  obtain ⟨_, _, ms, _, _, _, htally, hms⟩ := h
  have hnone : ms.countP p = 0 := List.countP_eq_zero.2 fun m hm => by simp [hp m (hms m hm)]
  rw [htally, List.countP_append, hnone, Nat.add_zero]

/-! ### Instances of executions that have ended -/

section
variable {p : JobInstance → Bool}

/-- What instances keep and never get is counted alike while all executions go on. -/
theorem GoesOn.total_ended_eq (h : r.GoesOn r') (hp : ∀ i j, i.Becomes j → p j = p i) :
    total (r'.executions.map (Execution.ended p)) = total (r.executions.map (Execution.ended p)) := by
  refine h.total_eq (fun e he => Execution.ended_of_none p he) fun e e' he hrelated => ?_
  rw [Execution.ended, Execution.ended, he, hrelated.countP_eq hp]

/-- What instances keep is not counted less often while all executions go on. -/
theorem GoesOn.total_ended_le (h : r.GoesOn r')
    (hp : ∀ i j, i.Becomes j → p i = true → p j = true) :
    total (r.executions.map (Execution.ended p)) ≤ total (r'.executions.map (Execution.ended p)) := by
  refine h.total_le fun e e' he hrelated => ?_
  rw [Execution.ended, Execution.ended, he]
  split
  · exact hrelated.countP_le hp
  · exact Nat.le_refl 0

end

/-- Of an execution that was aborted this stays true while all executions go on. -/
theorem GoesOn.exists_aborted (h : r.GoesOn r') (ha : ∃ e ∈ r.executions, e.ending = some .aborted) :
    ∃ e ∈ r'.executions, e.ending = some .aborted := by
  obtain ⟨kept, fresh, ms, hexec, hkept, _, _, _⟩ := h
  obtain ⟨e, he, haborted⟩ := ha
  obtain ⟨k, hk⟩ := List.mem_iff_getElem?.1 he
  obtain ⟨e', he', hending, _⟩ := exists_getElem?_of_forall₂ hkept hk
  refine ⟨e', ?_, hending.trans haborted⟩
  rw [hexec]
  exact List.mem_append_left _ (List.mem_of_getElem? he')

/-- An execution that was aborted is not the one that ends. -/
theorem exists_aborted_of_set {k : Nat} {e e' : Execution} (he : r.executions[k]? = some e)
    (hopen : e.ending = none) (hexec : r'.executions = r.executions.set k e')
    (ha : ∃ d ∈ r.executions, d.ending = some .aborted) :
    ∃ d ∈ r'.executions, d.ending = some .aborted := by
  obtain ⟨d, hd, haborted⟩ := ha
  obtain ⟨j, hj⟩ := List.mem_iff_getElem?.1 hd
  have hne : k ≠ j := by
    rintro rfl
    obtain rfl := Option.some.inj (he.symm.trans hj)
    simp [hopen] at haborted
  have hstays : r'.executions[j]? = some d := by rw [hexec, List.getElem?_set_ne hne, hj]
  exact ⟨d, List.mem_of_getElem? hstays, haborted⟩

/-! ### What the measurements add up to -/

/-- What the measurements of runs and of instances add up to. -/
structure Totals (r : Run) : Prop where
  runs : ∀ s, r.tally.count (.run s) = total (r.executions.map fun e =>
    if e.ending.map Ending.status = some s then 1 else 0)
  instances : ∀ stage, r.tally.countP (·.isInstanceOf stage) =
    total (r.executions.map (Execution.ended fun i => i.stageName == stage))
  final : ∀ stage s, s.isTerminal = true → r.tally.count (.instance stage s) ≤
    total (r.executions.map (Execution.ended (JobInstance.stands stage s)))
  /-- A status that is not final is measured only when an execution is aborted. -/
  early : ∀ stage s, .instance stage s ∈ r.tally → s.isTerminal = false →
    ∃ e ∈ r.executions, e.ending = some .aborted

theorem totals_create (id : String) (p : Pipeline) (c : RunConfig) : (create id p c).Totals where
  runs _ := rfl
  instances _ := rfl
  final _ _ _ := Nat.le_refl 0
  early _ _ h _ := by cases h

theorem Totals.goesOn (ht : r.Totals) (h : r.GoesOn r') : r'.Totals where
  runs s := by
    have hsame : total (r'.executions.map fun e : Execution =>
        if e.ending.map Ending.status = some s then 1 else 0) =
        total (r.executions.map fun e : Execution =>
          if e.ending.map Ending.status = some s then 1 else 0) :=
      h.total_eq (fun e he => by simp [he]) fun e e' he _ => by rw [he]
    rw [hsame, ← ht.runs s]
    exact h.countP_eq fun m hm => by cases m <;> simp [Measurement.isOfWork] at hm ⊢
  instances stage := by
    rw [h.total_ended_eq fun i j hij => by rw [JobInstance.stageName_eq_of_planned hij.planned],
      ← ht.instances stage]
    exact h.countP_eq fun m hm => by cases m <;> first | rfl | cases hm
  final stage s hs := by
    have hsame : r'.tally.count (.instance stage s) = r.tally.count (.instance stage s) :=
      h.countP_eq fun m hm => by cases m <;> simp [Measurement.isOfWork] at hm ⊢
    rw [hsame]
    exact Nat.le_trans (ht.final stage s hs)
      (h.total_ended_le fun i j hij hi => hij.stands hs hi)
  early stage s hm hs := by
    have hbefore : .instance stage s ∈ r.tally := by
      obtain ⟨_, _, ms, _, _, _, htally, hms⟩ := h
      rw [htally] at hm
      rcases List.mem_append.1 hm with hm | hm
      · exact hm
      · exact absurd (hms _ hm) (by simp [Measurement.isOfWork])
    exact h.exists_aborted (ht.early stage s hbefore hs)

theorem Totals.ends (ht : r.Totals) (hsound : r'.Sound) (h : r.Ends r') : r'.Totals := by
  obtain ⟨k, e, ending, he, hnone, hexec, htally⟩ := h
  -- until it ended the execution held nothing that counts, and now it holds all its instances
  have hended (p : JobInstance → Bool) : total (r'.executions.map (Execution.ended p)) =
      total (r.executions.map (Execution.ended p)) + e.instances.countP p :=
    total_of_ends he (Execution.ended_of_none p hnone) hexec
  refine ⟨fun s => ?_, fun stage => ?_, fun stage s hs => ?_, fun stage s hm hs => ?_⟩
  · rw [htally, List.count_append, ht.runs s, Execution.count_run_finalTally,
      total_of_ends he (by simp [hnone]) hexec]
    simp [Execution.finish]
  · have hcount : ((e.finish ending).finalTally ending.status).countP (·.isInstanceOf stage) =
        e.instances.countP fun i => i.stageName == stage :=
      Execution.countP_finalTally (fun _ => rfl) rfl (fun _ => rfl) (fun _ => rfl) _ _
    rw [htally, List.countP_append, ht.instances stage, hcount, hended]
  · have hcount : ((e.finish ending).finalTally ending.status).count (.instance stage s) =
        e.instances.countP (JobInstance.stands stage s) :=
      Execution.countP_finalTally (by simp) (by simp) (by simp)
        (fun i => by rw [Bool.eq_iff_iff]; simp [JobInstance.stands]) _ _
    rw [htally, List.count_append, hcount, hended]
    exact Nat.add_le_add_right (ht.final stage s hs) _
  · rw [htally] at hm
    rcases List.mem_append.1 hm with hm | hm
    · exact exists_aborted_of_set he hnone hexec (ht.early stage s hm hs)
    · have hmem : e.finish ending ∈ r'.executions := by
        rw [hexec]
        exact List.mem_set (List.getElem?_eq_some_iff.1 he).1 _
      obtain ⟨i, hi, _, hstatus⟩ := Execution.exists_of_mem_finalTally hm
      cases ending with
      | aborted => exact ⟨_, hmem, rfl⟩
      | returned st =>
          -- whoever returns leaves no instance at work, so that no status was measured too early
          have hterminal := (hsound.executions _ hmem).isTerminal_of_returned rfl i hi
          rw [JobInstance.isTerminal, hstatus, hs] at hterminal
          cases hterminal

/-- **What the measurements add up to in every run that there is.** -/
theorem Reachable.totals (h : r.Reachable) : r.Totals := by
  obtain ⟨id, p, c, evs, hr⟩ := h
  have hsound := sound_create id p c
  refine steps_induction hsound (steps_afterAll hsound hr) (totals_create id p c) ?_
  intro q q' hq ht hs
  rcases (hs.booking hq).goesOn_or_ends hq with h | h
  · exact ht.goesOn h
  · exact ht.ends (hs.carries hq).sound h

end Run

end Conveyor
