/-
**What a failure calls off.**

When a failure calls off other work, it is noted in the same turn in which the instance fails: from
then on nothing in its stage is pending, and no later stage is opened.

Main definitions:

* `Conveyor.StageReport.HasFailed` — an instance of a stage failed;
* `Conveyor.Execution.Guarded` — what failures have called off so far.

Main results:

* `Conveyor.Execution.Change.guarded` — every change keeps this;
* `Conveyor.Execution.Guarded.same_stage`, `Conveyor.Execution.Guarded.later_stage` — **what that
  means for the stage of a failure, and for the ones after it**;
* `Conveyor.Execution.Change.unstarted_of_failed` — **no change starts an instance beside one that
  failed**.
-/

import Conveyor.Proofs.Execution.Related

set_option autoImplicit false

namespace Conveyor

/-- An instance of a stage failed. -/
def StageReport.HasFailed (s : StageReport) : Prop := ∃ i ∈ s.instances, i.status = .failed

namespace OpenStage

/-- Whoever stands in an open stage beside the one that makes a turn is still there, unless it was
pending. -/
theorem mem_turn_of_ne {s : OpenStage} {failFast : Bool} {v w : Worker} (hv : v ∈ s.workers)
    (hid : v.inst.identity ≠ w.inst.identity) (hp : v.inst.status ≠ .pending) :
    v ∈ ((s.put w).noteOutcome failFast w).workers := by
  obtain ⟨f, hf, _, hcases⟩ := (s.put w).exists_workers_noteOutcome failFast w
  have hput : v ∈ (s.put w).workers := List.mem_map.2 ⟨v, hv, if_neg hid⟩
  rw [hf]
  refine List.mem_map.2 ⟨v, hput, ?_⟩
  rcases hcases v with he | ⟨reason, he⟩
  · exact he
  · rw [he, StageReport.cancelIfPending_of_ne hp]

/-- A failure that is noted leaves nothing pending. -/
theorem aborted_noteOutcome {s : OpenStage} {w : Worker} (hpt : w.point = .ended false)
    (hf : w.inst.status = .failed) : (s.noteOutcome true w).aborted = true := by
  unfold noteOutcome
  split
  · rfl
  · rename_i h
    simpa [hpt, hf, Point.hasEnded, Point.wasAborted] using h

theorem ne_pending_noteOutcome {s : OpenStage} {failFast : Bool} {w : Worker}
    (h : s.aborted = true → ∀ v ∈ s.workers, v.inst.status ≠ .pending) :
    (s.noteOutcome failFast w).aborted = true →
      ∀ v ∈ (s.noteOutcome failFast w).workers, v.inst.status ≠ .pending := by
  unfold noteOutcome
  split
  · intro _ v hv
    obtain ⟨u, _, rfl⟩ := List.mem_map.1 hv
    exact StageReport.status_cancelIfPending_ne_pending _ u.inst
  · exact h

theorem aborted_of_put {s : OpenStage} {failFast : Bool} {w : Worker} (h : s.aborted = true) :
    ((s.put w).noteOutcome failFast w).aborted = true := by
  unfold noteOutcome
  split
  · rfl
  · exact h

end OpenStage

/-- A worker whose instance failed has ended, and was not aborted. -/
theorem Worker.point_of_failed {w : Worker} (h : w.Sound) (ht : w.Traced)
    (hf : w.inst.status = .failed) : w.point = .ended false := by
  have hfits := h.fits
  have hcalm := ht.failed hf
  rw [hf] at hfits
  cases hpt : w.point with
  | queued => simp [hpt, Point.Fits] at hfits
  | starting => simp [hpt, Point.Fits] at hfits
  | running => simp [hpt, Point.Fits] at hfits
  | stopping => simp [hpt, Point.Fits, InstanceStatus.MayEnd] at hfits
  | ended aborted =>
      rw [hpt] at hcalm
      obtain rfl : aborted = false := hcalm
      rfl

theorem StageReport.hasFailed_of_cancelPending {s : StageReport} {reason : String}
    (h : (s.cancelPending reason).HasFailed) : s.HasFailed := by
  obtain ⟨i, hi, hf⟩ := h
  obtain ⟨j, hj, rfl⟩ := List.mem_map.1 hi
  exact ⟨j, hj, failed_of_cancelIfPending hf⟩

namespace Execution

/-- What failures have called off so far. -/
structure Guarded (e : Execution) : Prop where
  halted : e.haltedBy.isSome = true → e.current = none
  past : ∀ s ∈ e.past, s.HasFailed → e.haltedBy.isSome = true
  later : e.past.Pairwise fun s t => s.HasFailed → ∀ i ∈ t.instances, i.started = false
  failed : ∀ s, e.current = some s → (∃ w ∈ s.workers, w.inst.status = .failed) →
    s.aborted = true
  aborted : ∀ s, e.current = some s → s.aborted = true →
    ∀ w ∈ s.workers, w.inst.status ≠ .pending

/-- As long as a stage is open nothing behind has failed. -/
theorem Guarded.not_hasFailed {e : Execution} (h : e.Guarded) {s : OpenStage}
    (hs : e.current = some s) : ∀ t ∈ e.past, ¬ t.HasFailed := by
  intro t ht hf
  rw [h.halted (h.past t ht hf)] at hs
  cases hs

variable {may : Act → Prop} {wd : String} {halted : Bool} {e e' : Execution}

theorem Guarded.turn (hsound : e.Sound) (horder : e.Orderly) (h : e.Guarded) {s : OpenStage}
    {w : Worker} {a : Act} (hs : e.current = some s) (hw : w ∈ s.workers)
    (hb : a = .begin → w.point = .queued) :
    Guarded { e with current := some ((s.put (w.act wd halted a).worker).noteOutcome true
      (w.act wd halted a).worker) } := by
  have hws := hsound.workers s hs w hw
  have hsound' : (w.act wd halted a).worker.Sound := Worker.sound_act hws hb
  have htraced' : (w.act wd halted a).worker.Traced :=
    Worker.traced_act hws (horder.workers s hs w hw) hb
  have hbecomes : w.inst.Becomes (w.act wd halted a).worker.inst := Worker.becomes_act hws hb
  -- nothing else is needed of the turn
  generalize (w.act wd halted a).worker = w' at hsound' htraced' hbecomes
  refine ⟨fun hhalted => ?_, h.past, h.later, ?_, ?_⟩
  · exact absurd ((h.halted hhalted).symm.trans hs) (by simp)
  · intro s' hs' hfailed
    obtain rfl := Option.some.inj hs'
    obtain ⟨v, hv, hvf⟩ := hfailed
    obtain ⟨u, hu, hvu⟩ := OpenStage.mem_workers_turn hv
    have huf : u.inst.status = .failed := by
      rcases hvu with rfl | ⟨reason, rfl⟩
      · exact hvf
      · exact StageReport.failed_of_cancelIfPending hvf
    -- either it failed in this turn, or the stage was aborted before
    rcases hu with rfl | ⟨hu, _⟩
    · exact OpenStage.aborted_noteOutcome (Worker.point_of_failed hsound' htraced' huf) huf
    · exact OpenStage.aborted_of_put (h.failed s hs ⟨u, hu, huf⟩)
  · intro s' hs'
    obtain rfl := Option.some.inj hs'
    refine OpenStage.ne_pending_noteOutcome fun haborted v hv => ?_
    have hold := h.aborted s hs haborted
    obtain ⟨u, hu, rfl⟩ := List.mem_map.1 hv
    split
    · -- whoever is pending after a turn was so before it
      intro hp
      rw [hbecomes.untouched hp] at hp
      exact hold w hw hp
    · exact hold u hu

theorem Guarded.cancelPending (hsound : e.Sound) (h : e.Guarded) (reason : String) :
    (e.cancelPending reason).Guarded := by
  have hpast := past_cancelPending hsound reason
  refine ⟨fun hhalted => ?_, ?_, ?_, ?_, ?_⟩
  · simp [Execution.cancelPending, h.halted hhalted]
  · rw [hpast]
    exact h.past
  · rw [hpast]
    exact h.later
  · rintro s' hs' ⟨v, hv, hvf⟩
    obtain ⟨s, hs, rfl⟩ := Option.map_eq_some_iff.1 hs'
    obtain ⟨w, hw, rfl⟩ := List.mem_map.1 hv
    exact h.failed s hs ⟨w, hw, StageReport.failed_of_cancelIfPending hvf⟩
  · intro s' hs' _ v hv
    obtain ⟨s, hs, rfl⟩ := Option.map_eq_some_iff.1 hs'
    obtain ⟨w, hw, rfl⟩ := List.mem_map.1 hv
    exact StageReport.status_cancelIfPending_ne_pending reason w.inst

theorem Guarded.close (h : e.Guarded) {s : OpenStage} (hs : e.current = some s) :
    (e.close true s).Guarded := by
  have hnone := h.not_hasFailed hs
  have hhalted : s.report.finalize.HasFailed → (e.close true s).haltedBy.isSome = true := by
    intro hf
    have hstatus : s.report.finalize.status = .failed :=
      (StageReport.outcome_eq_failed_iff s.report).2 hf
    simp [Execution.close, hstatus]
  refine ⟨fun _ => rfl, fun t ht hf => ?_, ?_, fun t ht => absurd ht (by simp [Execution.close]),
    fun t ht => absurd ht (by simp [Execution.close])⟩
  · rcases List.mem_append.1 ht with ht | ht
    · exact absurd hf (hnone t ht)
    · rw [List.mem_singleton.1 ht] at hf
      exact hhalted hf
  · refine List.pairwise_append.2 ⟨h.later, List.pairwise_singleton _ _, fun t ht u _ hf => ?_⟩
    exact absurd hf (hnone t ht)

theorem Guarded.skip (hsound : e.Sound) (horder : e.Orderly) (h : e.Guarded) {s : StageReport}
    {rest : List StageReport} (hcur : e.current = none) (hfut : e.future = s :: rest)
    (reason : String) :
    Guarded { e with past := e.past ++ [skipped s reason], future := rest } := by
  have hmem : s ∈ e.future := hfut ▸ List.mem_cons_self ..
  have hnot : ¬ (skipped s reason).HasFailed := by
    intro hf
    have hcancelled : (s.cancelPending reason).HasFailed := hf
    obtain ⟨i, hi, hif⟩ := StageReport.hasFailed_of_cancelPending hcancelled
    rcases (hsound.future s hmem).2 i hi with hp | hp <;> exact absurd (hp.symm.trans hif) (by simp)
  refine ⟨fun _ => hcur, fun t ht hf => ?_, ?_, fun t ht => absurd (hcur.symm.trans ht) (by simp),
    fun t ht => absurd (hcur.symm.trans ht) (by simp)⟩
  · rcases List.mem_append.1 ht with ht | ht
    · exact h.past t ht hf
    · rw [List.mem_singleton.1 ht] at hf
      exact absurd hf hnot
  · refine List.pairwise_append.2 ⟨h.later, List.pairwise_singleton _ _, fun t _ u hu _ => ?_⟩
    rw [List.mem_singleton.1 hu]
    exact forall_cancelPending (fun hunstarted _ => by simpa using hunstarted)
      (fun i hi => (horder.future s hmem i hi).2) reason

theorem Guarded.openStage (hsound : e.Sound) (h : e.Guarded) {s : StageReport}
    {rest : List StageReport} (hfut : e.future = s :: rest) (hby : e.haltedBy = none) :
    Guarded { e with current := some (.ofReport s), future := rest } := by
  refine ⟨fun hhalted => absurd hhalted (by simp [hby]), h.past, h.later, ?_, ?_⟩
  · rintro o ho ⟨w, hw, hf⟩
    obtain rfl := Option.some.inj ho
    obtain ⟨i, hi, rfl⟩ := List.mem_map.1 hw
    rcases (hsound.future s (hfut ▸ List.mem_cons_self ..)).2 i hi with hp | hp <;>
      exact absurd (hp.symm.trans hf) (by simp)
  · intro o ho haborted
    obtain rfl := Option.some.inj ho
    cases haborted

/-- Every change keeps what failures have called off. -/
theorem Change.guarded (hsound : e.Sound) (horder : e.Orderly) (h : e.Guarded)
    (hc : Change may wd halted true e e') : e'.Guarded := by
  cases hc with
  | turn a _ hs hw hb => exact Guarded.turn hsound horder h hs hw hb
  | cancelPending reason _ => exact h.cancelPending hsound reason
  | close hs _ _ _ => exact h.close hs
  | skip reason hcur hfut _ _ => exact h.skip hsound horder hcur hfut reason
  | openStage hcur hfut _ _ hby => exact h.openStage hsound hfut hby
  | conclude _ _ _ => exact ⟨h.halted, h.past, h.later, h.failed, h.aborted⟩
  | giveUp _ _ _ => exact ⟨h.halted, h.past, h.later, h.failed, h.aborted⟩

/-! ### The stage of a failure, and the ones after it -/

/-- A stage is behind, open, or still to come. -/
theorem stages_cases {e : Execution} {m : Nat} {s : StageReport} (hs : e.stages[m]? = some s) :
    (m < e.past.length ∧ e.past[m]? = some s) ∨
    (∃ o, e.current = some o ∧ m = e.past.length ∧ s = o.report) ∨
    (e.past.length + e.current.toList.length ≤ m ∧ s ∈ e.future) := by
  rcases Nat.lt_or_ge m e.past.length with hm | hm
  · rw [stages, List.append_assoc, List.getElem?_append_left hm] at hs
    exact .inl ⟨hm, hs⟩
  · refine .inr ?_
    rcases Nat.lt_or_ge m (e.past ++ e.current.toList.map OpenStage.report).length with hm' | hm'
    · rw [stages, List.getElem?_append_left hm', List.getElem?_append_right hm] at hs
      cases hcur : e.current with
      | none => simp [hcur] at hs
      | some o =>
          simp only [hcur, Option.toList_some, List.map_cons, List.map_nil,
            List.getElem?_singleton] at hs
          split at hs
          · exact .inl ⟨o, rfl, by omega, (Option.some.inj hs).symm⟩
          · exact absurd hs (by simp)
    · rw [stages, List.getElem?_append_right hm'] at hs
      exact .inr ⟨by simpa using hm', List.mem_of_getElem? hs⟩

/-- **In the stage of a failure nothing is pending**, and what was not started was cancelled. -/
theorem Guarded.same_stage (hsound : e.Sound) (horder : e.Orderly) (h : e.Guarded) {m x y : Nat}
    {i j : JobInstance} (hi : e.instance? m x = some i) (hf : i.status = .failed)
    (hj : e.instance? m y = some j) :
    j.status ≠ .pending ∧ (j.started = false → j.status = .cancelled) := by
  obtain ⟨s, hs, his⟩ := instance?_eq_some_iff.1 hi
  obtain ⟨t, ht, hjt⟩ := instance?_eq_some_iff.1 hj
  obtain rfl := Option.some.inj (hs.symm.trans ht)
  have him := List.mem_of_getElem? his
  have hjm := List.mem_of_getElem? hjt
  have hne : j.status ≠ .pending := by
    rcases stages_cases hs with ⟨_, hpast⟩ | ⟨o, ho, _, rfl⟩ | ⟨_, hfut⟩
    · exact JobInstance.ne_pending_of_isTerminal
        ((hsound.past s (List.mem_of_getElem? hpast)).ended j hjm)
    · obtain ⟨w, hw, rfl⟩ := List.mem_map.1 him
      obtain ⟨v, hv, rfl⟩ := List.mem_map.1 hjm
      exact h.aborted o ho (h.failed o ho ⟨w, hw, hf⟩) v hv
    · rcases (hsound.future s hfut).2 i him with hp | hp <;>
        exact absurd (hp.symm.trans hf) (by simp)
  refine ⟨hne, fun hun => ?_⟩
  exact ((horder.traced j (mem_instances_iff.2 ⟨m, y, hj⟩)).unstarted hun).resolve_left hne

/-- **In the stages after a failure nothing is ever started.** -/
theorem Guarded.later_stage (horder : e.Orderly) (h : e.Guarded) {m n x y : Nat}
    {i j : JobInstance} (hi : e.instance? m x = some i) (hf : i.status = .failed) (hmn : m < n)
    (hj : e.instance? n y = some j) : j.started = false := by
  obtain ⟨s, hs, his⟩ := instance?_eq_some_iff.1 hi
  obtain ⟨t, ht, hjt⟩ := instance?_eq_some_iff.1 hj
  have hjm := List.mem_of_getElem? hjt
  have hfailed : s.HasFailed := ⟨i, List.mem_of_getElem? his, hf⟩
  rcases stages_cases ht with ⟨hn, hpast⟩ | ⟨o, ho, hn, rfl⟩ | ⟨_, hfut⟩
  · have hm : e.past[m]? = some s := getElem?_past hmn (by omega) hs
    obtain ⟨hm', hms⟩ := List.getElem?_eq_some_iff.1 hm
    obtain ⟨hn', hnt⟩ := List.getElem?_eq_some_iff.1 hpast
    have hlater := List.pairwise_iff_getElem.1 h.later m n hm' hn' hmn
    rw [hms, hnt] at hlater
    exact hlater hfailed j hjm
  · -- the later stage is open, and then nothing behind it has failed
    have hm : e.past[m]? = some s := getElem?_past hmn (by simp [ho]; omega) hs
    exact absurd hfailed (h.not_hasFailed ho s (List.mem_of_getElem? hm))
  · exact (horder.future t hfut j hjm).2

/-- **No change starts an instance beside one that failed.** -/
theorem Change.unstarted_of_failed (hsound : e.Sound) (horder : e.Orderly) (h : e.Guarded)
    (hc : Change may wd halted true e e') {m x y : Nat}
    (hdistinct : ∀ s, e.stages[m]? = some s → (s.instances.map JobInstance.identity).Nodup)
    {i j k : JobInstance} (hxy : x ≠ y) (hi : e'.instance? m x = some i)
    (hf : i.status = .failed) (hj : e.instance? m y = some j) (hun : j.started = false)
    (hk : e'.instance? m y = some k) : k.started = false := by
  obtain ⟨o, hone⟩ := hc.one_at_a_time hsound
  obtain ⟨i', hi', hio⟩ := hone.exists_instance? hi
  obtain ⟨k', hk', hko⟩ := hone.instance? hj
  obtain rfl := Option.some.inj (hk.symm.trans hk')
  rcases hko with hjo | ⟨hsame, _⟩
  · rcases hio with hio | ⟨_, hif⟩
    · -- only one instance changed so much, and there are two of them
      obtain ⟨s, hs, his⟩ := instance?_eq_some_iff.1 hi'
      obtain ⟨t, ht, hjt⟩ := instance?_eq_some_iff.1 hj
      obtain rfl := Option.some.inj (hs.symm.trans ht)
      obtain ⟨hx, hxs⟩ := List.getElem?_eq_some_iff.1 his
      obtain ⟨hy, hys⟩ := List.getElem?_eq_some_iff.1 hjt
      have hsame : s.instances[x] = s.instances[y] := by rw [hxs, hys, hio, hjo]
      exact absurd ((List.Nodup.of_map _ (hdistinct s hs)).getElem_inj_iff.1 hsame) hxy
    · -- the other one had failed before, so that this one was cancelled before
      obtain ⟨_, hcancelled⟩ := h.same_stage hsound horder hi' (hif hf) hj
      obtain ⟨l, hl, hbecomes⟩ := (hc.carries hsound).related.instance? hj
      obtain rfl := Option.some.inj (hk.symm.trans hl)
      rw [hbecomes.eq_of_cancelled (hcancelled hun)]
      exact hun
  · exact hsame.trans hun

end Execution

end Conveyor
