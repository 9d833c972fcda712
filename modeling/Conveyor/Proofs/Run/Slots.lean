/-
**Every slot that is taken is held by an instance at work.**

The slots of a run, the workers that hold them, and the measurements of who took up work and who
laid it down are kept apart.  They are changed together, in one and the same turn, and so they never
disagree.

Main definitions:

* `Conveyor.Run.busy` — how many workers of a run hold a slot;
* `Conveyor.Run.active` — how many of its instances were started and have not ended;
* `Conveyor.Run.Balanced` — the slots, the workers and the measurements agree.

Main results:

* `Conveyor.Worker.Leads.level`, `Conveyor.Worker.level_begin` — what a turn does to the number of
  those at work;
* `Conveyor.Run.Step.balanced` — every step keeps the balance;
* `Conveyor.Run.Reachable.balanced` — **slots, workers and measurements of every run agree**.
-/

import Conveyor.Proofs.Metrics.Level
import Conveyor.Proofs.Run.Final
import Conveyor.Proofs.Run.Returned
import Conveyor.Proofs.Run.Step
import Conveyor.Proofs.Worker.Leads

set_option autoImplicit false

namespace Conveyor

/-! ### Turns and measurements -/

theorem Measurement.isNeutral_of_isStep {m : Measurement} (h : m.isStep = true) :
    m.isNeutral = true := by
  cases m <;> first | rfl | cases h

/-- The measurements of an execution that ended tell nothing of who is at work. -/
theorem Execution.isNeutral_finalTally (e : Execution) (st : Status) :
    ∀ m ∈ e.finalTally st, m.isNeutral = true := by
  intro m hm
  simp only [finalTally, List.mem_cons, List.mem_flatMap] at hm
  rcases hm with rfl | rfl | ⟨i, _, hm⟩
  · rfl
  · rfl
  · unfold instanceTally at hm
    split at hm <;> simp at hm
    · rcases hm with rfl | rfl <;> rfl
    · rw [hm]
      rfl

namespace Worker

variable {w : Worker} {wd : String} {halted : Bool}

theorem tally_conclude (w : Worker) (o : Outcome) :
    (w.conclude o).worker.point.hasEnded = true ∧ (w.conclude o).tally = [.left] := by
  cases o <;> exact ⟨rfl, rfl⟩

section
variable {limit n : Nat} {ms : List Measurement}

theorem levelAfter?_of_isStep (hms : ∀ m ∈ ms, m.isStep = true) :
    Measurement.levelAfter? limit n ms = some n :=
  Measurement.levelAfter?_of_neutral (fun m hm => Measurement.isNeutral_of_isStep (hms m hm)) n

/-- Whoever has nothing more to do lays down its work, unless services are to be stopped. -/
theorem level_unwind (w : Worker) (up : List String) (o : Outcome)
    (hms : ∀ m ∈ ms, m.isStep = true) :
    Measurement.levelAfter? limit (n + 1) ((w.unwind up o).after ms).tally =
      some (if (w.unwind up o).worker.point.hasEnded then n else n + 1) := by
  cases up with
  | nil =>
      obtain ⟨hended, htally⟩ := tally_conclude w o
      simp only [unwind, Turn.after, htally, hended, if_true]
      rw [Measurement.levelAfter?_append (levelAfter?_of_isStep hms)]
      exact Measurement.levelAfter?_left n
  | cons name rest =>
      simp only [unwind, Turn.after, List.append_nil, Point.hasEnded]
      exact levelAfter?_of_isStep hms

/-- Whoever is at work and makes a turn lays down its work just when it comes to its end. -/
theorem Leads.level {t : Turn} (h : Leads wd halted w t) (hp : w.point.holdsSlot = true) :
    Measurement.levelAfter? limit (n + 1) t.tally =
      some (if t.worker.point.hasEnded then n else n + 1) := by
  cases h with
  | moves p notes hended _ =>
      have hlive : p.hasEnded = false := by
        by_contra hp'
        rcases hended (by simpa using hp') with rfl | hq
        · exact absurd (Point.live_of_holdsSlot hp).2 hp'
        · simp [hq, Point.holdsSlot] at hp
      simp [hlive, Measurement.levelAfter?]
  | unwinds v up o ms _ hms => exact level_unwind v up o hms
  | runs v up r rest ms _ hms _ =>
      simp only [Turn.after, List.append_nil, Point.hasEnded]
      exact levelAfter?_of_isStep hms
  | starts up r rest _ => simp [Measurement.levelAfter?, Point.hasEnded]

theorem level_nextStep (w : Worker) (up : List String) (k : Int) (steps : List Step) :
    Measurement.levelAfter? limit (n + 1) (w.nextStep wd halted up k steps).tally =
      some (if (w.nextStep wd halted up k steps).worker.point.hasEnded then n else n + 1) := by
  rcases w.nextStep_cases wd halted up k steps with ⟨o, _, he⟩ | ⟨s, rest, r, _, _, _, he⟩
  · rw [he]
    exact level_unwind w up o (List.forall_mem_nil _)
  · simp [he, Measurement.levelAfter?, Point.hasEnded]

theorem level_nextService (w : Worker) (up : List String) (services : List Service) :
    Measurement.levelAfter? limit (n + 1) (w.nextService wd halted up services).tally =
      some (if (w.nextService wd halted up services).worker.point.hasEnded then n
        else n + 1) := by
  rcases w.nextService_cases wd halted up services with
    ⟨_, he⟩ | ⟨o, _, _, he⟩ | ⟨s, rest, r, _, _, _, he⟩
  · rw [he]
    exact level_nextStep _ up 0 _
  · rw [he]
    exact level_unwind w up o (List.forall_mem_nil _)
  · simp [he, Measurement.levelAfter?, Point.hasEnded]

/-- Whoever is given a slot takes up its work, and perhaps lays it down at once, or it comes to its
end without. -/
theorem level_begin (h : w.Sound) (hp : w.point = .queued) (hn : n < limit) :
    Measurement.levelAfter? limit n (w.begin wd halted).tally =
      some (if (w.begin wd halted).worker.point.hasEnded then n else n + 1) := by
  rcases begin_cases wd halted h hp with ⟨_, he⟩ | ⟨_, _, he⟩ | ⟨_, _, he⟩
  · simp [he, Measurement.levelAfter?, Point.hasEnded]
  · simp [he, Measurement.levelAfter?, Point.hasEnded]
  · rw [he]
    simp only [Turn.after]
    rw [Measurement.levelAfter?_append (Measurement.levelAfter?_entered hn)]
    exact level_nextService _ [] _

end

end Worker

/-! ### Who holds a slot -/

namespace OpenStage

/-- How many workers of an open stage hold a slot. -/
def busy (s : OpenStage) : Nat := s.workers.countP fun w => w.point.holdsSlot

/-- A worker takes the place of another one, and the sum changes by what they count. -/
theorem total_put {ws : List Worker} (hd : (ws.map fun w => w.inst.identity).Nodup)
    {w w' : Worker} (hw : w ∈ ws) (hid : w'.inst.identity = w.inst.identity) (f : Worker → Nat) :
    total ((ws.map fun v => if v.inst.identity = w'.inst.identity then w' else v).map f) + f w =
      total (ws.map f) + f w' := by
  induction ws with
  | nil => cases hw
  | cons v rest ih =>
      obtain ⟨hnot, hrest⟩ := List.nodup_cons.1 hd
      simp only [List.map_cons, total]
      rcases List.mem_cons.1 hw with rfl | hw
      · -- nobody behind has its identity, so that nothing changes there
        have hsame : (rest.map fun v => if v.inst.identity = w'.inst.identity then w' else v) =
            rest := by
          refine (List.map_congr_left fun v hv => if_neg fun heq => hnot ?_).trans (List.map_id _)
          exact List.mem_map.2 ⟨v, hv, heq.trans hid⟩
        rw [hsame, if_pos hid.symm]
        omega
      · have hne : v.inst.identity ≠ w'.inst.identity := fun heq =>
          hnot (List.mem_map.2 ⟨w, hw, (heq.trans hid).symm⟩)
        have hih := ih hrest hw
        rw [if_neg hne]
        omega

/-- A turn of one worker changes a sum as it changes what the worker counts, as long as to be
cancelled changes nothing. -/
theorem total_turn {s : OpenStage} (hd : s.Distinct) (failFast : Bool) {w w' : Worker}
    (hw : w ∈ s.workers) (hid : w'.inst.identity = w.inst.identity) {f : Worker → Nat}
    (hf : ∀ v reason, f { v with inst := StageReport.cancelIfPending reason v.inst } = f v) :
    total (((s.put w').noteOutcome failFast w').workers.map f) + f w =
      total (s.workers.map f) + f w' := by
  obtain ⟨g, hg, _, hcases⟩ := (s.put w').exists_workers_noteOutcome failFast w'
  have hsame : f ∘ g = f := by
    funext v
    rcases hcases v with he | ⟨reason, he⟩
    · rw [Function.comp_apply, he]
    · rw [Function.comp_apply, he, hf]
  rw [hg, List.map_map, hsame]
  exact total_put hd hw hid f

theorem busy_eq_total (s : OpenStage) :
    s.busy = total (s.workers.map fun w => if w.point.holdsSlot then 1 else 0) :=
  countP_eq_total _ _

theorem busy_mapWorkers {s : OpenStage} {f : Worker → Worker}
    (hf : ∀ w, (f w).point = w.point) : (s.mapWorkers f).busy = s.busy := by
  simp [busy, mapWorkers, List.countP_map, Function.comp_def, hf]

/-- A turn of one worker changes the number of those that hold a slot as it changes itself. -/
theorem busy_turn {s : OpenStage} (hd : s.Distinct) (failFast : Bool) {w w' : Worker}
    (hw : w ∈ s.workers) (hid : w'.inst.identity = w.inst.identity) :
    ((s.put w').noteOutcome failFast w').busy + (if w.point.holdsSlot then 1 else 0) =
      s.busy + (if w'.point.holdsSlot then 1 else 0) := by
  rw [busy_eq_total, busy_eq_total]
  exact total_turn (f := fun w => if w.point.holdsSlot then 1 else 0) hd failFast hw hid
    fun _ _ => rfl

theorem busy_of_isOver {s : OpenStage} (h : s.isOver = true) : s.busy = 0 :=
  List.countP_eq_zero.2 fun _ hw hp => not_isOver_of_holdsSlot hw hp h

theorem busy_ofReport (s : StageReport) : (ofReport s).busy = 0 := by
  refine List.countP_eq_zero.2 fun w hw => ?_
  obtain ⟨i, _, rfl⟩ := List.mem_map.1 hw
  simp [Point.holdsSlot]

end OpenStage

namespace Execution

/-- How many workers of an execution hold a slot. -/
def busy (e : Execution) : Nat := total (e.current.toList.map OpenStage.busy)

theorem busy_of_current {e : Execution} {s : OpenStage} (hs : e.current = some s) :
    e.busy = s.busy := by
  simp [busy, hs, total]

theorem busy_of_none {e : Execution} (hs : e.current = none) : e.busy = 0 := by
  simp [busy, hs, total]

theorem length_atWork (e : Execution) : e.atWork.length = e.busy := by
  cases hs : e.current with
  | none => simp [atWork, hs, busy_of_none hs]
  | some s => simp [atWork, hs, busy_of_current hs, OpenStage.busy, List.countP_eq_length_filter]

theorem busy_cancelPending (e : Execution) (reason : String) :
    (e.cancelPending reason).busy = e.busy := by
  cases hs : e.current with
  | none => simp [busy, cancelPending, hs]
  | some s =>
      have hs' : (e.cancelPending reason).current = some (s.cancelPending reason) := by
        simp [cancelPending, hs]
      rw [busy_of_current hs, busy_of_current hs']
      exact OpenStage.busy_mapWorkers fun _ => rfl

end Execution

namespace Run

/-- How many workers of a run hold a slot. -/
def busy (r : Run) : Nat := total (r.executions.map Execution.busy)

/-- An execution changes, and as many of its workers hold a slot as before. -/
theorem busy_of_set {r q : Run} {k : Nat} {e e' : Execution} (he : r.executions[k]? = some e)
    (h : q.executions = r.executions.set k e') : q.busy + e.busy = r.busy + e'.busy := by
  rw [busy, busy, h]
  exact total_set he e' Execution.busy

/-- The slots, the workers that hold them, and the measurements of who is at work agree. -/
structure Balanced (r : Run) : Prop where
  limit : r.pool.limit = r.config.concurrencyLimit
  active : r.pool.active = r.busy
  peak : r.pool.active ≤ r.pool.peak ∧ r.pool.peak ≤ r.pool.limit
  level : Measurement.levelAfter? r.pool.limit 0 r.tally = some r.pool.active

theorem balanced_create (id : String) (p : Pipeline) (c : RunConfig) :
    (create id p c).Balanced :=
  ⟨rfl, rfl, ⟨Nat.le_refl 0, Nat.zero_le _⟩, rfl⟩

variable {may : Act → Prop} {r r' : Run}

/-- A change in which nobody takes or gives back a slot. -/
theorem Balanced.of_busy (h : r.Balanced) (hconfig : r'.config = r.config)
    (hlimit : r'.pool.limit = r.pool.limit) (hactive : r'.pool.active = r.pool.active)
    (hpeak : r'.pool.peak = r.pool.peak) (hbusy : r'.busy = r.busy) {ms : List Measurement}
    (htally : r'.tally = r.tally ++ ms) (hms : ∀ m ∈ ms, m.isNeutral = true) : r'.Balanced where
  limit := by rw [hlimit, hconfig, h.limit]
  active := by rw [hactive, hbusy, h.active]
  peak := by
    rw [hactive, hpeak, hlimit]
    exact h.peak
  level := by
    rw [hlimit, hactive, htally, Measurement.levelAfter?_append h.level]
    exact Measurement.levelAfter?_of_neutral hms _

/-- A worker makes a turn, and gives back its slot when it comes to its end. -/
theorem Balanced.turn {p : Pool Ticket} (hlimit : p.limit = r.config.concurrencyLimit)
    (hpeak : p.active ≤ p.peak ∧ p.peak ≤ p.limit) (h : r.Sound) {t : Ticket} {s : OpenStage}
    {w : Worker} {f : Worker → Turn} (hw : r.worker? t = some (s, w))
    (hlive : w.point.hasEnded = false)
    (hid : (f w).worker.inst.identity = w.inst.identity)
    (hleft : (f w).worker.point.isQueued = false)
    (hactive : p.active = r.busy + (if w.point.holdsSlot then 0 else 1)) {n : Nat}
    (hn : Measurement.levelAfter? p.limit 0 r.tally = some n)
    (hlevel : Measurement.levelAfter? p.limit n (f w).tally =
      some (if (f w).worker.point.hasEnded then p.active - 1 else p.active)) :
    ({ r with pool := p }.turn t f).Balanced := by
  obtain ⟨e, he, hes, hs, _, hmem, _⟩ := h.exists_of_worker? hw
  have hturn := turn_eq (r := { r with pool := p }) (f := f) hw hlive rfl
  have hbusy : ({ r with pool := p }.turn t f).busy + e.busy = r.busy +
      Execution.busy { e with current := some ((s.put (f w).worker).noteOutcome r.config.failFast
        (f w).worker) } :=
    busy_of_set he (executions_turn (r := { r with pool := p }) hw he hlive f)
  have hopen := OpenStage.busy_turn (hes.distinct s hs) r.config.failFast hmem hid
  rw [Execution.busy_of_current hs, Execution.busy_of_current rfl] at hbusy
  have hslot : (f w).worker.point.holdsSlot = !(f w).worker.point.hasEnded := by
    cases hpt : (f w).worker.point <;> simp [hpt, Point.isQueued] at hleft <;> rfl
  have hpool : ({ r with pool := p }.turn t f).pool =
      if (f w).worker.point.hasEnded then p.leave else p := by rw [hturn]
  have hslots : ({ r with pool := p }.turn t f).pool.active =
      if (f w).worker.point.hasEnded then p.active - 1 else p.active := by
    rw [hpool]
    split <;> rfl
  have hrest : ({ r with pool := p }.turn t f).pool.limit = p.limit ∧
      ({ r with pool := p }.turn t f).pool.peak = p.peak := by
    rw [hpool]
    split <;> exact ⟨rfl, rfl⟩
  have htally : ({ r with pool := p }.turn t f).tally = r.tally ++ (f w).tally := by rw [hturn]
  have hconfig : ({ r with pool := p }.turn t f).config = r.config := by
    rw [hturn]
    rfl
  refine ⟨by rw [hrest.1, hconfig, hlimit], ?_, ?_, ?_⟩
  · -- a worker that is just given its slot is not among the busy ones yet
    rw [hslots]
    rw [hslot] at hopen
    have hwas : (if w.point.holdsSlot = true then 0 else 1) +
        (if w.point.holdsSlot = true then 1 else 0) = 1 := by split <;> rfl
    cases hended : (f w).worker.point.hasEnded <;> simp [hended] at hopen ⊢ <;> omega
  · rw [hslots, hrest.1, hrest.2]
    split <;> omega
  · rw [hrest.1, htally, Measurement.levelAfter?_append hn, hlevel, hslots]

theorem Balanced.turn_of_holdsSlot (h : r.Sound) (hb : r.Balanced) {t : Ticket} {s : OpenStage}
    {w : Worker} {a : Act} (hw : r.worker? t = some (s, w)) (hp : w.point.holdsSlot = true)
    (ha : a ≠ .begin) :
    (r.turn t fun w => w.act r.config.workingDir r.cancelRequested a).Balanced := by
  obtain ⟨e, he, _, hs, _, hmem, _⟩ := h.exists_of_worker? hw
  have hcarries : w.Carries (w.act r.config.workingDir r.cancelRequested a).worker :=
    Worker.carries_act (worker_sound h hw) hp ha
  -- the slot of the worker is one of those that are taken
  have hone : 0 < r.busy := by
    have hset := total_set he { e with current := none } Execution.busy
    have hbusy : 0 < e.busy := by
      rw [Execution.busy_of_current hs]
      exact List.countP_pos_iff.2 ⟨w, hmem, hp⟩
    have hnone : Execution.busy { e with current := none } = 0 := rfl
    have hall : total (r.executions.map Execution.busy) = r.busy := rfl
    omega
  have hactive := hb.active
  obtain ⟨n, hn⟩ : ∃ n, r.pool.active = n + 1 := ⟨r.pool.active - 1, by omega⟩
  refine Balanced.turn (p := r.pool) hb.limit hb.peak h hw (Point.live_of_holdsSlot hp).2
    (JobInstance.identity_eq_of_planned hcarries.planned) hcarries.left (by simp [hp, hactive])
    hb.level ?_
  rw [hn]
  exact (Worker.leads_act ha).level hp

theorem Balanced.grant (h : r.Sound) (hb : r.Balanced) (hr : r.admit? = some r') :
    r'.Balanced := by
  obtain ⟨t, p, s, w, hpool, hw, hpt, _, rfl⟩ := exists_of_admit? h hr
  obtain ⟨hfree, rest, _, rfl⟩ := Pool.admit?_eq_some_iff.1 hpool
  have hws := worker_sound h hw
  obtain ⟨_, hleft, hbecomes⟩ :=
    Worker.sound_begin r.config.workingDir r.cancelRequested hws hpt
  have hpeak := hb.peak
  refine Balanced.turn (f := fun w => w.begin r.config.workingDir r.cancelRequested)
    (p := { r.pool with active := r.pool.active + 1, waiting := rest
                        peak := max r.pool.peak (r.pool.active + 1) })
    hb.limit ⟨Nat.le_max_right _ _, Nat.max_le.2 ⟨hpeak.2, hfree⟩⟩ h hw (by rw [hpt]; rfl)
    (JobInstance.identity_eq_of_planned hbecomes.planned) hleft ?_ hb.level ?_
  · simp [hpt, Point.holdsSlot, hb.active]
  · exact Worker.level_begin hws hpt hfree

theorem Balanced.conclude (hb : r.Balanced) (k : Nat) (ending : Ending) :
    (r.conclude k ending).Balanced := by
  unfold Run.conclude
  split
  · exact hb
  · rename_i e he
    have hbusy := busy_of_set (q := r.modifyExecution k fun _ => e.finish ending) he
      (modifyExecution_eq_set he _)
    have hsame : (e.finish ending).busy = e.busy := rfl
    have hall : (r.modifyExecution k fun _ => e.finish ending).busy = r.busy := by omega
    exact hb.of_busy rfl rfl rfl rfl hall rfl (Execution.isNeutral_finalTally _ _)

/-- An execution changes in which nobody holds a slot, before or after. -/
theorem Balanced.modifyExecution (hb : r.Balanced) {k : Nat} {e : Execution}
    {f : Execution → Execution} (he : r.executions[k]? = some e) (hbusy : (f e).busy = e.busy) :
    (r.modifyExecution k f).Balanced := by
  have hset := busy_of_set (q := r.modifyExecution k f) he (modifyExecution_eq_set he f)
  have hall : (r.modifyExecution k f).busy = r.busy := by omega
  exact hb.of_busy rfl rfl rfl rfl hall (List.append_nil _).symm (by simp)

theorem Balanced.perform (hb : r.Balanced) {k : Nat} {e : Execution} {n : Execution.Next}
    (he : r.executions[k]? = some e) (hn : e.next r.cancelRequested = some n)
    (ha : n ≠ .concludeAborted) : (r.perform k e n).Balanced := by
  obtain ⟨_, hcases⟩ := Execution.next_cases hn
  rcases hcases with ⟨s, _, _, rfl⟩ | ⟨s, hs, _, hover, rfl⟩ | ⟨_, _, rfl⟩ |
    ⟨s, rest, reason, hcur, _, _, rfl⟩ | ⟨s, rest, hcur, _, _, _, rfl⟩
  · exact absurd rfl ha
  · refine hb.modifyExecution (f := fun e => e.close r.config.failFast s) he ?_
    rw [Execution.busy_of_current hs, OpenStage.busy_of_isOver hover]
    exact Execution.busy_of_none rfl
  · exact hb.conclude k _
  · exact hb.modifyExecution (f := fun e =>
      { e with past := e.past ++ [Execution.skipped s reason], future := rest }) he rfl
  · have hopen := hb.modifyExecution (f := fun e =>
      { e with current := some (.ofReport s), future := rest }) he (by
        rw [Execution.busy_of_none hcur, Execution.busy_of_current rfl]
        exact OpenStage.busy_ofReport s)
    exact ⟨hopen.limit, hopen.active, hopen.peak, hopen.level⟩

/-- Every step keeps the balance. -/
theorem Step.balanced (h : r.Sound) (hb : r.Balanced) (hs : Step may r r') : r'.Balanced := by
  cases hs with
  | turn a _ hw hp ha => exact hb.turn_of_holdsSlot h hw hp ha
  | @withdraw t s w _ hw hpt =>
      obtain ⟨e, he, hes, hs, _, hmem, _⟩ := h.exists_of_worker? hw
      have hbusy := busy_of_set he (executions_withdraw hw he hpt)
      have hmade := Worker.abort_of_queued hpt
      have hid : w.abort.worker.inst.identity = w.inst.identity := by rw [hmade]
      have hopen := OpenStage.busy_turn (hes.distinct s hs) r.config.failFast hmem hid
      have hout : w.abort.worker.point.holdsSlot = false := by rw [hmade]; rfl
      have hin : w.point.holdsSlot = false := by rw [hpt]; rfl
      rw [Execution.busy_of_current hs, Execution.busy_of_current rfl] at hbusy
      rw [hout, hin] at hopen
      have hall : (r.abortWorker t).busy = r.busy := by omega
      rw [abortWorker_of_queued hw hpt] at hall ⊢
      exact hb.of_busy rfl rfl rfl rfl hall (List.append_nil _).symm (by simp)
  | mark reason _ _ =>
      cases he : r.executions[r.executions.length - 1]? with
      | none =>
          -- a run that was never executed has nothing that could be cancelled
          have hsame : r.modifyExecution (r.executions.length - 1)
              (·.cancelPending reason) = r := by
            rw [List.getElem?_eq_none_iff] at he
            have hnil : r.executions = [] := List.length_eq_zero_iff.1 (by omega)
            cases r
            simp_all [Run.modifyExecution]
          rw [marked, hsame]
          exact ⟨hb.limit, hb.active, hb.peak, hb.level⟩
      | some e =>
          have hmarked := hb.modifyExecution (f := (·.cancelPending reason)) he
            (e.busy_cancelPending reason)
          exact ⟨hmarked.limit, hmarked.active, hmarked.peak, hmarked.level⟩
  | advance he hn ha => exact hb.perform he hn ha
  | giveUp _ _ _ _ => exact hb.conclude _ _
  | launch hr =>
      obtain ⟨stages, _, hr⟩ := exists_ok_of_bind hr
      obtain rfl := Except.ok.inj hr
      have hbusy : { r with executions := r.executions ++ [r.opening stages] }.busy = r.busy := by
        simp [busy, total_append, total, Execution.busy_of_none (current_opening r stages)]
      exact hb.of_busy rfl rfl rfl rfl hbusy (List.append_nil _).symm (by simp)
  | grant _ hr => exact hb.grant h hr

/-- **Slots, workers and measurements of every run agree**, whatever was called off. -/
theorem Reachable.balanced (h : r.Reachable) : r.Balanced := by
  obtain ⟨id, p, c, evs, hr⟩ := h
  have hsound := sound_create id p c
  exact steps_induction hsound (steps_afterAll hsound hr) (balanced_create id p c)
    fun _ _ hq hb hs => hs.balanced hq hb

end Run

/-! ### Instances at work -/

/-- An instance was started and has not ended just when its worker holds a slot. -/
theorem Worker.Sound.isActive_eq {w : Worker} (h : w.Sound) :
    w.inst.status.isActive = w.point.holdsSlot := by
  have hfits := h.fits
  cases hp : w.point with
  | starting | running | stopping =>
      rw [hp] at hfits
      exact hfits.isActive rfl
  | queued =>
      rw [hp] at hfits
      rcases hfits with hs | hs <;> rw [hs] <;> rfl
  | ended aborted =>
      rw [hp] at hfits
      rcases hfits with hs | ⟨_, hs⟩
      · rcases InstanceStatus.cases_of_isTerminal hs with hs | hs | hs <;> rw [hs] <;> rfl
      · rw [hs]
        rfl

namespace Execution

/-- How many instances of an execution were started and have not ended. -/
def active (e : Execution) : Nat := e.instances.countP fun i => i.status.isActive

/-- As many instances are at work as workers hold a slot. -/
theorem Sound.active_eq {e : Execution} (h : e.Sound) : e.active = e.busy := by
  have hpast : (e.past.flatMap StageReport.instances).countP (fun i => i.status.isActive) = 0 := by
    refine List.countP_eq_zero.2 fun i hi => ?_
    obtain ⟨s, hs, his⟩ := List.mem_flatMap.1 hi
    rcases InstanceStatus.cases_of_isTerminal ((h.past s hs).ended i his) with hi | hi | hi <;>
      simp [hi, InstanceStatus.isActive]
  have hfuture : (e.future.flatMap StageReport.instances).countP
      (fun i => i.status.isActive) = 0 := by
    refine List.countP_eq_zero.2 fun i hi => ?_
    obtain ⟨s, hs, his⟩ := List.mem_flatMap.1 hi
    rcases (h.future s hs).2 i his with hi | hi <;> simp [hi, InstanceStatus.isActive]
  have hall : e.active = ((e.current.toList.map OpenStage.report).flatMap
      StageReport.instances).countP fun i => i.status.isActive := by
    simp only [active, instances, stages, List.flatMap_append, List.countP_append, hpast, hfuture]
    omega
  rw [hall]
  cases hs : e.current with
  | none => rw [busy_of_none hs]; rfl
  | some s =>
      rw [busy_of_current hs, OpenStage.busy]
      simp only [Option.toList_some, List.map_cons, List.map_nil, List.flatMap_cons,
        List.flatMap_nil, List.append_nil, OpenStage.report, List.countP_map]
      exact List.countP_congr fun w hw => by
        simp [Function.comp, (h.workers s hs w hw).isActive_eq]

end Execution

namespace Run

/-- How many instances of a run were started and have not ended. -/
def active (r : Run) : Nat := total (r.executions.map Execution.active)

/-- As many instances of a run are at work as slots are taken. -/
theorem Reachable.active_eq {r : Run} (h : r.Reachable) : r.active = r.pool.active := by
  have hsame : r.executions.map Execution.active = r.executions.map Execution.busy :=
    List.map_congr_left fun e he => (h.sound.executions e he).active_eq
  rw [h.balanced.active, busy, active, hsame]

/-- Whether all tasks of a run have ended: those of its executions and those of their instances. -/
def isOver (r : Run) : Bool :=
  r.executions.all fun e => e.ending.isSome && e.current.all OpenStage.isOver

/-- Nobody holds a slot of a run whose tasks have all ended. -/
theorem busy_of_isOver {r : Run} (h : r.isOver = true) : r.busy = 0 := by
  refine total_eq_zero fun n hn => ?_
  obtain ⟨e, he, rfl⟩ := List.mem_map.1 hn
  have hover := (Bool.and_eq_true_iff.1 (List.all_eq_true.1 h e he)).2
  cases hs : e.current with
  | none => exact Execution.busy_of_none hs
  | some s =>
      rw [hs, Option.all_some] at hover
      rw [Execution.busy_of_current hs, OpenStage.busy_of_isOver hover]

end Run

end Conveyor
