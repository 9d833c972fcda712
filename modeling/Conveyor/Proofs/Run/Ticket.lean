/-
**One worker among others.**

A run has many workers.  What is done with one of them leaves the other ones where they stand, and
what is done with all of them is done with each of them once.

Main definitions:

* `Conveyor.Run.standing` — the point that a worker has reached, and its instance as planned;
* `Conveyor.Run.notesFor` — what a worker wrote into the log;
* `Conveyor.Run.Unmoved` — a worker is left where it stands;
* `Conveyor.Run.Turns` — a worker makes a turn.

Main results:

* `Conveyor.Run.unmoved_turn`, `Conveyor.Run.turns_turn` — one turn, seen from the other workers and
  from the one that makes it;
* `Conveyor.Run.turns_foldl` — calling off many workers calls off each of them once;
* `Conveyor.Run.mem_tickets_iff`, `Conveyor.Run.nodup_tickets` — everybody has one ticket.
-/

import Conveyor.Proofs.Run.Kept

set_option autoImplicit false

namespace Conveyor

/-! ### Standings -/

/-- The point that a worker has reached, and its instance as planned. -/
def Worker.standing (w : Worker) : Point × JobInstance := (w.point, w.inst.planned)

namespace OpenStage

/-- Where the worker of an identity stands. -/
def standing (s : OpenStage) (identity : String) : Option (Point × JobInstance) :=
  (s.worker? identity).map Worker.standing

theorem worker?_mapWorkers (s : OpenStage) {f : Worker → Worker}
    (hf : ∀ w, (f w).inst.identity = w.inst.identity) (identity : String) :
    (s.mapWorkers f).worker? identity = (s.worker? identity).map f := by
  rw [worker?, mapWorkers, List.find?_map]
  simp only [Function.comp_def, hf]
  rfl

theorem standing_mapWorkers (s : OpenStage) {f : Worker → Worker}
    (hid : ∀ w, (f w).inst.identity = w.inst.identity)
    (hf : ∀ w, (f w).standing = w.standing) (identity : String) :
    (s.mapWorkers f).standing identity = s.standing identity := by
  rw [standing, worker?_mapWorkers s hid, Option.map_map, standing]
  congr 1
  exact funext hf

theorem standing_cancelPending (s : OpenStage) (reason identity : String) :
    (s.cancelPending reason).standing identity = s.standing identity :=
  standing_mapWorkers s (fun w => by simp) (fun w => by simp [Worker.standing]) identity

theorem standing_noteOutcome (s : OpenStage) (failFast : Bool) (w : Worker) (identity : String) :
    (s.noteOutcome failFast w).standing identity = s.standing identity := by
  unfold noteOutcome
  split
  · exact standing_cancelPending s _ identity
  · rfl

/-- A worker in the place of another one stands where it stands, and nobody else moves. -/
theorem standing_put {s : OpenStage} {v w : Worker} (hv : s.worker? v.inst.identity = some v)
    (hid : w.inst.identity = v.inst.identity) (identity : String) :
    (s.put w).standing identity =
      if identity = v.inst.identity then some w.standing else s.standing identity := by
  have hput := worker?_mapWorkers s
    (f := fun u => if u.inst.identity = w.inst.identity then w else u)
    (fun u => by split <;> simp_all) identity
  rw [standing, put, hput, standing]
  split
  · rename_i heq
    rw [heq, hv]
    simp [hid]
  · rename_i hne
    cases hu : s.worker? identity with
    | none => rfl
    | some u =>
        have huid : u.inst.identity = identity := by simpa using List.find?_some hu
        simp [huid, hid, hne]

end OpenStage

/-- Where the worker of a stage and an identity stands. -/
def Execution.standing (e : Execution) (stage identity : String) : Option (Point × JobInstance) :=
  e.current.bind fun s => if s.name = stage then s.standing identity else none

theorem Execution.standing_of_none {e : Execution} (h : e.current = none)
    (stage identity : String) : e.standing stage identity = none := by
  simp [standing, h]

theorem Execution.standing_cancelPending (e : Execution) (reason stage identity : String) :
    (e.cancelPending reason).standing stage identity = e.standing stage identity := by
  cases hs : e.current with
  | none => simp [standing, cancelPending, hs]
  | some s =>
      simp only [standing, cancelPending, hs, Option.map_some, Option.bind_some,
        OpenStage.standing_cancelPending]
      rfl

namespace Run

/-- Where the worker of a ticket stands. -/
def standing (r : Run) (t : Ticket) : Option (Point × JobInstance) :=
  r.executions[t.execution]?.bind fun e => e.standing t.stage t.identity

theorem standing_eq (r : Run) (t : Ticket) :
    r.standing t = (r.worker? t).map fun p => p.2.standing := by
  rw [standing, worker?]
  cases r.executions[t.execution]? with
  | none => rfl
  | some e =>
      cases hs : e.current with
      | none => simp [Execution.standing, hs]
      | some s =>
          by_cases hname : s.name = t.stage
          · simp only [Execution.standing, hs, Option.bind_some, hname, if_true, OpenStage.standing,
              Option.bind_eq_bind]
            cases s.worker? t.identity <;> rfl
          · simp [Execution.standing, hs, hname]

theorem standing_eq_some_iff {r : Run} {t : Ticket} {x : Point × JobInstance} :
    r.standing t = some x ↔ ∃ s w, r.worker? t = some (s, w) ∧ w.standing = x := by
  simp [standing_eq]

theorem standing_eq_none_iff {r : Run} {t : Ticket} :
    r.standing t = none ↔ r.worker? t = none := by
  simp [standing_eq]

/-- What the worker of a ticket wrote into the log. -/
def notesFor (r : Run) (t : Ticket) : List Note :=
  (r.log.filter (·.1 = t)).map Prod.snd

/-- A worker is left where it stands. -/
structure Unmoved (r r' : Run) (t : Ticket) : Prop where
  standing : r'.standing t = r.standing t
  notes : r'.notesFor t = r.notesFor t

theorem Unmoved.refl (r : Run) (t : Ticket) : Unmoved r r t := ⟨rfl, rfl⟩

theorem Unmoved.trans {q r s : Run} {t : Ticket} (h : Unmoved q r t) (h' : Unmoved r s t) :
    Unmoved q s t :=
  ⟨h'.standing.trans h.standing, h'.notes.trans h.notes⟩

/-! ### One execution changes -/

theorem standing_modifyExecution (r : Run) (k : Nat) (f : Execution → Execution) (t : Ticket) :
    (r.modifyExecution k f).standing t =
      r.executions[t.execution]?.bind fun e =>
        (if k = t.execution then f e else e).standing t.stage t.identity := by
  rw [standing, modifyExecution, List.getElem?_modify]
  cases r.executions[t.execution]? <;> rfl

/-- An execution changes, and its workers stay where they stand. -/
theorem unmoved_modifyExecution {r : Run} {k : Nat} {f : Execution → Execution} (t : Ticket)
    (hf : ∀ e, r.executions[k]? = some e → t.execution = k →
      (f e).standing t.stage t.identity = e.standing t.stage t.identity) :
    Unmoved r (r.modifyExecution k f) t := by
  refine ⟨?_, rfl⟩
  rw [standing_modifyExecution, standing]
  cases he : r.executions[t.execution]? with
  | none => rfl
  | some e =>
      by_cases hk : k = t.execution
      · simp only [Option.bind_some, if_pos hk]
        exact hf e (hk ▸ he) hk.symm
      · simp only [Option.bind_some, if_neg hk]

/-- One worker takes up another point, and nobody else moves. -/
theorem standing_put {r : Run} (h : r.Sound) {u : Ticket} {s : OpenStage} {w w' : Worker}
    (hw : r.worker? u = some (s, w)) (hplanned : w'.inst.planned = w.inst.planned)
    (failFast : Bool) (t : Ticket) :
    (r.modifyExecution u.execution fun e =>
      { e with current := some ((s.put w').noteOutcome failFast w') }).standing t =
        if t = u then some w'.standing else r.standing t := by
  obtain ⟨e, he, hes, hs, hname, hmem, hid⟩ := h.exists_of_worker? hw
  have hv : s.worker? w.inst.identity = some w :=
    (OpenStage.worker?_eq_some_iff (hes.distinct s hs)).2 ⟨hmem, rfl⟩
  obtain ⟨_, _, hnote, _⟩ := (s.put w').exists_workers_noteOutcome failFast w'
  have hput (identity : String) :
      ((s.put w').noteOutcome failFast w').standing identity =
        if identity = u.identity then some w'.standing else s.standing identity := by
    rw [OpenStage.standing_noteOutcome, OpenStage.standing_put hv
      (JobInstance.identity_eq_of_planned hplanned), hid]
  have hstage : ((s.put w').noteOutcome failFast w').name = u.stage := hnote.trans hname
  rw [standing_modifyExecution]
  by_cases hk : t.execution = u.execution
  · rw [hk, he, Option.bind_some, if_pos rfl]
    simp only [Execution.standing, Option.bind_some, hstage, hput]
    by_cases hstages : u.stage = t.stage
    · by_cases hids : t.identity = u.identity
      · have htu : t = u := by
          cases t
          cases u
          simp_all
        rw [if_pos hstages, if_pos hids, if_pos htu]
      · have htu : t ≠ u := fun htu => hids (htu ▸ rfl)
        rw [if_pos hstages, if_neg hids, if_neg htu, standing, hk, he]
        simp [Execution.standing, hs, hname, hstages]
    · have htu : t ≠ u := fun htu => hstages (htu ▸ rfl)
      rw [if_neg hstages, if_neg htu, standing, hk, he]
      simp [Execution.standing, hs, hname, hstages]
  · have htu : t ≠ u := fun htu => hk (htu ▸ rfl)
    rw [if_neg htu, standing]
    simp only [if_neg (Ne.symm hk)]

/-! ### One turn -/

theorem notesFor_append_self (r : Run) (t : Ticket) (notes : List Note) :
    ((r.log ++ notes.map fun n => (t, n)).filter (·.1 = t)).map Prod.snd =
      r.notesFor t ++ notes := by
  simp [notesFor, List.filter_append, List.filter_map, Function.comp_def]

theorem notesFor_append_of_ne (r : Run) {t u : Ticket} (hut : u ≠ t) (notes : List Note) :
    ((r.log ++ notes.map fun n => (u, n)).filter (·.1 = t)).map Prod.snd = r.notesFor t := by
  simp [notesFor, List.filter_append, List.filter_map, Function.comp_def, hut]

/-- A turn of one worker leaves the other ones where they stand. -/
theorem unmoved_turn {r : Run} (h : r.Sound) {t u : Ticket} (hut : u ≠ t) {f : Worker → Turn}
    (hf : ∀ s w, r.worker? u = some (s, w) → (f w).worker.inst.planned = w.inst.planned) :
    Unmoved r (r.turn u f) t := by
  cases hw : r.worker? u with
  | none =>
      rw [turn_of_none f hw]
      exact .refl r t
  | some p =>
      obtain ⟨s, w⟩ := p
      cases hlive : w.point.hasEnded with
      | true =>
          rw [turn_of_hasEnded f hw hlive]
          exact .refl r t
      | false =>
          rw [turn_eq hw hlive rfl]
          refine ⟨?_, notesFor_append_of_ne r hut _⟩
          refine (standing_put h hw (hf s w hw) r.config.failFast t).trans ?_
          rw [if_neg (Ne.symm hut)]

/-- What a worker makes of its turn. -/
theorem moved_turn {r : Run} (h : r.Sound) {t : Ticket} {s : OpenStage} {w : Worker}
    {f : Worker → Turn} (hw : r.worker? t = some (s, w)) (hlive : w.point.hasEnded = false)
    (hf : (f w).worker.inst.planned = w.inst.planned) :
    (r.turn t f).standing t = some ((f w).worker.point, w.inst.planned) ∧
      (r.turn t f).notesFor t = r.notesFor t ++ (f w).notes := by
  rw [turn_eq hw hlive rfl]
  refine ⟨?_, notesFor_append_self r t _⟩
  refine (standing_put h hw hf r.config.failFast t).trans ?_
  rw [if_pos rfl, Worker.standing, hf]

end Run

/-! ### Calling off depends on nothing but the point -/

namespace Worker

theorem inst_interrupt (w : Worker) : w.interrupt.worker.inst = w.inst := by
  unfold interrupt
  split <;> rfl

theorem planned_abort {w : Worker} (h : w.Sound) :
    w.abort.worker.inst.planned = w.inst.planned := by
  have hbecomes : w.inst.Becomes (w.act "" false .abort).worker.inst := becomes_act h (by simp)
  exact hbecomes.planned

theorem interrupt_congr {v w : Worker} (h : v.point = w.point) :
    v.interrupt.worker.point = w.interrupt.worker.point ∧
      v.interrupt.notes = w.interrupt.notes := by
  cases hpt : w.point with
  | starting up r rest halt => cases halt <;> simp [interrupt, h, hpt]
  | running up r rest halt => cases halt <;> simp [interrupt, h, hpt]
  | queued => simp [interrupt, h, hpt]
  | stopping => simp [interrupt, h, hpt]
  | ended => simp [interrupt, h, hpt]

theorem unwind_aborted_congr (v w : Worker) (up : List String) :
    (v.unwind up .aborted).worker.point = (w.unwind up .aborted).worker.point ∧
      (v.unwind up .aborted).notes = (w.unwind up .aborted).notes := by
  cases up <;> exact ⟨rfl, rfl⟩

theorem abort_congr {v w : Worker} (h : v.point = w.point) :
    v.abort.worker.point = w.abort.worker.point ∧ v.abort.notes = w.abort.notes := by
  cases hpt : w.point with
  | stopping service half rest o =>
      simp only [abort, h, hpt]
      cases half with
      | true => exact unwind_aborted_congr v w rest
      | false => exact ⟨rfl, rfl⟩
  | queued => simp [abort, h, hpt]
  | starting => simp [abort, h, hpt]
  | running => simp [abort, h, hpt]
  | ended => simp [abort, h, hpt]

end Worker

/-- Whether this is calling off. -/
def Act.isHalt : Act → Bool
  | .interrupt | .abort => true
  | _ => false

/-- Where calling off leaves a worker depends on nothing but the point that it had reached. -/
theorem Worker.act_congr {v w : Worker} (h : v.point = w.point) {a : Act} (ha : a.isHalt = true)
    (wd : String) (halted : Bool) :
    (v.act wd halted a).worker.point = (w.act wd halted a).worker.point ∧
      (v.act wd halted a).notes = (w.act wd halted a).notes := by
  cases a with
  | interrupt => exact interrupt_congr h
  | abort => exact abort_congr h
  | begin => simp [Act.isHalt] at ha
  | served => simp [Act.isHalt] at ha
  | ran => simp [Act.isHalt] at ha
  | stopped => simp [Act.isHalt] at ha

namespace Run

/-- The worker of a ticket makes a turn. -/
def Turns (r r' : Run) (t : Ticket) (a : Act) : Prop :=
  ∃ s w wd halted, r.worker? t = some (s, w) ∧ (a = .begin → w.point = .queued) ∧
    r'.standing t = some ((w.act wd halted a).worker.point, w.inst.planned) ∧
      r'.notesFor t = r.notesFor t ++ (w.act wd halted a).notes

theorem Turns.unmoved {q r s : Run} {t : Ticket} {a : Act} (h : Turns q r t a)
    (h' : Unmoved r s t) : Turns q s t a := by
  obtain ⟨o, w, wd, halted, hw, hb, hstanding, hnotes⟩ := h
  exact ⟨o, w, wd, halted, hw, hb, h'.standing.trans hstanding, h'.notes.trans hnotes⟩

theorem Unmoved.turns {q r s : Run} {t : Ticket} {a : Act} (h : Unmoved q r t)
    (h' : Turns r s t a) (ha : a.isHalt = true) : Turns q s t a := by
  obtain ⟨o, w, wd, halted, hw, _, hstanding, hnotes⟩ := h'
  have hstood := h.standing
  rw [standing_eq_some_iff.2 ⟨o, w, hw, rfl⟩] at hstood
  obtain ⟨o', v, hv, hsame⟩ := standing_eq_some_iff.1 hstood.symm
  obtain ⟨hpoint, hplanned⟩ := Prod.mk.inj hsame
  obtain ⟨hturned, hwritten⟩ := Worker.act_congr hpoint ha wd halted
  refine ⟨o', v, wd, halted, hv, fun hb => by simp [hb, Act.isHalt] at ha, ?_, ?_⟩
  · rw [hstanding, hturned, ← hplanned]
  · rw [hnotes, h.notes, hwritten]

/-- A turn other than the first one. -/
theorem turns_turn {r : Run} (h : r.Sound) {t : Ticket} {s : OpenStage} {w : Worker}
    (hw : r.worker? t = some (s, w)) {f : Worker → Turn} {a : Act}
    (hact : ∃ wd halted, ∀ w, f w = w.act wd halted a) (hbegin : a ≠ .begin) :
    Turns r (r.turn t f) t a := by
  obtain ⟨wd, halted, hf⟩ := hact
  have hsound := worker_sound h hw
  have hplanned : (f w).worker.inst.planned = w.inst.planned := by
    rw [hf]
    exact (Worker.becomes_act hsound fun hb => absurd hb hbegin).planned
  refine ⟨s, w, wd, halted, hw, fun hb => absurd hb hbegin, ?_⟩
  cases hlive : w.point.hasEnded with
  | false =>
      rw [← hf w]
      exact moved_turn h hw hlive hplanned
  | true =>
      obtain ⟨aborted, hpt⟩ := Point.exists_of_hasEnded hlive
      rw [turn_of_hasEnded f hw hlive, Worker.act_of_ended wd halted hpt hbegin]
      exact ⟨standing_eq_some_iff.2 ⟨s, w, hw, rfl⟩, (List.append_nil _).symm⟩

/-! ### Many turns -/

/-- What is done with each of many workers is done with each of them once: as far as one of them
sees, the others make no difference. -/
theorem foldl_cases {g : Run → Ticket → Run} {t : Ticket} {R : Run → Run → Prop}
    (hrefl : ∀ q, R q q) (htrans : ∀ q r s, R q r → R r s → R q s)
    (hg : ∀ (q : Run) u, q.Sound → q.Carries (g q u))
    (hother : ∀ (q : Run) u, q.Sound → u ≠ t → R q (g q u)) {r : Run} (h : r.Sound)
    {ts : List Ticket} (hts : ts.Nodup) :
    (t ∉ ts → R r (ts.foldl g r)) ∧
      (t ∈ ts → ∃ q : Run, q.Sound ∧ R r q ∧ R (g q t) (ts.foldl g r)) := by
  induction ts generalizing r with
  | nil => exact ⟨fun _ => hrefl r, fun ht => absurd ht List.not_mem_nil⟩
  | cons u rest ih =>
      obtain ⟨hu, hrest⟩ := List.nodup_cons.1 hts
      obtain ⟨hout, hin⟩ := ih (hg r u h).sound hrest
      refine ⟨?_, ?_⟩
      · intro ht
        obtain ⟨htu, htrest⟩ := List.ne_and_not_mem_of_not_mem_cons ht
        exact htrans _ _ _ (hother r u h (Ne.symm htu)) (hout htrest)
      · intro ht
        by_cases htu : t = u
        · -- its turn has come, and it does not come again
          subst htu
          exact ⟨r, h, hrefl r, hout hu⟩
        · obtain ⟨q, hq, hbefore, hafter⟩ := hin ((List.mem_cons.1 ht).resolve_left htu)
          exact ⟨q, hq, htrans _ _ _ (hother r u h (Ne.symm htu)) hbefore, hafter⟩

/-- Calling off many workers calls off each of them once, and nobody else. -/
theorem turns_foldl {g : Run → Ticket → Run} {t : Ticket} {a : Act} (ha : a.isHalt = true)
    (hg : ∀ (q : Run) u, q.Sound → q.Carries (g q u))
    (hother : ∀ (q : Run) u, q.Sound → u ≠ t → Unmoved q (g q u) t)
    (hself : ∀ (q : Run) s w, q.Sound → q.worker? t = some (s, w) → Turns q (g q t) t a)
    {r : Run} (h : r.Sound) {ts : List Ticket} (hts : ts.Nodup) :
    (t ∉ ts → Unmoved r (ts.foldl g r) t) ∧
      (t ∈ ts → r.standing t ≠ none → Turns r (ts.foldl g r) t a) := by
  obtain ⟨hout, hin⟩ := foldl_cases (R := (Unmoved · · t)) (fun q => .refl q t)
    (fun _ _ _ => Unmoved.trans) hg hother h hts
  refine ⟨hout, fun ht hstanding => ?_⟩
  obtain ⟨q, hq, hbefore, hafter⟩ := hin ht
  rw [← hbefore.standing] at hstanding
  obtain ⟨x, hx⟩ := Option.ne_none_iff_exists'.1 hstanding
  obtain ⟨s, w, hw, _⟩ := standing_eq_some_iff.1 hx
  exact hbefore.turns ((hself q s w hq hw).unmoved hafter) ha

/-! ### Tickets -/

theorem mem_ticketsOf_iff {r : Run} {e : Execution} {t : Ticket}
    (he : r.executions[t.execution]? = some e) (h : e.Sound) :
    t ∈ ticketsOf t.execution e ↔ r.standing t ≠ none := by
  rw [ne_eq, standing_eq_none_iff]
  constructor
  · intro ht
    simp only [ticketsOf, List.mem_flatMap, List.mem_map, Option.mem_toList] at ht
    obtain ⟨s, hs, w, hw, hmk⟩ := ht
    have hname : s.name = t.stage := congrArg Ticket.stage hmk
    have hid : w.inst.identity = t.identity := congrArg Ticket.identity hmk
    rw [(worker?_eq_some_iff he hs (h.distinct s hs)).2 ⟨hname, hw, hid⟩]
    simp
  · intro hne
    obtain ⟨⟨s, w⟩, hw⟩ := Option.ne_none_iff_exists'.1 hne
    obtain ⟨e', he', hs, hname, hv⟩ := worker?_eq_some hw
    obtain rfl : e = e' := Option.some.inj (he.symm.trans he')
    obtain ⟨hmem, hid⟩ := (OpenStage.worker?_eq_some_iff (h.distinct s hs)).1 hv
    simp only [ticketsOf, hs, Option.toList_some, List.flatMap_singleton]
    refine List.mem_map.2 ⟨w, hmem, ?_⟩
    rw [hname, hid]

theorem execution_of_mem_ticketsOf {k : Nat} {e : Execution} {t : Ticket}
    (h : t ∈ ticketsOf k e) : t.execution = k := by
  simp only [ticketsOf, List.mem_flatMap, List.mem_map] at h
  obtain ⟨s, _, w, _, rfl⟩ := h
  rfl

theorem mem_tickets_iff {r : Run} (h : r.Sound) {t : Ticket} :
    t ∈ r.tickets ↔ r.standing t ≠ none := by
  rw [tickets, List.mem_flatten]
  constructor
  · rintro ⟨ts, hts, ht⟩
    obtain ⟨k, hk, rfl⟩ := List.mem_mapIdx.1 hts
    obtain rfl := execution_of_mem_ticketsOf ht
    exact (mem_ticketsOf_iff (List.getElem?_eq_getElem hk) (h.executions _ (List.getElem_mem hk))).1
      ht
  · intro hne
    cases he : r.executions[t.execution]? with
    | none => simp [standing, he] at hne
    | some e =>
        have hin := (mem_ticketsOf_iff he (h.executions e (List.mem_of_getElem? he))).2 hne
        obtain ⟨hk, rfl⟩ := List.getElem?_eq_some_iff.1 he
        exact ⟨_, List.mem_mapIdx.2 ⟨_, hk, rfl⟩, hin⟩

/-- Nobody has two tickets. -/
theorem nodup_tickets {r : Run} (h : r.Sound) : r.tickets.Nodup := by
  refine List.nodup_flatten.2 ⟨?_, ?_⟩
  · intro ts hts
    obtain ⟨k, hk, rfl⟩ := List.mem_mapIdx.1 hts
    exact nodup_ticketsOf (h.executions _ (List.getElem_mem hk))
  · refine List.pairwise_iff_getElem.2 fun i j hi hj hij t ht ht' => ?_
    rw [List.getElem_mapIdx] at ht ht'
    have hij' := (execution_of_mem_ticketsOf ht).symm.trans (execution_of_mem_ticketsOf ht')
    omega

end Run

end Conveyor
