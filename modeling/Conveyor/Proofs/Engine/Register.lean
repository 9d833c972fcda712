/-
**The register of active runs.**

A call that carries out a pipeline enters its id when it is admitted, and strikes it out when it
comes back.  It strikes out whatever stands under its id, so that the register is right only because
no id is entered while it is active.  Here calls are followed from their admission on, and the
register is compared with those that have not come back.

Main definitions:

* `Conveyor.Engine.isUnderWay` — whether the call that carries out a run has not come back;
* `Conveyor.Engine.admits` — the calls that an event begins and that are admitted;
* `Conveyor.Engine.Ledger` — an engine with all calls that were admitted;
* `Conveyor.Engine.Ledger.after` — the ledger after an event: calls that come back strike out their
  ids;
* `Conveyor.Engine.Ledger.InOrder` — what the register promises.

Main results:

* `Conveyor.Engine.Ledger.Kept.register_of_after` — what an event makes of the register;
* `Conveyor.Engine.Ledger.Kept.engine_of_atOnce` — if all runs go on right after every event, the
  register of the ledger is that of the engine;
* `Conveyor.Engine.Ledger.Reachable.inOrder` — **the register always holds just the calls that have
  not come back**, in the order of their admission and each under an id of its own.
-/

import Conveyor.Proofs.Engine.Isolation
import Conveyor.Proofs.Engine.Kept

set_option autoImplicit false

namespace Conveyor

/-! ### Runs that are executed -/

namespace Run

/-- A run whose pipeline has a plan can be launched. -/
theorem exists_launch {r : Run} {stages : List StageReport}
    (h : planOf r.pipeline r.config = .ok stages) : ∃ q, r.launch = .ok q := by
  refine ⟨{ r with executions := r.executions ++ [r.opening stages] }, ?_⟩
  simp [launch, h, bind, Except.bind, pure, Except.pure]

/-- A run that was executed has another execution. -/
theorem exists_execution_of_execute {r r' : Run} (h : r.Sound) (hr : r.execute = .ok r') :
    ∃ x, r'.executions[r.executions.length]? = some x := by
  cases hl : r.launch with
  | error f => simp [execute, hl] at hr
  | ok q =>
      obtain rfl : q.settle = r' := by simpa [execute, hl] using hr
      obtain ⟨stages, _, hq⟩ := exists_ok_of_bind hl
      have hlaunched : q.executions = r.executions ++ [r.opening stages] := by
        obtain rfl := Except.ok.inj hq
        rfl
      have hlast : q.executions[r.executions.length]? = some (r.opening stages) := by
        simp [hlaunched]
      obtain ⟨x, hx, _⟩ := (carries_settle (carries_launch h hl).sound).executions _ _ hlast
      exact ⟨x, hx⟩

end Run

namespace Engine

variable {d e e' : Engine}

/-! ### Striking out -/

/-- A register without what stands under an id. -/
def strike (register : List (String × Nat)) (id : String) : List (String × Nat) :=
  register.filter fun c => c.1 ≠ id

theorem foldl_strike (gone register : List (String × Nat)) :
    gone.foldl (fun register c => strike register c.1) register =
      register.filter fun c => c.1 ∉ gone.map Prod.fst := by
  induction gone generalizing register with
  | nil => simp
  | cons c rest ih =>
      rw [List.foldl_cons, ih, strike, List.filter_filter]
      refine List.filter_congr fun b _ => ?_
      rw [← Bool.decide_and]
      exact decide_eq_decide.2 (by simp [and_comm])

/-- As long as no two calls have one id, striking out the ids of those that do not hold on leaves
just those that do. -/
theorem foldl_strike_filter {calls : List (String × Nat)} (hnodup : (calls.map Prod.fst).Nodup)
    {holds listed : String × Nat → Bool}
    (hlisted : ∀ c ∈ calls, holds c = true → listed c = true) :
    (calls.filter fun c => !holds c).foldl (fun register c => strike register c.1)
      (calls.filter listed) = calls.filter holds := by
  rw [foldl_strike, List.filter_filter]
  refine List.filter_congr fun c hc => ?_
  cases hholds : holds c with
  | false =>
      have hmem : c.1 ∈ (calls.filter fun c => !holds c).map Prod.fst :=
        List.mem_map_of_mem (List.mem_filter.2 ⟨hc, by simp [hholds]⟩)
      simp only [hmem, not_true_eq_false, decide_false, Bool.false_and]
  | true =>
      have hnot : c.1 ∉ (calls.filter fun c => !holds c).map Prod.fst := by
        intro hmem
        obtain ⟨b, hb, hid⟩ := List.mem_map.1 hmem
        obtain ⟨hb, hover⟩ := List.mem_filter.1 hb
        -- nobody else has the id, so that it would be the call itself that does not hold on
        obtain rfl : b = c := List.inj_on_of_nodup_map hnodup hb hc hid
        simp [hholds] at hover
      simp only [hnot, not_false_eq_true, decide_true, hlisted c hc hholds, Bool.and_self]

/-! ### Calls that have not come back -/

/-- Whether the call that carries out a run is under way: it has begun, and has neither returned nor
raised. -/
def isUnderWay (e : Engine) (k : Nat) : Bool :=
  (e.runs[k]?.bind (·.executions[0]?)).any (·.ending.isNone)

/-- A run was executed. -/
def Begun (e : Engine) (k : Nat) : Prop :=
  ∃ r x, e.runs[k]? = some r ∧ r.executions[0]? = some x

theorem Begun.carries {k : Nat} (h : e.Begun k) (hc : e.Carries e') : e'.Begun k := by
  obtain ⟨r, x, hr, hx⟩ := h
  obtain ⟨r', hr', hrr'⟩ := hc k r hr
  obtain ⟨x', hx', _⟩ := hrr'.executions 0 x hx
  exact ⟨r', x', hr', hx'⟩

/-- A run that was executed goes on just as long as its call is under way. -/
theorem Begun.goesOn_eq {k : Nat} (h : e.Begun k) : e.goesOn k = e.isUnderWay k := by
  obtain ⟨r, x, hr, hx⟩ := h
  simp [goesOn, Engine.ending?, isUnderWay, hr, hx]

/-- A call that has come back does not come back to life. -/
theorem Carries.isUnderWay (hc : e.Carries e') {k : Nat} (hb : e.Begun k)
    (h : e'.isUnderWay k = true) : e.isUnderWay k = true := by
  rw [← (hb.carries hc).goesOn_eq] at h
  rw [← hb.goesOn_eq]
  cases hending : e.ending? k 0 with
  | none => simp [goesOn, hending]
  | some ending => simp [goesOn, hc.ending? hending] at h

/-- Of calls that are under way later, none has come back before. -/
theorem Carries.filter_isUnderWay (hc : e.Carries e') {calls : List (String × Nat)}
    (hb : ∀ c ∈ calls, e.Begun c.2) :
    (calls.filter fun c => e.isUnderWay c.2).filter (fun c => e'.isUnderWay c.2) =
      calls.filter fun c => e'.isUnderWay c.2 := by
  rw [List.filter_filter]
  refine List.filter_congr fun c hmem => ?_
  cases hunder : e'.isUnderWay c.2 with
  | false => rfl
  | true => simpa using hc.isUnderWay (hb c hmem) hunder

/-! ### Admission -/

/-- The entry of a call that was admitted: its id, and the run that it carries out. -/
def admission? (id : String) : Goal → Option (String × Nat)
  | .run k _ => some (id, k)
  | .dispatch _ | .over _ => none

/-- The calls that an event begins and that are admitted, in order. -/
def admits (e : Engine) : Event → List (String × Nat)
  | .run _ id p request config => (admission? id (e.run id p request config).2).toList
  | .dispatch _ idOf c request config =>
    match selection c request (config.getD {}) with
    | .error _ => []
    | .ok selected =>
      (selected.zip (e.runAll idOf request (config.getD {}) selected).2).filterMap
        fun x => admission? (idOf x.1) x.2
  | _ => []

/-- Whether the ids that an event makes up are fresh: no two of them are equal, and none of them is
active. -/
def isFresh (e : Engine) : Event → Bool
  | .dispatch _ idOf c request config =>
    match selection c request (config.getD {}) with
    | .error _ => true
    | .ok selected =>
      decide (selected.map idOf).Nodup && selected.all fun p => decide (idOf p ∉ e.activeIds)
  | _ => true

theorem isSome_active?_iff {id : String} : (e.active? id).isSome = true ↔ id ∈ e.activeIds := by
  simp [active?, activeIds]

/-- If no two entries have one id, whatever stands under an id is its active run. -/
theorem active?_eq_some_iff (hdistinct : e.activeIds.Nodup) {id : String} {k : Nat} :
    e.active? id = some k ↔ (id, k) ∈ e.register := by
  constructor
  · exact exists_mem_register
  · intro hmem
    obtain ⟨j, hj⟩ := Option.isSome_iff_exists.1
      (isSome_active?_iff.2 (List.mem_map_of_mem hmem : id ∈ e.activeIds))
    have hsame : (id, j) = (id, k) :=
      List.inj_on_of_nodup_map hdistinct (exists_mem_register hj) hmem rfl
    obtain rfl := (Prod.mk.inj hsame).2
    exact hj

/-- What the admission of calls under some of the ids makes of an engine: the calls stand behind all
others in the register, and their runs are executed. -/
structure Admission (e e' : Engine) (calls : List (String × Nat)) (ids : List String) : Prop where
  register : e'.register = e.register ++ calls
  begun : ∀ c ∈ calls, e'.Begun c.2
  ids : (calls.map Prod.fst).Sublist ids

/-- As long as the register stays as it is no call is admitted. -/
theorem Admission.of_register {ids : List String} (h : e'.register = e.register) :
    Admission e e' [] ids :=
  ⟨h.trans (List.append_nil _).symm, List.forall_mem_nil _, List.nil_sublist _⟩

theorem Admission.none (e : Engine) (ids : List String) : Admission e e [] ids :=
  .of_register rfl

theorem Admission.append {calls calls' : List (String × Nat)} {ids ids' : List String}
    (h : Admission d e calls ids) (h' : Admission e e' calls' ids') (hc : e.Carries e') :
    Admission d e' (calls ++ calls') (ids ++ ids') := by
  refine ⟨?_, fun c hcalls => ?_, ?_⟩
  · rw [h'.register, h.register, List.append_assoc]
  · rcases List.mem_append.1 hcalls with hold | hnew
    · exact (h.begun c hold).carries hc
    · exact h'.begun c hnew
  · rw [List.map_append]
    exact h.ids.append h'.ids

theorem admission_launch (e : Engine) (id : String) (p : Pipeline) (config : Option RunConfig) :
    Admission e (e.launch id p config).1 (admission? id (e.launch id p config).2).toList [id] := by
  cases hr : (Run.create id p (config.getD {})).execute with
  | error f =>
      simp only [launch, hr, admission?]
      exact .of_register (by rfl)
  | ok r =>
      simp only [launch, hr, admission?, Option.toList_some]
      obtain ⟨x, hx⟩ := Run.exists_execution_of_execute (Run.sound_create id p _) hr
      refine ⟨rfl, fun c hc => ?_, List.Sublist.refl _⟩
      obtain rfl := List.mem_singleton.1 hc
      exact ⟨r, x, by simp, hx⟩

theorem admission_runFresh (e : Engine) (id : String) (p : Pipeline) (request : Request)
    (config : Option RunConfig) :
    Admission e (e.runFresh id p request config).1
      (admission? id (e.runFresh id p request config).2).toList [id] := by
  unfold runFresh
  split
  · exact .none e _
  · exact .none e _
  · exact e.admission_launch id p config

theorem admission_run (e : Engine) (id : String) (p : Pipeline) (request : Request)
    (config : Option RunConfig) :
    Admission e (e.run id p request config).1
      (admission? id (e.run id p request config).2).toList [id] := by
  unfold run
  split
  · exact .none e _
  · exact .none e _
  · split
    · exact .none e _
    · exact e.admission_launch id p config

theorem admission_runAll (h : e.AllReachable) (idOf : Pipeline → String) (request : Request)
    (config : RunConfig) (ps : List Pipeline) :
    Admission e (e.runAll idOf request config ps).1
      ((ps.zip (e.runAll idOf request config ps).2).filterMap fun x => admission? (idOf x.1) x.2)
      (ps.map idOf) := by
  induction ps generalizing e with
  | nil => exact .none e _
  | cons p rest ih =>
      have hfirst := e.admission_runFresh (idOf p) p request (some config)
      have hreach := h.runFresh (idOf p) p request (some config)
      have hrest := ih hreach
      obtain ⟨rs, hrs⟩ := Engine.exists_runs_runAll
        (e.runFresh (idOf p) p request (some config)).1 idOf request config rest
      have hboth := hfirst.append hrest (.append hreach hrs)
      rw [List.map_cons]
      simp only [runAll, List.zip_cons_cons, List.filterMap_cons]
      cases hadmission : admission? (idOf p) (e.runFresh (idOf p) p request (some config)).2 with
      | none =>
          rw [hadmission] at hboth
          exact hboth
      | some c =>
          rw [hadmission] at hboth
          exact hboth

theorem register_execute (e : Engine) (k : Nat) : (e.execute k).1.register = e.register := by
  unfold execute
  split
  · rfl
  · split <;> rfl

theorem register_cancel (e : Engine) (id : String) : (e.cancel id).1.register = e.register := by
  unfold cancel
  split <;> rfl

theorem register_abortTask (e : Engine) (task : String) :
    (e.abortTask task).1.register = e.register := by
  unfold abortTask
  split
  · rfl
  · split
    · rfl
    · exact List.foldlRecOn (motive := fun d : Engine => d.register = e.register) _ _ rfl
        fun d hd _ _ => hd

/-- An event admits calls, or all runs go on and those that have ended leave the register. -/
theorem register_after (h : e.AllReachable) {ev : Event} (he : e.after ev = some e') :
    (∃ ids, Admission e e' (e.admits ev) ids) ∨
      (e.admits ev = [] ∧ e'.register = e.register.filter fun c => e'.goesOn c.2) := by
  cases ev with
  | create id p config =>
      obtain rfl := Option.some.inj he
      exact .inl ⟨[], .of_register (by rfl)⟩
  | run task id p request config =>
      obtain rfl := Option.some.inj he
      have hrun := e.admission_run id p request config
      exact .inl ⟨_, hrun.register, hrun.begun, hrun.ids⟩
  | dispatch task idOf c request config =>
      obtain rfl := Option.some.inj he
      cases hs : selection c request (config.getD {}) with
      | error f =>
          refine .inl ⟨[], ?_⟩
          simp only [begun, dispatch, admits, hs]
          exact .of_register (by rfl)
      | ok selected =>
          have hall := admission_runAll h idOf request (config.getD {}) selected
          refine .inl ⟨selected.map idOf, ?_⟩
          simp only [begun, dispatch, admits, hs]
          exact ⟨hall.register, hall.begun, hall.ids⟩
  | execute task k =>
      obtain rfl := Option.some.inj he
      refine .inl ⟨[], .of_register ?_⟩
      exact e.register_execute k
  | cancel id =>
      obtain rfl := Option.some.inj he
      refine .inl ⟨[], .of_register ?_⟩
      exact e.register_cancel id
  | abort task =>
      obtain rfl := Option.some.inj he
      refine .inl ⟨[], .of_register ?_⟩
      exact e.register_abortTask task
  | within k ev =>
      obtain ⟨r, _, he⟩ := Option.bind_eq_some_iff.1 he
      obtain ⟨next, _, he⟩ := Option.bind_eq_some_iff.1 he
      obtain rfl := Option.some.inj he
      exact .inl ⟨[], .of_register (by rfl)⟩
  | settle =>
      obtain rfl := Option.some.inj he
      exact .inr ⟨rfl, rfl⟩

/-- The ids under which calls are admitted are not active, and no two of them are equal. -/
theorem ids_admits (h : e.AllReachable) {ev : Event} (hfresh : e.isFresh ev = true) :
    ((e.admits ev).map Prod.fst).Nodup ∧ ∀ c ∈ e.admits ev, c.1 ∉ e.activeIds := by
  have hnobody : (([] : List (String × Nat)).map Prod.fst).Nodup ∧
      ∀ c ∈ ([] : List (String × Nat)), c.1 ∉ e.activeIds :=
    ⟨List.nodup_nil, List.forall_mem_nil _⟩
  cases ev with
  | run task id p request config =>
      have hids := (e.admission_run id p request config).ids
      refine ⟨hids.nodup (List.nodup_singleton id), fun c hc => ?_⟩
      have hid : c.1 = id := List.mem_singleton.1 (hids.subset (List.mem_map_of_mem hc))
      rw [hid, ← isSome_active?_iff]
      -- had the id been active, the call would not have been admitted
      intro hactive
      simp only [admits, Engine.run, hactive, if_true] at hc
      split at hc <;> simp [admission?] at hc
  | dispatch task idOf c request config =>
      cases hs : selection c request (config.getD {}) with
      | error f =>
          simp only [admits, hs]
          exact hnobody
      | ok selected =>
          simp only [isFresh, hs, Bool.and_eq_true, decide_eq_true_eq, List.all_eq_true] at hfresh
          have hids := (admission_runAll h idOf request (config.getD {}) selected).ids
          simp only [admits, hs]
          refine ⟨hids.nodup hfresh.1, fun b hb => ?_⟩
          obtain ⟨p, hp, hid⟩ := List.mem_map.1 (hids.subset (List.mem_map_of_mem hb))
          rw [← hid]
          exact hfresh.2 p hp
  | create => exact hnobody
  | execute => exact hnobody
  | cancel => exact hnobody
  | abort => exact hnobody
  | within => exact hnobody
  | settle => exact hnobody

/-! ### What becomes of a call -/

theorem run_of_active {id : String} (h : id ∈ e.activeIds) (p : Pipeline) (request : Request)
    (config : Option RunConfig) :
    (e.run id p request config).1 = e ∧ (p.wants request = .ok true →
      (e.run id p request config).2 = .over (.fault (alreadyActive id))) := by
  have hactive := isSome_active?_iff.2 h
  constructor
  · unfold Engine.run
    split
    · rfl
    · rfl
    · rw [if_pos hactive]
  · intro hwants
    simp only [Engine.run, hwants, if_pos hactive]

theorem exists_run_of_not_active {id : String} (h : id ∉ e.activeIds) {p : Pipeline}
    {request : Request} {config : Option RunConfig} {stages : List StageReport}
    (hwants : p.wants request = .ok true)
    (hplan : Run.planOf p (config.getD {}) = .ok stages) :
    ∃ r, (Run.create id p (config.getD {})).execute = .ok r ∧
      e.run id p request config =
        ({ e with runs := e.runs ++ [r], register := e.register ++ [(id, e.runs.length)] },
          .run e.runs.length 0) := by
  have hinactive : ¬ (e.active? id).isSome = true := fun hactive =>
    h (isSome_active?_iff.1 hactive)
  obtain ⟨r, hr⟩ : ∃ r, (Run.create id p (config.getD {})).execute = .ok r := by
    obtain ⟨q, hq⟩ := Run.exists_launch (r := Run.create id p (config.getD {})) hplan
    exact ⟨q.settle, by simp [Run.execute, hq]⟩
  refine ⟨r, hr, ?_⟩
  simp only [Engine.run, hwants, if_neg hinactive, launch, hr, create]

theorem run_of_no_plan {id : String} (h : id ∉ e.activeIds) {p : Pipeline} {request : Request}
    {config : Option RunConfig} {f : Fault} (hwants : p.wants request = .ok true)
    (hplan : Run.planOf p (config.getD {}) = .error f) :
    (e.run id p request config).1.register = e.register ∧
      (e.run id p request config).2 = .over (.fault f) := by
  have hinactive : ¬ (e.active? id).isSome = true := fun hactive =>
    h (isSome_active?_iff.1 hactive)
  have hexecute : (Run.create id p (config.getD {})).execute = .error f := by
    simp [Run.execute, Run.launch, Run.create, hplan, bind, Except.bind, Functor.map, Except.map]
  simp only [Engine.run, hwants, if_neg hinactive, launch, hexecute, create, and_self]

theorem cancel_eq_true_iff (e : Engine) (id : String) :
    (e.cancel id).2 = true ↔ id ∈ e.activeIds := by
  rw [← isSome_active?_iff, Engine.cancel]
  split
  · rename_i k hk
    simp [hk]
  · rename_i hk
    simp [hk]

/-! ### The ledger -/

/-- An engine with all calls that were admitted, the first one first. -/
structure Ledger where
  engine : Engine := {}
  admitted : List (String × Nat) := []

namespace Ledger

/-- The calls that are under way. -/
def underWay (l : Ledger) : List (String × Nat) :=
  l.admitted.filter fun c => l.engine.isUnderWay c.2

/-- The ledger after an event, if that may happen.  Each call that comes back strikes out its id. -/
def after (l : Ledger) (ev : Event) : Option Ledger :=
  if l.engine.isFresh ev then
    (l.engine.after ev).map fun e =>
      let calls := l.underWay ++ l.engine.admits ev
      let gone := calls.filter fun c => !e.isUnderWay c.2
      let register := gone.foldl (fun register c => strike register c.1) e.register
      { engine := { e with register }
        admitted := l.admitted ++ l.engine.admits ev }
  else none

/-- The ledger after events, if they may happen one after the other. -/
def afterAll : Ledger → List Event → Option Ledger
  | l, [] => some l
  | l, ev :: evs => (l.after ev).bind (afterAll · evs)

/-- The ledgers that there are. -/
def Reachable (l : Ledger) : Prop := ∃ evs, ({} : Ledger).afterAll evs = some l

/-- What the register is kept as. -/
structure Kept (l : Ledger) : Prop where
  runs : l.engine.AllReachable
  begun : ∀ c ∈ l.admitted, l.engine.Begun c.2
  distinct : l.engine.activeIds.Nodup
  exact : l.engine.register = l.underWay

variable {l l' : Ledger} {ev : Event}

/-- What an event makes of a ledger, piece by piece. -/
theorem exists_of_after (hl : l.after ev = some l') :
    l.engine.isFresh ev = true ∧ ∃ e, l.engine.after ev = some e ∧ l'.engine.runs = e.runs ∧
      l'.admitted = l.admitted ++ l.engine.admits ev ∧
      l'.engine.register = ((l.underWay ++ l.engine.admits ev).filter
        fun c => !l'.engine.isUnderWay c.2).foldl (fun register c => strike register c.1)
          e.register := by
  simp only [after] at hl
  split at hl
  · rename_i hfresh
    obtain ⟨e, he, rfl⟩ := Option.map_eq_some_iff.1 hl
    exact ⟨hfresh, e, he, rfl, rfl, rfl⟩
  · cases hl

theorem Kept.carries (h : l.Kept) (hl : l.after ev = some l') :
    l'.engine.AllReachable ∧ l.engine.Carries l'.engine := by
  obtain ⟨_, e, he, hruns, _, _⟩ := exists_of_after hl
  have hreach : e.AllReachable := h.runs.after he
  refine ⟨fun r hr => ?_, (carries_after h.runs he).congr hruns⟩
  rw [hruns] at hr
  exact hreach r hr

/-- Every call that was admitted carries out a run. -/
theorem Kept.begun_of_after (h : l.Kept) (hl : l.after ev = some l') :
    ∀ c ∈ l'.admitted, l'.engine.Begun c.2 := by
  obtain ⟨_, e, he, hruns, hadmitted, _⟩ := exists_of_after hl
  intro c hc
  rw [hadmitted] at hc
  rcases List.mem_append.1 hc with hold | hnew
  · exact (h.begun c hold).carries (h.carries hl).2
  · rcases register_after h.runs he with ⟨ids, hadmission⟩ | ⟨hnobody, _⟩
    · exact (hadmission.begun c hnew).carries ((Carries.refl (h.runs.after he)).congr hruns)
    · rw [hnobody] at hnew
      cases hnew

/-- The register before anybody strikes out its id: of those who were under way or were admitted the
engine itself strikes out nobody, or just those who have come back. -/
theorem Kept.calls_of_after (h : l.Kept) (hl : l.after ev = some l') {e : Engine}
    (he : l.engine.after ev = some e) (hruns : l'.engine.runs = e.runs) :
    e.register = l.underWay ++ l.engine.admits ev ∨
      e.register = (l.underWay ++ l.engine.admits ev).filter fun c => l'.engine.isUnderWay c.2 := by
  rcases register_after h.runs he with ⟨ids, hadmission⟩ | ⟨hnobody, hleft⟩
  · exact .inl (hadmission.register.trans (by rw [h.exact]))
  · refine .inr ?_
    rw [hleft, hnobody, List.append_nil, h.exact]
    refine List.filter_congr fun c hc => ?_
    have hbegun := (h.begun c (List.mem_filter.1 hc).1).carries (h.carries hl).2
    rw [← hbegun.goesOn_eq, goesOn_congr (by rw [hruns])]

/-- What an event makes of the register: of the calls that were under way and those that were
admitted, those that have come back are struck out. -/
theorem Kept.register_of_after (h : l.Kept) (hl : l.after ev = some l') :
    ((l.underWay ++ l.engine.admits ev).map Prod.fst).Nodup ∧
      l'.engine.register = (l.underWay ++ l.engine.admits ev).filter
        fun c => l'.engine.isUnderWay c.2 := by
  obtain ⟨hfresh, e, he, hruns, hadmitted, hregister⟩ := exists_of_after hl
  have hnodup : ((l.underWay ++ l.engine.admits ev).map Prod.fst).Nodup := by
    obtain ⟨hnew, hinactive⟩ := ids_admits h.runs hfresh
    rw [List.map_append, ← h.exact]
    refine List.nodup_append.2 ⟨h.distinct, hnew, ?_⟩
    rintro id hid _ hid' rfl
    obtain ⟨c, hc, rfl⟩ := List.mem_map.1 hid'
    exact hinactive c hc hid
  refine ⟨hnodup, ?_⟩
  rw [hregister]
  rcases h.calls_of_after hl he hruns with hall | hleft
  · have htrue : e.register = (l.underWay ++ l.engine.admits ev).filter fun _ => true := by
      rw [List.filter_true, hall]
    rw [htrue]
    exact foldl_strike_filter hnodup fun _ _ _ => rfl
  · rw [hleft]
    exact foldl_strike_filter hnodup fun _ _ hunder => hunder

theorem Kept.after (h : l.Kept) (hl : l.after ev = some l') : l'.Kept := by
  obtain ⟨hnodup, hregister⟩ := h.register_of_after hl
  obtain ⟨_, _, _, _, hadmitted, _⟩ := exists_of_after hl
  refine ⟨(h.carries hl).1, h.begun_of_after hl, ?_, ?_⟩
  · rw [activeIds, hregister]
    exact hnodup.sublist (List.filter_sublist.map Prod.fst)
  · rw [hregister, underWay, underWay, hadmitted, List.filter_append, List.filter_append,
      (h.carries hl).2.filter_isUnderWay h.begun]

theorem Reachable.kept (h : l.Reachable) : l.Kept := by
  obtain ⟨evs, hevs⟩ := h
  have hfirst : ({} : Ledger).Kept :=
    ⟨List.forall_mem_nil _, List.forall_mem_nil _, List.nodup_nil, rfl⟩
  have hall : ∀ (evs : List Event) (l l' : Ledger), l.Kept → l.afterAll evs = some l' →
      l'.Kept := by
    intro evs
    induction evs with
    | nil =>
        intro l l' hl hevs
        exact Option.some.inj hevs ▸ hl
    | cons ev rest ih =>
        intro l l' hl hevs
        obtain ⟨q, hq, hrest⟩ := Option.bind_eq_some_iff.1 hevs
        exact ih q l' (hl.after hq) hrest
  exact hall evs _ l hfirst hevs

/-! ### Runs that go on at once -/

/-- What an event makes of the engine of a ledger, but for the register. -/
theorem engine_of_after (hl : l.after ev = some l') :
    ∃ e, l.engine.after ev = some e ∧ l'.engine = { e with register := l'.engine.register } := by
  simp only [after] at hl
  split at hl
  · obtain ⟨e, he, rfl⟩ := Option.map_eq_some_iff.1 hl
    exact ⟨e, he, rfl⟩
  · cases hl

/-- If all runs go on right after an event, the ledger has the engine as it is. -/
theorem Kept.engine_of_settle (h : l.Kept) {q : Ledger} (hl : l.after ev = some q)
    (hq : q.after .settle = some l') :
    (l.engine.after ev).bind (·.after .settle) = some l'.engine := by
  obtain ⟨e, he, hengine⟩ := engine_of_after hl
  obtain ⟨d, hd, hsettled⟩ := engine_of_after hq
  obtain rfl := Option.some.inj hd
  have hqk := h.after hl
  have hcarries := (hqk.carries hq).2
  have hsettle : e.settle = { q.engine.settle with register := e.settle.register } := by
    rw [hengine]
    rfl
  have hruns : l'.engine.runs = e.settle.runs := by
    rw [hsettled, hsettle]
  have hbegun : ∀ c ∈ l.underWay ++ l.engine.admits ev, q.engine.Begun c.2 := by
    intro c hc
    obtain ⟨_, _, _, _, hadmitted, _⟩ := exists_of_after hl
    refine h.begun_of_after hl c ?_
    rw [hadmitted]
    exact (List.filter_sublist.append (List.Sublist.refl _)).subset hc
  -- both registers are left with the calls that are under way in the end
  have hledger : l'.engine.register = (l.underWay ++ l.engine.admits ev).filter
      fun c => l'.engine.isUnderWay c.2 := by
    have hnobody : q.engine.admits .settle = [] := rfl
    rw [(hqk.register_of_after hq).2, hnobody, List.append_nil, ← hqk.exact,
      (h.register_of_after hl).2, hcarries.filter_isUnderWay hbegun]
  have hregister : e.settle.register = (l.underWay ++ l.engine.admits ev).filter
      fun c => l'.engine.isUnderWay c.2 := by
    have hgoes : ∀ c ∈ l.underWay ++ l.engine.admits ev,
        e.settle.goesOn c.2 = l'.engine.isUnderWay c.2 := by
      intro c hc
      rw [← ((hbegun c hc).carries hcarries).goesOn_eq, goesOn_congr (by rw [hruns])]
    have hfilter : e.settle.register = e.register.filter fun c => e.settle.goesOn c.2 := rfl
    rcases h.calls_of_after hl he (by rw [hengine]) with hall | hleft
    · rw [hfilter, hall]
      exact List.filter_congr hgoes
    · rw [hfilter, hleft, ← hcarries.filter_isUnderWay hbegun]
      exact List.filter_congr fun c hc => hgoes c (List.mem_filter.1 hc).1
  rw [he, Option.bind_some]
  exact congrArg some (by rw [hsettle, hregister, ← hledger, ← hsettled])

/-- Events after each of which all runs go on. -/
def atOnce (evs : List Event) : List Event := evs.flatMap fun ev => [ev, .settle]

/-- **As long as all runs go on right after every event, the ledger has the engine as it is.** -/
theorem Kept.engine_of_atOnce {evs : List Event} (h : l.Kept)
    (hl : l.afterAll (atOnce evs) = some l') : l.engine.afterAll (atOnce evs) = some l'.engine := by
  induction evs generalizing l with
  | nil => exact congrArg (Option.map Ledger.engine) hl
  | cons ev rest ih =>
      obtain ⟨q, hq, hl⟩ := Option.bind_eq_some_iff.1 hl
      obtain ⟨m, hm, hrest⟩ := Option.bind_eq_some_iff.1 hl
      obtain ⟨e, he, hsettled⟩ := Option.bind_eq_some_iff.1 (h.engine_of_settle hq hm)
      have hthen := ih ((h.after hq).after hm) hrest
      show (l.engine.after ev).bind (fun e => (e.after .settle).bind (·.afterAll (atOnce rest))) =
        some l'.engine
      rw [he, Option.bind_some, hsettled, Option.bind_some, hthen]

/-- What the register promises. -/
structure InOrder (l : Ledger) : Prop where
  distinct : l.engine.activeIds.Nodup
  /-- The register holds just the calls that have not come back, in the order of admission. -/
  exact : l.engine.register = l.underWay
  /-- A call under an active id is refused, and leaves everything as it is. -/
  refused : ∀ (id : String) (p : Pipeline) (request : Request) (config : Option RunConfig),
    id ∈ l.engine.activeIds → (l.engine.run id p request config).1 = l.engine ∧
      (p.wants request = .ok true →
        (l.engine.run id p request config).2 = .over (.fault (alreadyActive id)))
  /-- A call under any other id is admitted behind all others, unless its request sets nothing off
  or its pipeline has no plan. -/
  admitted : ∀ (id : String) (p : Pipeline) (request : Request) (config : Option RunConfig)
    (stages : List StageReport), id ∉ l.engine.activeIds → p.wants request = .ok true →
      Run.planOf p (config.getD {}) = .ok stages →
      ∃ r, (Run.create id p (config.getD {})).execute = .ok r ∧
        l.engine.run id p request config =
          ({ l.engine with
              runs := l.engine.runs ++ [r]
              register := l.engine.register ++ [(id, l.engine.runs.length)] },
            .run l.engine.runs.length 0)
  /-- A call that raises at once, since its pipeline has no plan, leaves the register as it is. -/
  raised : ∀ (id : String) (p : Pipeline) (request : Request) (config : Option RunConfig)
    (f : Fault), id ∉ l.engine.activeIds → p.wants request = .ok true →
      Run.planOf p (config.getD {}) = .error f →
      (l.engine.run id p request config).1.register = l.engine.register ∧
        (l.engine.run id p request config).2 = .over (.fault f)
  /-- As soon as a call has come back, its id may be used again. -/
  freed : ∀ (ev : Event) (l' : Ledger) (id : String) (k : Nat), (id, k) ∈ l.engine.register →
    l.after ev = some l' → l'.engine.isUnderWay k = false → id ∉ l'.engine.activeIds
  found : ∀ id k, l.engine.active? id = some k ↔ (id, k) ∈ l.engine.register
  cancelled : ∀ id, (l.engine.cancel id).2 = true ↔ id ∈ l.engine.activeIds

/-- The id of a call that has come back is not active. -/
theorem Kept.not_mem_activeIds (h : l.Kept) (hl : l.after ev = some l') {id : String} {k : Nat}
    (hactive : (id, k) ∈ l.engine.register) (hover : l'.engine.isUnderWay k = false) :
    id ∉ l'.engine.activeIds := by
  obtain ⟨hnodup, hregister⟩ := h.register_of_after hl
  intro hmem
  obtain ⟨c, hc, hid⟩ := List.mem_map.1 hmem
  rw [hregister] at hc
  obtain ⟨hc, hunder⟩ := List.mem_filter.1 hc
  have hk : (id, k) ∈ l.underWay ++ l.engine.admits ev := by
    rw [h.exact] at hactive
    exact List.mem_append_left _ hactive
  -- two calls under one id are one call
  obtain rfl : c = (id, k) := List.inj_on_of_nodup_map hnodup hc hk hid
  rw [hover] at hunder
  cases hunder

/-- **The register always holds just the calls that have not come back**, in the order of their
admission and each under an id of its own.  A call under an active id is refused and changes
nothing, the id of a call that has come back may be used again, and a cancel finds just the active
ids. -/
theorem Reachable.inOrder (h : l.Reachable) : l.InOrder where
  distinct := h.kept.distinct
  exact := h.kept.exact
  refused _ p request config hid := run_of_active hid p request config
  admitted _ _ _ _ _ hid hwants hplan := exists_run_of_not_active hid hwants hplan
  freed _ _ _ _ hactive hl hover := h.kept.not_mem_activeIds hl hactive hover
  raised _ _ _ _ _ hid hwants hplan := run_of_no_plan hid hwants hplan
  found _ _ := active?_eq_some_iff h.kept.distinct
  cancelled := l.engine.cancel_eq_true_iff

/-- A pipeline is carried out, and a second call under its id is refused.  When the first one has
been aborted, a third call is admitted. -/
theorem inOrder_sameId :
    ∃ l : Ledger, l.Reachable ∧ l.admitted = [("same", 0), ("same", 1)] ∧
      l.engine.activeIds = ["same"] ∧ l.InOrder := by
  have hrun : (({} : Ledger).afterAll
      [.run "first" "same" Run.buildThenTest (.manual {}) none,
        .run "second" "same" Run.buildThenTest (.manual {}) none, .abort "first",
        .within 0 (.answer ⟨0, "build", "compile"⟩ (.run .dropped)), .settle,
        .run "third" "same" Run.buildThenTest (.manual {}) none]).any (fun l =>
      l.admitted == [("same", 0), ("same", 1)] && l.engine.activeIds == ["same"]) = true := by
    decide +kernel
  obtain ⟨l, hl, hcond⟩ := (Option.any_eq_true _ _).1 hrun
  obtain ⟨hadmitted, hactive⟩ := Bool.and_eq_true_iff.1 hcond
  have hreach : l.Reachable := ⟨_, hl⟩
  exact ⟨l, hreach, beq_iff_eq.1 hadmitted, beq_iff_eq.1 hactive, hreach.inOrder⟩

end Ledger

end Engine

end Conveyor
