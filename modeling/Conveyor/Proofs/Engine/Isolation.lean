/-
**Runs do not interact.**

Every run has its own slots, its own request to cancel and its own instances; nothing but the
register is shared, and there every run has an entry of its own.  So whatever is addressed to one
run leaves every other one as it is.

Main definitions:

* `Conveyor.Engine.Event.IsFor` — what is addressed to one run;
* `Conveyor.Engine.SparesOthers` — nothing but one run changes;
* `Conveyor.Engine.IsAtRest` — an engine whose runs have gone on as far as they can;
* `Conveyor.Engine.Isolated` — what happens to one run is nothing to another one.

Main results:

* `Conveyor.Engine.Event.IsFor.sparesOthers` — what is addressed to one run changes no other one;
* `Conveyor.Engine.Reachable.registered` — no two entries of the register stand for one run;
* `Conveyor.Engine.Reachable.isolated` — **two active runs are isolated from each other**.
-/

import Conveyor.Proofs.Engine.Event
import Conveyor.Proofs.Run.Rest
import Conveyor.Proofs.Run.Returned

set_option autoImplicit false

namespace Conveyor.Engine

/-! ### What is addressed to one run -/

/-- Whether an event is addressed to one run: it is cancelled under its id, its task is aborted, or
something happens to it. -/
def Event.IsFor (e : Engine) (a : Nat) : Event → Prop
  | .cancel id => e.active? id = some a
  | .abort task => ∀ g, e.task? task = some g → ∀ c ∈ g.children, c.1 = a
  | .within k _ => k = a
  | .create .. | .run .. | .dispatch .. | .execute .. | .settle => False

/-- Nothing but one run changes. -/
structure SparesOthers (a : Nat) (e e' : Engine) : Prop where
  runs : ∀ b, b ≠ a → e'.runs[b]? = e.runs[b]?
  register : e'.register = e.register

theorem SparesOthers.refl (a : Nat) (e : Engine) : SparesOthers a e e := ⟨fun _ _ => rfl, rfl⟩

theorem SparesOthers.trans {a : Nat} {d e f : Engine} (h : SparesOthers a d e)
    (h' : SparesOthers a e f) : SparesOthers a d f :=
  ⟨fun b hb => (h'.runs b hb).trans (h.runs b hb), h'.register.trans h.register⟩

theorem sparesOthers_modifyRun (e : Engine) (a : Nat) (f : Run → Run) :
    SparesOthers a e (e.modifyRun a f) := by
  refine ⟨fun b hb => ?_, rfl⟩
  simp [modifyRun, Ne.symm hb]

variable {e e' : Engine} {a b : Nat} {ev : Event}

/-- **What is addressed to one run changes no other one.** -/
theorem Event.IsFor.sparesOthers (h : ev.IsFor e a) (he : e.after ev = some e') :
    SparesOthers a e e' := by
  cases ev with
  | cancel id =>
      obtain rfl := Option.some.inj he
      have hid : e.active? id = some a := h
      simp only [Engine.cancel, hid]
      exact sparesOthers_modifyRun e a _
  | abort task =>
      obtain rfl := Option.some.inj he
      cases hg : e.task? task with
      | none =>
          simp only [abortTask, hg]
          exact .refl a e
      | some g =>
          simp only [abortTask, hg]
          split
          · exact .refl a e
          · -- all that the task waits for is this run
            refine List.foldlRecOn (motive := SparesOthers a e) g.children _ (.refl a e) ?_
            intro d hd c hc
            rw [h g hg c hc]
            exact hd.trans (sparesOthers_modifyRun d a _)
  | within k ev =>
      obtain rfl : k = a := h
      obtain ⟨r, _, he⟩ := Option.bind_eq_some_iff.1 he
      obtain ⟨next, _, he⟩ := Option.bind_eq_some_iff.1 he
      obtain rfl := Option.some.inj he
      exact sparesOthers_modifyRun e k _
  | create => cases h
  | run => cases h
  | dispatch => cases h
  | execute => cases h
  | settle => cases h

/-! ### Going on -/

theorem getElem?_settle (e : Engine) (b : Nat) :
    e.settle.runs[b]? = e.runs[b]?.map Run.settle := by
  simp [settle]

/-- Whether a run goes on depends on nothing but itself. -/
theorem goesOn_congr (h : e'.runs[b]? = e.runs[b]?) : e'.goesOn b = e.goesOn b := by
  rw [goesOn, goesOn, ending?, ending?, h]

/-- The entries of the register that stand for a run. -/
def entriesOf (e : Engine) (b : Nat) : List (String × Nat) := e.register.filter (·.2 = b)

/-- A run keeps its entry just as long as it goes on. -/
theorem entriesOf_settle (e : Engine) (b : Nat) :
    e.settle.entriesOf b = if e.settle.goesOn b then e.entriesOf b else [] := by
  have hregister : e.settle.register = e.register.filter fun x => e.settle.goesOn x.2 := rfl
  rw [entriesOf, entriesOf, hregister, List.filter_filter]
  split
  · rename_i hon
    refine List.filter_congr fun x _ => ?_
    by_cases hx : x.2 = b <;> simp [hx, hon]
  · rename_i hoff
    refine List.filter_eq_nil_iff.2 fun x _ => ?_
    by_cases hx : x.2 = b <;> simp [hx, hoff]

/-- To go on makes of a run what it would have made of it if nothing had happened to the others. -/
theorem SparesOthers.settle (h : SparesOthers a e e') (hb : b ≠ a) :
    e'.settle.runs[b]? = e.settle.runs[b]? ∧ e'.settle.entriesOf b = e.settle.entriesOf b := by
  have hruns : e'.settle.runs[b]? = e.settle.runs[b]? := by
    rw [getElem?_settle, getElem?_settle, h.runs b hb]
  refine ⟨hruns, ?_⟩
  rw [entriesOf_settle, entriesOf_settle, goesOn_congr hruns, entriesOf, entriesOf, h.register]

/-- An engine whose runs have gone on as far as they can, and whose register is up to date. -/
structure IsAtRest (e : Engine) : Prop where
  runs : ∀ r ∈ e.runs, r.IsAtRest
  register : ∀ entry ∈ e.register, e.goesOn entry.2 = true

theorem isAtRest_settle (e : Engine) : e.settle.IsAtRest := by
  refine ⟨fun r hr => ?_, fun entry hentry => (List.mem_filter.1 hentry).2⟩
  obtain ⟨q, _, rfl⟩ := List.mem_map.1 hr
  exact q.isAtRest_settle

/-! ### The register -/

theorem exists_mem_register {id : String} (h : e.active? id = some b) :
    (id, b) ∈ e.register := by
  obtain ⟨entry, hentry, rfl⟩ := Option.map_eq_some_iff.1 h
  have hid : entry.1 = id := by simpa using List.find?_some hentry
  rw [← hid]
  exact List.mem_of_find?_eq_some hentry

/-- An active run that goes on stays active under its id. -/
theorem active?_settle {id : String} (h : e.active? id = some b)
    (hon : e.settle.goesOn b = true) : e.settle.active? id = some b := by
  have hregister : e.settle.register = e.register.filter fun x => e.settle.goesOn x.2 := rfl
  obtain ⟨entry, hentry, rfl⟩ := Option.map_eq_some_iff.1 h
  obtain ⟨hid, before, behind, hsplit, hbefore⟩ := List.find?_eq_some_iff_append.1 hentry
  refine Option.map_eq_some_iff.2 ⟨entry, ?_, rfl⟩
  -- whoever stood before it in the register had another id, and who is left of them still has
  have hkept : (entry :: behind).filter (fun x => e.settle.goesOn x.2) =
      entry :: behind.filter fun x => e.settle.goesOn x.2 := List.filter_cons_of_pos hon
  rw [hregister, hsplit, List.filter_append, hkept]
  refine List.find?_eq_some_iff_append.2 ⟨hid, _, _, rfl, fun x hx => ?_⟩
  exact hbefore x (List.mem_filter.1 hx).1

/-- Every run has an entry of its own, and there are no entries for runs that are not there. -/
structure Registered (e : Engine) : Prop where
  nodup : (e.register.map Prod.snd).Nodup
  there : ∀ entry ∈ e.register, entry.2 < e.runs.length

namespace Registered

/-- The register stays as it is, and no run is lost. -/
theorem congr (h : e.Registered) (hregister : e'.register = e.register)
    (hlength : e.runs.length ≤ e'.runs.length) : e'.Registered :=
  ⟨hregister ▸ h.nodup, fun entry hentry =>
    Nat.lt_of_lt_of_le (h.there entry (hregister ▸ hentry)) hlength⟩

theorem launch (h : e.Registered) (id : String) (p : Pipeline) (config : Option RunConfig) :
    (e.launch id p config).1.Registered := by
  unfold Engine.launch
  split
  · exact h.congr rfl (by simp [Engine.create])
  · refine ⟨?_, fun entry hentry => ?_⟩
    · -- the new run stands behind all the others, so that no entry stands for it yet
      rw [List.map_append]
      refine List.nodup_append.2 ⟨h.nodup, List.nodup_singleton _, ?_⟩
      rintro n hn m hm rfl
      obtain ⟨entry, hentry, rfl⟩ := List.mem_map.1 hn
      have hlt := h.there entry hentry
      have hlast : entry.2 = e.runs.length := by simpa using hm
      omega
    · simp only [List.mem_append, List.mem_singleton, List.length_append, List.length_singleton]
        at hentry ⊢
      rcases hentry with hentry | rfl
      · exact Nat.lt_succ_of_lt (h.there entry hentry)
      · exact Nat.lt_succ_self _

theorem runFresh (h : e.Registered) (id : String) (p : Pipeline) (request : Request)
    (config : Option RunConfig) : (e.runFresh id p request config).1.Registered := by
  unfold Engine.runFresh
  split
  · exact h
  · exact h
  · exact h.launch id p config

theorem runAll (h : e.Registered) (idOf : Pipeline → String) (request : Request)
    (config : RunConfig) (ps : List Pipeline) :
    (e.runAll idOf request config ps).1.Registered := by
  induction ps generalizing e with
  | nil => exact h
  | cons p rest ih => exact ih (h.runFresh (idOf p) p request (some config))

theorem modifyRun (h : e.Registered) (k : Nat) (f : Run → Run) : (e.modifyRun k f).Registered :=
  h.congr rfl (by simp [Engine.modifyRun])

theorem run (h : e.Registered) (id : String) (p : Pipeline) (request : Request)
    (config : Option RunConfig) : (e.run id p request config).1.Registered := by
  unfold Engine.run
  split
  · exact h
  · exact h
  · split
    · exact h
    · exact h.launch id p config

theorem dispatch (h : e.Registered) (idOf : Pipeline → String) (c : Catalog) (request : Request)
    (config : Option RunConfig) : (e.dispatch idOf c request config).1.Registered := by
  unfold Engine.dispatch
  dsimp only
  split
  · exact h
  · exact h.runAll idOf request _ _

theorem execute (h : e.Registered) (k : Nat) : (e.execute k).1.Registered := by
  unfold Engine.execute
  split
  · exact h
  · split
    · exact h
    · exact h.modifyRun k _

theorem cancel (h : e.Registered) (id : String) : (e.cancel id).1.Registered := by
  unfold Engine.cancel
  split
  · exact h.modifyRun _ _
  · exact h

theorem abortTask (h : e.Registered) (task : String) : (e.abortTask task).1.Registered := by
  unfold Engine.abortTask
  split
  · exact h
  · rename_i g _
    split
    · exact h
    · exact List.foldlRecOn g.children _ h fun d hd c _ => hd.modifyRun c.1 _

theorem settle (h : e.Registered) : e.settle.Registered := by
  refine ⟨h.nodup.sublist (List.filter_sublist.map _), fun entry hentry => ?_⟩
  have hlength : e.settle.runs.length = e.runs.length := by simp [Engine.settle]
  rw [hlength]
  exact h.there entry (List.mem_filter.1 hentry).1

theorem after (h : e.Registered) (he : e.after ev = some e') : e'.Registered := by
  cases ev with
  | create id p config =>
      obtain rfl := Option.some.inj he
      exact h.congr rfl (by simp [Engine.create])
  | run task id p request config =>
      obtain rfl := Option.some.inj he
      exact (h.run id p request config).congr rfl (Nat.le_refl _)
  | dispatch task idOf c request config =>
      obtain rfl := Option.some.inj he
      exact (h.dispatch idOf c request config).congr rfl (Nat.le_refl _)
  | execute task k =>
      obtain rfl := Option.some.inj he
      exact (h.execute k).congr rfl (Nat.le_refl _)
  | cancel id =>
      obtain rfl := Option.some.inj he
      exact h.cancel id
  | abort task =>
      obtain rfl := Option.some.inj he
      exact h.abortTask task
  | within k ev =>
      obtain ⟨r, _, he⟩ := Option.bind_eq_some_iff.1 he
      obtain ⟨next, _, he⟩ := Option.bind_eq_some_iff.1 he
      obtain rfl := Option.some.inj he
      exact h.modifyRun k _
  | settle =>
      obtain rfl := Option.some.inj he
      exact h.settle

end Registered

theorem Reachable.registered (h : e.Reachable) : e.Registered := by
  obtain ⟨evs, hevs⟩ := h
  exact afterAll_induction hevs ⟨List.nodup_nil, List.forall_mem_nil _⟩ fun _ _ _ hd he => hd.after he

/-- Runs that are active under different ids are different runs. -/
theorem Reachable.ne_of_active (h : e.Reachable) {idA idB : String} (ha : e.active? idA = some a)
    (hb : e.active? idB = some b) (hne : idA ≠ idB) : a ≠ b := by
  rintro rfl
  have hsame := List.inj_on_of_nodup_map h.registered.nodup (exists_mem_register ha)
    (exists_mem_register hb) rfl
  exact hne (Prod.mk.inj hsame).1

/-! ### Isolation -/

/-- Whether all of these events are addressed to one run, apart from the times in which all runs go
on. -/
def AllFor (a : Nat) : Engine → List Event → Prop
  | _, [] => True
  | e, ev :: evs =>
    (ev.IsFor e a ∨ ev = .settle) ∧ ∀ e', e.after ev = some e' → AllFor a e' evs

/-- What happens to one run is nothing to another one, which is active under an id. -/
structure Isolated (e : Engine) (a b : Nat) (id : String) : Prop where
  /-- What is addressed to the one run leaves the other one, with its report, its slots, its request
  to cancel and its log, and its entry in the register. -/
  atOnce : ∀ ev e', ev.IsFor e a → e.after ev = some e' →
    e'.runs[b]? = e.runs[b]? ∧ e'.entriesOf b = e.entriesOf b ∧ e'.active? id = some b
  /-- When all runs go on after that, the other one goes on as if nothing had happened. -/
  afterwards : ∀ ev e', ev.IsFor e a → e.after ev = some e' →
    e'.settle.runs[b]? = e.settle.runs[b]? ∧ e'.settle.entriesOf b = e.settle.entriesOf b
  /-- If it waited, it waits as long as nothing but the one run is addressed. -/
  ever : e.IsAtRest → ∀ evs e', e.AllFor a evs → e.afterAll evs = some e' →
    e'.runs[b]? = e.runs[b]? ∧ e'.active? id = some b

/-- As long as nothing but one run is addressed, the others stay as they are at rest. -/
theorem unchanged_of_allFor {id : String} (hab : b ≠ a) {r : Run} (hr : e.runs[b]? = some r)
    (hrest : r.IsAtRest) (hon : e.goesOn b = true) (hactive : e.active? id = some b)
    {evs : List Event} (hevs : e.AllFor a evs) (he : e.afterAll evs = some e') :
    e'.runs[b]? = some r ∧ e'.active? id = some b := by
  induction evs generalizing e with
  | nil =>
      obtain rfl := Option.some.inj he
      exact ⟨hr, hactive⟩
  | cons ev evs ih =>
      obtain ⟨d, hd, hthen⟩ := Option.bind_eq_some_iff.1 he
      obtain ⟨hev, hevs⟩ := hevs
      rcases hev with hfor | rfl
      · have hspares := hfor.sparesOthers hd
        have hsame := hspares.runs b hab
        refine ih (hsame.trans hr) ((goesOn_congr hsame).trans hon) ?_ (hevs d hd) hthen
        rw [active?, hspares.register]
        exact hactive
      · obtain rfl := Option.some.inj hd
        have hsame : e.settle.runs[b]? = e.runs[b]? := by
          rw [getElem?_settle, hr, Option.map_some, Run.settle_of_isAtRest hrest]
        have hon' := (goesOn_congr hsame).trans hon
        exact ih (hsame.trans hr) hon' (active?_settle hactive hon') (hevs _ hd) hthen

/-- **Two active runs are isolated from each other**: a cancel of the one, an abort of its task, and
whatever else happens to it, such as an answer to one of its calls, leave the other one as it is. -/
theorem Reachable.isolated (h : e.Reachable) {idA idB : String} (ha : e.active? idA = some a)
    (hb : e.active? idB = some b) (hne : idA ≠ idB) : e.Isolated a b idB := by
  have hab : b ≠ a := (h.ne_of_active ha hb hne).symm
  refine ⟨fun ev e' hfor he => ?_, fun ev e' hfor he => (hfor.sparesOthers he).settle hab,
    fun hrest evs e' hevs he => ?_⟩
  · have hspares := hfor.sparesOthers he
    refine ⟨hspares.runs b hab, ?_, ?_⟩
    · rw [entriesOf, entriesOf, hspares.register]
    · rw [active?, hspares.register]
      exact hb
  · have hentry := exists_mem_register hb
    have hthere := List.getElem?_eq_getElem (h.registered.there _ hentry)
    rw [hthere]
    exact unchanged_of_allFor hab hthere (hrest.runs _ (List.getElem_mem _))
      (hrest.register _ hentry) hb hevs he

/-- Two runs of one pipeline are at work.  The first one is cancelled and comes to its end, and the
second one does not notice. -/
theorem isolated_twoRuns :
    ∃ (e e' : Engine) (r : Run), e.Reachable ∧ e.active? "r" = some 0 ∧ e.active? "s" = some 1 ∧
      e.runs[1]? = some r ∧ r.cancelRequested = false ∧
      e.afterAll [.cancel "r", .within 0 (.answer ⟨0, "build", "compile"⟩ (.run .dropped)),
        .settle] = some e' ∧ e'.active? "r" = none ∧ e'.runs[1]? = some r ∧
      e'.active? "s" = some 1 := by
  have hrun : (({} : Engine).afterAll
      [.run "r" "r" Run.buildThenTest (.manual {}) none,
        .run "s" "s" Run.buildThenTest (.manual {}) none, .settle]).any (fun e =>
      e.active? "r" == some 0 && (e.active? "s" == some 1 &&
        (e.runs.all (fun r => r.step?.isNone) && (e.register.all (fun entry => e.goesOn entry.2) &&
          ((e.runs[1]?.any fun r => !r.cancelRequested) &&
            (e.afterAll [.cancel "r",
              .within 0 (.answer ⟨0, "build", "compile"⟩ (.run .dropped)), .settle]).any
              fun e' => (e'.active? "r").isNone))))) = true := by
    decide +kernel
  obtain ⟨e, he, hany⟩ := (Option.any_eq_true _ _).1 hrun
  obtain ⟨hr, hany⟩ := Bool.and_eq_true_iff.1 hany
  obtain ⟨hs, hany⟩ := Bool.and_eq_true_iff.1 hany
  obtain ⟨hruns, hany⟩ := Bool.and_eq_true_iff.1 hany
  obtain ⟨hregister, hany⟩ := Bool.and_eq_true_iff.1 hany
  obtain ⟨hsecond, hafter⟩ := Bool.and_eq_true_iff.1 hany
  obtain ⟨r, hget, hcalm⟩ := (Option.any_eq_true _ _).1 hsecond
  obtain ⟨e', he', hgone⟩ := (Option.any_eq_true _ _).1 hafter
  have hreach : e.Reachable := ⟨_, he⟩
  have hr' : e.active? "r" = some 0 := beq_iff_eq.1 hr
  have hs' : e.active? "s" = some 1 := beq_iff_eq.1 hs
  have hrest : e.IsAtRest := ⟨fun q hq => Option.isNone_iff_eq_none.1 (List.all_eq_true.1 hruns q hq),
    List.all_eq_true.1 hregister⟩
  have hfor : e.AllFor 0 [.cancel "r",
      .within 0 (.answer ⟨0, "build", "compile"⟩ (.run .dropped)), .settle] :=
    ⟨.inl hr', fun _ _ => ⟨.inl rfl, fun _ _ => ⟨.inr rfl, fun _ _ => trivial⟩⟩⟩
  have hsame := (hreach.isolated hr' hs' (by decide)).ever hrest _ e' hfor he'
  exact ⟨e, e', r, hreach, hr', hs', hget, by simpa using hcalm, he',
    Option.isNone_iff_eq_none.1 hgone, hsame.1.trans hget, hsame.2⟩

end Conveyor.Engine
