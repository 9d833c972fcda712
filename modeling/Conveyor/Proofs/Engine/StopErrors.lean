/-
**Nobody can tell whether a service was stopped without an error.**

When the stop of a service raises an exception, the worker that waits for it notes the text of the
exception and goes on to the next service, and its instance comes out as it would have come out anyway.
So two engines go the same way when they are given the same to do and their surroundings differ only in
which stops return and which ones raise; only the surroundings themselves know which services are still
up.  An exception that has no text cannot be noted, and then everything can be told from outside.

Main definitions:

* `Conveyor.Reply.Alike`, `Conveyor.Answer.Alike`, `Conveyor.Playbook.Alike` — answers, and surroundings,
  that differ only in whether stops return or raise an exception that has a text;
* `Conveyor.Rehearsal.Cue`, `Conveyor.Rehearsal.playAll` — what is done to an engine from outside, and
  where that leads;
* `Conveyor.Rehearsal.Alike` — two rehearsals that are at the same point;
* `Conveyor.Rehearsal.SameResults` — the same calls, reports and samples.

Main results:

* `Conveyor.Engine.Event.Alike.after_eq` — an engine takes both answers in the same way;
* `Conveyor.Rehearsal.Alike.play` — rehearsals stay at the same point whatever is done to both;
* `Conveyor.Rehearsal.same_results_of_stops` — **errors of stops do not show in the results**;
* `Conveyor.Rehearsal.exists_stop_changing_results` — unless one of them cannot be told.
-/

import Conveyor.Proofs.Engine.Conserved
import Conveyor.Proofs.Metrics.Untimed
import Mathlib.Data.List.Forall2

set_option autoImplicit false

namespace Conveyor

/-! ### Answers -/

/-- Two answers that differ at most in whether a stop has returned or has raised an exception.  A stop
that was called off did neither. -/
inductive Reply.Alike : Reply → Reply → Prop
  | refl (reply : Reply) : Alike reply reply
  | stop {reply reply' : StopReply} (h : reply ≠ .dropped) (h' : reply' ≠ .dropped) :
      Alike (.stop reply) (.stop reply')

/-- Two answers that differ at most in whether a stop has returned or has raised an exception that has a
text. -/
inductive Answer.Alike : Answer Reply → Answer Reply → Prop
  | refl (answer : Answer Reply) : Alike answer answer
  | reply {reply reply' : Reply} (h : reply.Alike reply') : Alike (.reply reply) (.reply reply')

/-- A worker goes on when a stop is over, whatever came of it. -/
theorem Worker.stopped_eq {reply reply' : StopReply} (h : reply ≠ .dropped)
    (h' : reply' ≠ .dropped) (w : Worker) : w.stopped reply = w.stopped reply' := by
  have hover (reply : StopReply) (h : reply ≠ .dropped) : w.stopped reply = w.stopped .stopped := by
    cases reply with
    | stopped => rfl
    | raised f => rfl
    | dropped => exact absurd rfl h
  exact (hover reply h).trans (hover reply' h').symm

/-- Whether somebody waits for an answer depends on the kind of the call. -/
theorem Point.awaits_eq_of_alike {reply reply' : Reply} (h : reply.Alike reply') (p : Point) :
    p.awaits reply = p.awaits reply' := by
  cases h with
  | refl => rfl
  | stop h h' => cases p <;> rfl

namespace Run

/-- Two events that differ at most in answers that are alike. -/
inductive Event.Alike : Event → Event → Prop
  | refl (ev : Event) : Alike ev ev
  | answer (t : Ticket) {reply reply' : Reply} (h : reply.Alike reply') :
      Alike (.answer t reply) (.answer t reply')

theorem answered_eq_of_alike {reply reply' : Reply} (h : reply.Alike reply') (r : Run)
    (t : Ticket) : r.answered t reply = r.answered t reply' := by
  cases h with
  | refl => rfl
  | stop h h' => exact congrArg (r.turn t) (funext fun w => w.stopped_eq h h')

theorem awaits_eq_of_alike {reply reply' : Reply} (h : reply.Alike reply') (r : Run)
    (t : Ticket) : r.awaits t reply = r.awaits t reply' := by
  simp only [awaits, Point.awaits_eq_of_alike h]

/-- A run takes both events in the same way. -/
theorem Event.Alike.after_eq {ev ev' : Event} (h : ev.Alike ev') (r : Run) :
    r.after ev = r.after ev' := by
  cases h with
  | refl => rfl
  | answer t h => simp only [after, answered_eq_of_alike h, awaits_eq_of_alike h]

end Run

namespace Engine

/-- Two events that differ at most in answers that are alike. -/
inductive Event.Alike : Event → Event → Prop
  | refl (ev : Event) : Alike ev ev
  | within (k : Nat) {ev ev' : Run.Event} (h : ev.Alike ev') : Alike (.within k ev) (.within k ev')

/-- An engine takes both events in the same way. -/
theorem Event.Alike.after_eq {ev ev' : Event} (h : ev.Alike ev') (e : Engine) :
    e.after ev = e.after ev' := by
  cases h with
  | refl => rfl
  | within k h => simp only [after, h.after_eq]

end Engine

/-! ### Surroundings -/

/-- Two manners of answering, at the same time, by answers that are alike. -/
inductive Manner.Alike : Manner (Answer Reply) → Manner (Answer Reply) → Prop
  | answers {answer answer' : Answer Reply} (h : answer.Alike answer') :
      Alike (.answers answer) (.answers answer')
  | waits {onCancel onCancel' : Option (Answer Reply)}
      (h : Option.Rel Answer.Alike onCancel onCancel') : Alike (.waits onCancel) (.waits onCancel')

theorem Manner.Alike.refl (m : Manner (Answer Reply)) : m.Alike m := by
  cases m with
  | answers answer => exact .answers (.refl answer)
  | waits onCancel =>
      cases onCancel with
      | none => exact .waits .none
      | some answer => exact .waits (.some (.refl answer))

/-- The manner in which a stop is answered, as that of any call. -/
def Manner.ofStop (m : Manner (Answer StopReply)) : Manner (Answer Reply) := m.map (·.map .stop)

namespace Playbook

/-- Surroundings that differ only in whether stops return or raise an exception that has a text. -/
def Alike (b b' : Playbook) : Prop := ∀ c, (b.manner c).Alike (b'.manner c)

/-- Books are alike when they have the same entries but for what comes of stopping a service. -/
theorem alike_of_stops {b : Playbook} {stops : List (String × Manner (Answer StopReply))}
    (h : List.Forall₂ (fun x y => x.1 = y.1 ∧ x.2.ofStop.Alike y.2.ofStop) b.stops stops) :
    b.Alike { b with stops } := by
  intro c
  cases c with
  | start service => exact .refl _
  | run command args dir => exact .refl _
  | stop name =>
      -- the entry that is found stands at the same place in both
      have hfound (entries entries' : List (String × Manner (Answer StopReply)))
          (h : List.Forall₂ (fun x y => x.1 = y.1 ∧ x.2.ofStop.Alike y.2.ofStop) entries entries') :
          ((lookup entries name).getD (.answers (.reply .stopped))).ofStop.Alike
            ((lookup entries' name).getD (.answers (.reply .stopped))).ofStop := by
        induction h with
        | nil => exact .refl _
        | @cons x y xs ys hxy _ ih =>
            by_cases hname : x.1 = name
            · have hname' : y.1 = name := hxy.1 ▸ hname
              simpa [lookup, hname, hname'] using hxy.2
            · have hname' : y.1 ≠ name := hxy.1 ▸ hname
              simpa [lookup, hname, hname'] using ih
      exact hfound b.stops stops h

end Playbook

namespace Rehearsal

/-- What is done to a rehearsal from outside. -/
inductive Cue where
  /-- Something happens to the engine. -/
  | event (ev : Engine.Event)
  /-- A call that waits is released with an answer. -/
  | release (kind : CallKind) (key : String) (owner : Option String) (answer : Answer Reply)
  /-- Everything goes on as far as it can. -/
  | proceed

/-- The rehearsal after a cue.  What cannot happen does not. -/
def play (s : Rehearsal) : Cue → Rehearsal
  | .event ev => { s with engine := (s.engine.after ev).getD s.engine }
  | .release kind key owner answer => (s.release kind key owner answer).1
  | .proceed => s.proceed

/-- The rehearsal after cues. -/
def playAll (s : Rehearsal) (cues : List Cue) : Rehearsal := cues.foldl play s

/-- Two cues that differ at most in answers that are alike. -/
inductive Cue.Alike : Cue → Cue → Prop
  | event {ev ev' : Engine.Event} (h : ev.Alike ev') : Alike (.event ev) (.event ev')
  | release (kind : CallKind) (key : String) (owner : Option String) {answer answer' : Answer Reply}
      (h : answer.Alike answer') :
      Alike (.release kind key owner answer) (.release kind key owner answer')
  | proceed : Alike .proceed .proceed

/-- Two rehearsals at the same point, in surroundings that are alike.  Which services are up may
differ. -/
structure Alike (s s' : Rehearsal) : Prop where
  engine : s'.engine = s.engine
  book : s.book.Alike s'.book
  seen : s'.seen = s.seen
  inbox : s'.inbox = s.inbox
  waiting : s'.waiting = s.waiting

namespace Alike

variable {s s' : Rehearsal}

theorem isLive_eq (h : s.Alike s') : s'.isLive = s.isLive := by
  funext p
  simp only [isLive, h.engine]

theorem isInterrupted_eq (h : s.Alike s') : s'.isInterrupted = s.isInterrupted := by
  funext p
  simp only [isInterrupted, h.engine]

theorem ownerOf_eq (h : s.Alike s') : s'.ownerOf = s.ownerOf := by
  funext p
  simp only [ownerOf, h.engine]

theorem fresh_eq (h : s.Alike s') : s'.fresh = s.fresh := by
  simp only [fresh, h.engine, h.seen]

theorem bound_eq (h : s.Alike s') : s'.bound = s.bound := by
  simp only [bound, h.engine]

theorem find?_eq (h : s.Alike s') (kind : CallKind) (key : String) (owner : Option String) :
    s'.find? kind key owner = s.find? kind key owner := by
  simp only [find?, h.waiting, h.ownerOf_eq]

/-- A call is put with those that are answered at once, or with those that wait, in both. -/
theorem post (h : s.Alike s') (p : Pending) : (s.post p).Alike (s'.post p) := by
  have hmanner := h.book p.call
  simp only [Rehearsal.post]
  generalize s.book.manner p.call = m, s'.book.manner p.call = m' at hmanner
  cases hmanner with
  | answers => exact { h with inbox := congrArg (· ++ [p]) h.inbox }
  | waits => exact { h with waiting := congrArg (· ++ [p]) h.waiting }

theorem look (h : s.Alike s') : s.look.Alike s'.look := by
  have hlive : Alike { s with inbox := s.inbox.filter s.isLive, waiting := s.waiting.filter s.isLive }
      { s' with inbox := s'.inbox.filter s'.isLive, waiting := s'.waiting.filter s'.isLive } :=
    { h with
      inbox := by simp only [h.inbox, h.isLive_eq]
      waiting := by simp only [h.waiting, h.isLive_eq] }
  have hposted : Alike (s.fresh.foldl Rehearsal.post { s with
        inbox := s.inbox.filter s.isLive, waiting := s.waiting.filter s.isLive })
      (s'.fresh.foldl Rehearsal.post { s' with
        inbox := s'.inbox.filter s'.isLive, waiting := s'.waiting.filter s'.isLive }) := by
    rw [h.fresh_eq]
    exact List.foldl_rel hlive fun p _ _ _ ht => ht.post p
  exact { hposted with seen := congrArg (·.runs.map fun r => r.log.length) h.engine }

/-- An answer goes to who waits for it. -/
theorem engine_give_reply (s : Rehearsal) (p : Pending) (reply : Reply) :
    (s.give p (.reply reply)).engine = s.engine.modifyRun p.run (·.answered p.ticket reply) := by
  cases reply <;> rfl

theorem engine_give_eq (h : s.Alike s') (p : Pending) {answer answer' : Answer Reply}
    (ha : answer.Alike answer') : (s'.give p answer').engine = (s.give p answer).engine := by
  cases ha with
  | refl => simp only [Rehearsal.give, h.engine]
  | reply hr =>
      rw [engine_give_reply, engine_give_reply, h.engine]
      exact congrArg (s.engine.modifyRun p.run)
        (funext fun r => (Run.answered_eq_of_alike hr r p.ticket).symm)

theorem give (h : s.Alike s') (p : Pending) {answer answer' : Answer Reply}
    (ha : answer.Alike answer') : (s.give p answer).Alike (s'.give p answer') :=
  { h with engine := h.engine_give_eq p ha }

/-- A call that is called off is answered alike. -/
theorem calledOff (h : s.Alike s') (p : Pending) : (s.calledOff p).Alike (s'.calledOff p) := by
  have hmanner := h.book p.call
  simp only [Rehearsal.calledOff]
  generalize s.book.manner p.call = m, s'.book.manner p.call = m' at hmanner
  cases hmanner with
  | answers => exact .refl _
  | waits hoff =>
      cases hoff with
      | none => exact .refl _
      | some hanswer => exact hanswer

/-- The same calls are answered next, or none. -/
theorem answerSome? (h : s.Alike s') : Option.Rel Alike s.answerSome? s'.answerSome? := by
  unfold Rehearsal.answerSome?
  simp only [h.inbox, h.waiting, h.isInterrupted_eq]
  have hleft (inbox waiting : List Pending) :
      Alike { s with inbox, waiting } { s' with inbox, waiting } :=
    { h with inbox := rfl, waiting := rfl }
  -- either nothing was called off and the first call is answered, or all that was called off is
  split
  · split
    · exact .none
    · rename_i p rest _
      have hmanner := h.book p.call
      generalize s.book.manner p.call = m, s'.book.manner p.call = m' at hmanner
      cases hmanner with
      | answers hanswer => exact .some ((hleft rest s.waiting).give p hanswer)
      | waits => exact .some (hleft rest s.waiting)
  · exact .some (List.foldl_rel (hleft _ _) fun p _ _ _ ht => ht.give p (h.calledOff p))

theorem settle (h : s.Alike s') : s.settle.Alike s'.settle := by
  have hsettled : Alike { s with engine := s.engine.settle } { s' with engine := s'.engine.settle } :=
    { h with engine := congrArg Engine.settle h.engine }
  exact hsettled.look

theorem proceedFor (h : s.Alike s') (n : Nat) : (s.proceedFor n).Alike (s'.proceedFor n) := by
  induction n generalizing s s' with
  | zero => exact h
  | succ n ih =>
      have hnext := h.answerSome?
      simp only [Rehearsal.proceedFor]
      generalize s.answerSome? = next, s'.answerSome? = next' at hnext
      cases hnext with
      | none => exact h
      | some hnext => exact ih hnext.settle

theorem proceed (h : s.Alike s') : s.proceed.Alike s'.proceed := by
  unfold Rehearsal.proceed
  rw [h.bound_eq]
  exact h.settle.proceedFor _

theorem release (h : s.Alike s') (kind : CallKind) (key : String) (owner : Option String)
    {answer answer' : Answer Reply} (ha : answer.Alike answer') :
    (s.release kind key owner answer).1.Alike (s'.release kind key owner answer').1 := by
  simp only [Rehearsal.release, h.find?_eq]
  split
  · exact h
  · rename_i p _
    have hleft : Alike { s with waiting := s.waiting.erase p }
        { s' with waiting := s'.waiting.erase p } :=
      { h with waiting := congrArg (·.erase p) h.waiting }
    exact hleft.give p ha

/-- **Rehearsals stay at the same point whatever is done to both.** -/
theorem play (h : s.Alike s') {cue cue' : Cue} (hcue : cue.Alike cue') :
    (s.play cue).Alike (s'.play cue') := by
  cases hcue with
  | event hev => exact { h with engine := by simp only [Rehearsal.play, h.engine, hev.after_eq] }
  | release kind key owner ha => exact h.release kind key owner ha
  | proceed => exact h.proceed

theorem playAll (h : s.Alike s') {cues cues' : List Cue} (hcues : List.Forall₂ Cue.Alike cues cues') :
    (s.playAll cues).Alike (s'.playAll cues') := by
  induction hcues generalizing s s' with
  | nil => exact h
  | cons hcue _ ih => exact ih (h.play hcue)

end Alike

/-! ### Results -/

/-- Two rehearsals that have come to the same results. -/
structure SameResults (s s' : Rehearsal) : Prop where
  /-- In every run the same calls were made, and called off, in the same order. -/
  calls : s'.engine.runs.map Run.log = s.engine.runs.map Run.log
  waiting : s'.waiting = s.waiting
  reports : s'.engine.runs.map Run.reports = s.engine.runs.map Run.reports
  /-- Everything was measured equally often, and in the same order. -/
  tally : s'.engine.runs.map Run.tally = s.engine.runs.map Run.tally
  /-- The tasks have ended in the same way, or go on. -/
  ends : s'.engine.tasks.map (fun t => (t.1, s'.engine.taskEnd? t.2)) =
    s.engine.tasks.map fun t => (t.1, s.engine.taskEnd? t.2)
  /-- What took equally long leaves the same samples, whatever was noted before. -/
  samples : ∀ (reg : Metrics.Registry) (rs : List Reading),
    reg.noteAll s'.engine.pipelineOf rs = reg.noteAll s.engine.pipelineOf rs
  /-- Whatever the durations, all other samples are the same. -/
  untimed : ∀ (reg : Metrics.Registry) (rs rs' : List Reading),
    rs'.map Reading.untimed = rs.map Reading.untimed →
    (reg.noteAll s'.engine.pipelineOf rs').untimed = (reg.noteAll s.engine.pipelineOf rs).untimed

theorem Alike.sameResults {s s' : Rehearsal} (h : s.Alike s') : s.SameResults s' where
  calls := by rw [h.engine]
  waiting := h.waiting
  reports := by rw [h.engine]
  tally := by rw [h.engine]
  ends := by rw [h.engine]
  samples reg rs := by rw [h.engine]
  untimed reg rs rs' hrs := by
    rw [h.engine]
    exact Metrics.Registry.untimed_noteAll rfl _ hrs

/-- **Errors of stops do not show in the results**: when the same is done to an engine in surroundings
that differ only in which stops return and which ones raise an exception that has a text, at once or when
they are released, it makes the same calls and comes to the same reports and the same samples; it is the
very same engine. -/
theorem same_results_of_stops (e : Engine) {b b' : Playbook} (hbook : b.Alike b')
    {cues cues' : List Cue} (hcues : List.Forall₂ Cue.Alike cues cues') :
    (playAll { engine := e, book := b' } cues').engine =
        (playAll { engine := e, book := b } cues).engine ∧
      (playAll { engine := e, book := b } cues).SameResults
        (playAll { engine := e, book := b' } cues') := by
  have hfirst : Alike { engine := e, book := b } { engine := e, book := b' } :=
    { engine := rfl, book := hbook, seen := rfl, inbox := rfl, waiting := rfl }
  have hlast := hfirst.playAll hcues
  exact ⟨hlast.engine, hlast.sameResults⟩

/-- Surroundings in which one service starts and the other one starts halfway; the stop of the second
one is answered at once, that of the first one when it is released. -/
def halfUp (reply : StopReply) : Playbook :=
  { services := [("redis", .answers (.half (.value "no port")))]
    stops := [("db", .waits none), ("cache", .answers (.reply reply))] }

/-- A job with two services is begun, and the stop that waits is released. -/
def stoppingDb (reply : StopReply) : List Cue :=
  [.event (.run "first" "r" Run.twoServices (.manual {}) none), .proceed,
    .release .stop "db" none (.reply (.stop reply)), .proceed]

/-- A job fails because a service does not start, whether both services can be stopped or stay up. -/
theorem same_results_of_stops_halfUp :
    ∃ s s' : Rehearsal, s = playAll { book := halfUp .stopped } (stoppingDb .stopped) ∧
      s' = playAll { book := halfUp (.raised (.value "boom")) }
        (stoppingDb (.raised (.value "boom"))) ∧
      s'.engine = s.engine ∧ s.SameResults s' ∧
      s.up.map Prod.snd = [] ∧ s'.up.map Prod.snd = ["db", "cache"] ∧
      (s.engine.runs.flatMap Run.reports).map (·.status) = [.failed] := by
  have hstop : (Answer.reply (.stop .stopped)).Alike (.reply (.stop (.raised (.value "boom")))) :=
    .reply (.stop (by simp) (by simp))
  have hbook : (halfUp .stopped).Alike (halfUp (.raised (.value "boom"))) :=
    Playbook.alike_of_stops (.cons ⟨rfl, .refl _⟩ (.cons ⟨rfl, .answers hstop⟩ .nil))
  have hcues : List.Forall₂ Cue.Alike (stoppingDb .stopped)
      (stoppingDb (.raised (.value "boom"))) :=
    .cons (.event (.refl _)) (.cons .proceed (.cons (.release _ _ _ hstop) (.cons .proceed .nil)))
  obtain ⟨hengine, hresults⟩ := same_results_of_stops {} hbook hcues
  refine ⟨_, _, rfl, rfl, hengine, hresults, ?_, ?_, ?_⟩
  · decide +kernel
  · decide +kernel
  · decide +kernel

/-- Surroundings in which the stop of one service is answered in a manner of its own. -/
def stoppingCache (answer : Answer StopReply) : Playbook := { stops := [("cache", .answers answer)] }

/-- What comes of an exception whose text is a number. -/
def noText : Fault := .outside "TypeError" "__str__ returned non-string (type int)"

/-- An exception that has no text shows in the results: the job fails, and the service that was started
first is never stopped. -/
theorem exists_stop_changing_results :
    ∃ s s' : Rehearsal, ∃ cues : List Cue,
      s = playAll { book := stoppingCache (.reply .stopped) } cues ∧
      s' = playAll { book := stoppingCache (.untold noText) } cues ∧
      (s.engine.runs.flatMap Run.reports).map (·.status) = [.succeeded] ∧
      (s'.engine.runs.flatMap Run.reports).map (·.status) = [.failed] ∧
      s.up = [] ∧ s'.up.map Prod.snd = ["db", "cache"] ∧ ¬s.SameResults s' := by
  refine ⟨_, _, [.event (.run "first" "r" Run.twoServices (.manual {}) none), .proceed], rfl, rfl, ?_,
    ?_, ?_, ?_, fun h => ?_⟩
  · decide +kernel
  · decide +kernel
  · decide +kernel
  · decide +kernel
  · have hlogs := congrArg (List.map List.length) h.calls
    revert hlogs
    decide +kernel

end Rehearsal

end Conveyor
