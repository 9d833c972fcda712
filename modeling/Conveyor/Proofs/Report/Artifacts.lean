/-
**The artifacts of a run.**

A run collects what its instances produced, if they succeeded.  Every path comes from a place: the
stage, the instance of the stage, and the path among those that the instance produced.  Places are in
the order of creation, and a path that was produced at several places is collected at the first one.

Main definitions:

* `Conveyor.RunReport.Origin`, `Conveyor.RunReport.Origin.Before` — places, and their order;
* `Conveyor.RunReport.ProducedAt`, `Conveyor.RunReport.FirstProducedAt` — what was produced where, and
  where it was produced first;
* `Conveyor.JobInstance.SameResult`, `Conveyor.StageReport.SameResults` — instances and stages that
  differ only in what instances produced that did not succeed.

Main results:

* `Conveyor.RunReport.map_snd_produced` — without its places, what was produced is what is collected;
* `Conveyor.RunReport.pairwise_produced` — the places increase;
* `Conveyor.RunReport.artifacts_of_sameResults` — who did not succeed adds nothing;
* `Conveyor.RunReport.aggregate_ordered_union` — **the artifacts are the ordered union of what was
  produced**;
* `Conveyor.Execution.aggregate_report_of_returned` — a run that returned has collected them.
-/

import Mathlib.Data.List.Forall2
import Conveyor.Proofs.Execution.Sound
import Conveyor.Proofs.FirstPlace

set_option autoImplicit false

namespace Conveyor

/-! ### Rows of rows, with places -/

section

variable {α β : Type} {xs : List α} {n : Nat}

theorem pairwise_snd_zipIdx (xs : List α) : xs.zipIdx.Pairwise fun a b => a.2 < b.2 := by
  rw [List.pairwise_iff_getElem]
  intro i j hi hj hij
  simpa using hij

/-- What comes from numbered members increases if it increases from each and from one to the next. -/
theorem pairwise_flatMap_zipIdx {R : β → β → Prop} {f : α × Nat → List β}
    (hin : ∀ e, (f e).Pairwise R)
    (hout : ∀ e e', e.2 < e'.2 → ∀ a ∈ f e, ∀ b ∈ f e', R a b) :
    (xs.zipIdx.flatMap f).Pairwise R :=
  List.pairwise_flatMap.2 ⟨fun e _ => hin e, (pairwise_snd_zipIdx xs).imp (hout _ _)⟩

/-- Without the numbers, a numbered row of rows is the row of rows. -/
theorem flatMap_fst_zipIdx (xs : List α) (f : α → List β) :
    xs.zipIdx.flatMap (fun e => f e.1) = xs.flatMap f := by
  rw [← List.flatMap_map Prod.fst f, List.zipIdx_map_fst]

end

namespace RunReport

/-! ### Places -/

/-- A place in a report: a stage, an instance of it, and a path among those that it produced. -/
structure Origin where
  stage : Nat
  member : Nat
  path : Nat
  deriving DecidableEq, Repr

/-- The order of creation: stage by stage, instance by instance, and path by path. -/
def Origin.Before (a b : Origin) : Prop :=
  a.stage < b.stage ∨ a.stage = b.stage ∧
    (a.member < b.member ∨ a.member = b.member ∧ a.path < b.path)

/-- An instance that succeeded produced a path at a place. -/
def ProducedAt (r : RunReport) (o : Origin) (p : String) : Prop :=
  ∃ s i, r.stages[o.stage]? = some s ∧ s.instances[o.member]? = some i ∧
    i.status = .succeeded ∧ i.producedArtifacts[o.path]? = some p

/-- The first of the places where a path was produced. -/
def FirstProducedAt (r : RunReport) (o : Origin) (p : String) : Prop :=
  r.ProducedAt o p ∧ ∀ o', r.ProducedAt o' p → o = o' ∨ o.Before o'

/-- What an instance added to its run, with the places. -/
def producedBy (n k : Nat) (i : JobInstance) : List (Origin × String) :=
  (contribution i).zipIdx.map fun e => (⟨n, k, e.2⟩, e.1)

/-- What the instances of a stage added to their run, with the places. -/
def producedIn (n : Nat) (s : StageReport) : List (Origin × String) :=
  s.instances.zipIdx.flatMap fun e => producedBy n e.2 e.1

/-- What was added to a run, with the places. -/
def produced (r : RunReport) : List (Origin × String) :=
  r.stages.zipIdx.flatMap fun e => producedIn e.2 e.1

variable {r : RunReport} {o : Origin} {p : String} {n k : Nat} {s : StageReport} {i : JobInstance}

theorem mem_producedBy :
    (o, p) ∈ producedBy n k i ↔ o.stage = n ∧ o.member = k ∧ i.status = .succeeded ∧
      i.producedArtifacts[o.path]? = some p := by
  obtain ⟨stage, member, path⟩ := o
  simp only [producedBy, List.mem_map, List.mem_zipIdx_iff_getElem?, Prod.exists, Prod.mk.injEq,
    Origin.mk.injEq, contribution]
  split <;> rename_i h
  · constructor
    · rintro ⟨_, _, hget, ⟨rfl, rfl, rfl⟩, rfl⟩
      exact ⟨rfl, rfl, h, hget⟩
    · rintro ⟨rfl, rfl, -, hget⟩
      exact ⟨p, path, hget, ⟨rfl, rfl, rfl⟩, rfl⟩
  · simp [h]

theorem mem_producedIn :
    (o, p) ∈ producedIn n s ↔ o.stage = n ∧ ∃ i, s.instances[o.member]? = some i ∧
      i.status = .succeeded ∧ i.producedArtifacts[o.path]? = some p := by
  simp only [producedIn, List.mem_flatMap, List.mem_zipIdx_iff_getElem?, Prod.exists,
    mem_producedBy]
  constructor
  · rintro ⟨i, _, hi, hn, rfl, hs, hp⟩
    exact ⟨hn, i, hi, hs, hp⟩
  · rintro ⟨hn, i, hi, hs, hp⟩
    exact ⟨i, o.member, hi, hn, rfl, hs, hp⟩

/-- What was added to a run stands at the places where it was produced. -/
theorem mem_produced : (o, p) ∈ r.produced ↔ r.ProducedAt o p := by
  simp only [produced, ProducedAt, List.mem_flatMap, List.mem_zipIdx_iff_getElem?, Prod.exists,
    mem_producedIn]
  constructor
  · rintro ⟨s, _, hs, rfl, i, hi⟩
    exact ⟨s, i, hs, hi⟩
  · rintro ⟨s, i, hs, hi⟩
    exact ⟨s, o.stage, hs, rfl, i, hi⟩

theorem map_snd_producedIn : (producedIn n s).map Prod.snd = s.instances.flatMap contribution := by
  have hby : ∀ e : JobInstance × Nat, (producedBy n e.2 e.1).map Prod.snd = contribution e.1 :=
    fun e => by simp [producedBy, Function.comp_def]
  rw [producedIn, List.map_flatMap]
  simp only [hby]
  exact flatMap_fst_zipIdx s.instances contribution

/-- Without its places, what was produced is what the instances contributed. -/
theorem map_snd_produced (r : RunReport) :
    r.produced.map Prod.snd = r.instances.flatMap contribution := by
  rw [produced, List.map_flatMap, instances, List.flatMap_assoc]
  simp only [map_snd_producedIn]
  exact flatMap_fst_zipIdx r.stages fun s => s.instances.flatMap contribution

/-- The places of what was produced increase. -/
theorem pairwise_produced (r : RunReport) : r.produced.Pairwise fun x y => x.1.Before y.1 := by
  refine pairwise_flatMap_zipIdx (fun e => pairwise_flatMap_zipIdx (fun e' => ?_) ?_) ?_
  · refine List.pairwise_map.2 ((pairwise_snd_zipIdx _).imp fun hlt => ?_)
    exact .inr ⟨rfl, .inr ⟨rfl, hlt⟩⟩
  · rintro e' e'' hlt ⟨a, p⟩ ha ⟨b, q⟩ hb
    obtain ⟨hn, hk, -⟩ := mem_producedBy.1 ha
    obtain ⟨hn', hk', -⟩ := mem_producedBy.1 hb
    exact .inr ⟨hn.trans hn'.symm, .inl (hk ▸ hk' ▸ hlt)⟩
  · rintro e e' hlt ⟨a, p⟩ ha ⟨b, q⟩ hb
    obtain ⟨hn, -⟩ := mem_producedIn.1 ha
    obtain ⟨hn', -⟩ := mem_producedIn.1 hb
    exact .inl (hn ▸ hn' ▸ hlt)

/-! ### What is collected -/

/-- Collected is what was produced somewhere. -/
theorem mem_artifacts_iff : p ∈ r.artifacts ↔ ∃ o, r.ProducedAt o p := by
  rw [artifacts, mem_dedupe, ← map_snd_produced, List.mem_map]
  constructor
  · rintro ⟨⟨o, _⟩, ho, rfl⟩
    exact ⟨o, mem_produced.1 ho⟩
  · rintro ⟨o, ho⟩
    exact ⟨(o, p), mem_produced.2 ho, rfl⟩

/-- What is collected stands in the order of the places where it was produced first. -/
theorem pairwise_artifacts (r : RunReport) :
    r.artifacts.Pairwise fun p q =>
      ∃ a b, r.FirstProducedAt a p ∧ r.FirstProducedAt b q ∧ a.Before b := by
  have hkept := pairwise_dedupe_of_increasing r.pairwise_produced
  simp only [IsFirstAt, mem_produced, map_snd_produced] at hkept
  exact hkept

end RunReport

/-! ### Instances that did not succeed -/

/-- Instances that differ at most in what they produced, and not even in that if they succeeded. -/
def JobInstance.SameResult (i j : JobInstance) : Prop :=
  ∃ paths, j = { i with producedArtifacts := paths } ∧
    (i.status = .succeeded → paths = i.producedArtifacts)

/-- Stages that differ only in what instances produced that did not succeed. -/
def StageReport.SameResults (s t : StageReport) : Prop :=
  ∃ instances, t = { s with instances } ∧
    List.Forall₂ JobInstance.SameResult s.instances instances

/-- If members contribute alike one by one, they do so together. -/
theorem flatMap_eq_of_forall₂ {α β : Type} {Q : α → α → Prop} {f : α → List β}
    (hf : ∀ x y, Q x y → f y = f x) {xs ys : List α} (h : List.Forall₂ Q xs ys) :
    ys.flatMap f = xs.flatMap f := by
  induction h with
  | nil => rfl
  | cons hxy _ ih => rw [List.flatMap_cons, List.flatMap_cons, hf _ _ hxy, ih]

namespace RunReport

theorem contribution_of_sameResult (i j : JobInstance) (h : i.SameResult j) :
    contribution j = contribution i := by
  obtain ⟨paths, rfl, hpaths⟩ := h
  unfold contribution
  split
  · rename_i hs
    exact hpaths hs
  · rfl

/-- What instances produced that did not succeed is not collected. -/
theorem artifacts_of_sameResults {r : RunReport} {stages : List StageReport}
    (h : List.Forall₂ StageReport.SameResults r.stages stages) :
    ({ r with stages } : RunReport).artifacts = r.artifacts := by
  have hstage : ∀ s t : StageReport, s.SameResults t →
      t.instances.flatMap contribution = s.instances.flatMap contribution := by
    rintro s _ ⟨instances, rfl, hsame⟩
    exact flatMap_eq_of_forall₂ contribution_of_sameResult hsame
  simp only [artifacts, instances, List.flatMap_assoc]
  rw [flatMap_eq_of_forall₂ hstage h]

/-! ### The ordered union -/

theorem aggregate_eq_self_iff {r : RunReport} :
    r.aggregate = r ↔ r.aggregatedArtifacts = r.artifacts :=
  ⟨fun h => (congrArg aggregatedArtifacts h).symm, fun h => by rw [aggregate, ← h]⟩

/-- **The artifacts are the ordered union of what was produced.**  No path is collected twice; a path
is collected just if an instance that succeeded produced it; the paths stand in the order of the places
where they were produced first.  Collecting them changes nothing but the list of artifacts, and changes
nothing when it is done once more; and what other instances produced has no part in it. -/
theorem aggregate_ordered_union (r : RunReport) :
    r.artifacts.Nodup ∧
    (∀ p, p ∈ r.artifacts ↔ ∃ o, r.ProducedAt o p) ∧
    (r.artifacts.Pairwise fun p q =>
      ∃ a b, r.FirstProducedAt a p ∧ r.FirstProducedAt b q ∧ a.Before b) ∧
    r.aggregate = { r with aggregatedArtifacts := r.artifacts } ∧
    r.aggregate.artifacts = r.artifacts ∧ r.aggregate.aggregate = r.aggregate ∧
    ∀ stages, List.Forall₂ StageReport.SameResults r.stages stages →
      ({ r with stages } : RunReport).artifacts = r.artifacts :=
  ⟨dedupe_nodup _, fun _ => mem_artifacts_iff, r.pairwise_artifacts, rfl, rfl, rfl,
    fun _ => artifacts_of_sameResults⟩

end RunReport

/-- Who asks an execution that returned to collect its artifacts gets the report as it is. -/
theorem Execution.aggregate_report_of_returned {e : Execution} (h : e.Sound) {st : Status}
    (hst : e.ending = some (.returned st)) (runId pipelineName : String) :
    (e.report runId pipelineName).aggregate = e.report runId pipelineName := by
  obtain ⟨-, -, -, haggregated⟩ := h.returned st hst
  rw [RunReport.aggregate_eq_self_iff]
  exact haggregated

end Conveyor
