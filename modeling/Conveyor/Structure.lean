/-
**The rules of a definition tree, and which of them it breaks.**

Names are unique where they are looked up, every axis has a value, and every trigger has a pattern
that can be read.  All violations are collected, in the order of the tree.

Main definitions:

* `Conveyor.repeated` — the members of a list that stand there more than once;
* `Conveyor.Pipeline.violations` — the rules that a pipeline breaks;
* `Conveyor.Pipeline.validate`, `Conveyor.Catalog.validate` — refuse what breaks a rule.

Main results:

* `Conveyor.repeated_eq_nil_iff` — nothing is repeated when there are no duplicates.
-/

import Conveyor.Trigger.Matcher

set_option autoImplicit false

namespace Conveyor

/-- The members of a list that stand there more than once, each at its first place; `seen` are the
members before. -/
def repeatedFrom (seen : List String) : List String → List String
  | [] => []
  | x :: xs =>
    if x ∈ seen then repeatedFrom seen xs
    else if x ∈ xs then x :: repeatedFrom (x :: seen) xs
    else repeatedFrom (x :: seen) xs

/-- The members of a list that stand there more than once, each once, in order. -/
def repeated (xs : List String) : List String := repeatedFrom [] xs

theorem mem_repeatedFrom {seen xs : List String} {y : String} :
    y ∈ repeatedFrom seen xs ↔ y ∉ seen ∧ 2 ≤ xs.count y := by
  induction xs generalizing seen with
  | nil => simp [repeatedFrom]
  | cons x xs ih =>
      unfold repeatedFrom
      by_cases hxy : y = x
      · subst hxy
        split
        · rename_i h
          rw [ih]
          simp [h]
        · rename_i h
          split
          · rename_i h'
            have hc : 1 ≤ xs.count y := List.one_le_count_iff.2 h'
            simp [h]
            omega
          · rename_i h'
            have hc : xs.count y = 0 := List.count_eq_zero.2 h'
            rw [ih]
            simp [hc]
      · have hyx : ¬ x = y := fun e => hxy e.symm
        have hc : (x :: xs).count y = xs.count y := by simp [hyx]
        rw [hc]
        split
        · rw [ih]
        · split
          · rw [List.mem_cons, ih]
            simp [hxy]
          · rw [ih]
            simp [hxy]

/-- Nothing is repeated when there are no duplicates. -/
theorem repeated_eq_nil_iff {xs : List String} : repeated xs = [] ↔ xs.Nodup := by
  rw [List.eq_nil_iff_forall_not_mem, List.nodup_iff_count]
  constructor
  · intro h y
    have := h y
    rw [repeated, mem_repeatedFrom] at this
    simp at this
    omega
  · intro h y
    rw [repeated, mem_repeatedFrom]
    have := h y
    simp
    omega

namespace Job

/-- What a service breaks: the names of its variables are unique. -/
def serviceViolations (place : String) (s : Service) : List String :=
  (repeated (s.env.map EnvVar.name)).map fun n =>
    place ++ "/service '" ++ s.name ++ "': duplicate env var '" ++ n ++ "'"

/-- What steps break, counted from an index on: the names of their arguments are unique. -/
def stepViolations (place : String) : Nat → List Step → List String
  | _, [] => []
  | i, s :: rest =>
    ((repeated (s.args.map StepArg.name)).map fun n =>
      place ++ "/step " ++ toString i ++ ": duplicate argument '" ++ n ++ "'")
      ++ stepViolations place (i + 1) rest

/-- The rules that a job breaks. -/
def violations (around : String) (j : Job) : List String :=
  let place := around ++ "/job '" ++ j.name ++ "'"
  (repeated j.axisNames).map (fun n => place ++ ": duplicate matrix axis '" ++ n ++ "'")
    ++ (j.matrix.filter fun a => a.values.isEmpty).map
      (fun a => place ++ ": matrix axis '" ++ a.name ++ "' has no values")
    ++ (repeated (j.services.map Service.name)).map
      (fun n => place ++ ": duplicate service '" ++ n ++ "'")
    ++ j.services.flatMap (serviceViolations place)
    ++ stepViolations place 0 j.steps

end Job

/-- The rules that a stage breaks. -/
def Stage.violations (around : String) (s : Stage) : List String :=
  let place := around ++ "/stage '" ++ s.name ++ "'"
  (repeated (s.jobs.map Job.name)).map (fun n => place ++ ": duplicate job '" ++ n ++ "'")
    ++ s.jobs.flatMap (Job.violations place)

namespace Pipeline

/-- What triggers break, counted from an index on: their patterns can be read. -/
def triggerViolations (place : String) : Nat → List Trigger → List String
  | _, [] => []
  | i, t :: rest =>
    (match t.patternError? with
      | some e => [place ++ "/trigger " ++ toString i ++ " (" ++ t.kind.name ++ "): " ++ e]
      | none => []) ++ triggerViolations place (i + 1) rest

/-- The rules that a pipeline breaks. -/
def violations (p : Pipeline) : List String :=
  let place := "pipeline '" ++ p.name ++ "'"
  triggerViolations place 0 p.triggers
    ++ (repeated p.stageNames).map (fun n => place ++ ": duplicate stage '" ++ n ++ "'")
    ++ p.stages.flatMap (Stage.violations place)

/-- Refuses a pipeline that breaks a rule. -/
def validate (p : Pipeline) : Except Fault Unit :=
  if p.violations.isEmpty then .ok ()
  else .error (.configuration ("Pipeline '" ++ p.name ++ "' definition is invalid") p.violations)

end Pipeline

namespace Catalog

/-- The rules that the pipelines of a catalog break together and each by itself. -/
def violations (c : Catalog) : List String :=
  (repeated c.names).map (fun n => "duplicate pipeline name '" ++ n ++ "'")
    ++ c.pipelines.flatMap Pipeline.violations

/-- Refuses a catalog that breaks a rule. -/
def validate (c : Catalog) : Except Fault Unit :=
  if c.violations.isEmpty then .ok ()
  else .error (.configuration "Pipeline catalog is invalid" c.violations)

end Catalog

end Conveyor
