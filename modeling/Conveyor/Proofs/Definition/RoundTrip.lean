/-
**The definition tree survives being written and read again.**

For each part of the tree there is a relation to the data that stand for it: the mapping has no
other keys than the known ones, each field has a value of its kind, and the parts are listed in
their order.  The check of the part accepts just these data.  They stand for sound parts only, and
what is written for a sound part is one of them, so it is read as the part it was written for.

Main definitions:

* `Conveyor.Service.Sound`, `Conveyor.Job.Sound`, `Conveyor.Pipeline.Sound` and those of the other
  parts — names, commands, images, shells and paths are not empty, and ports are ports;
* `Conveyor.Trigger.WrittenAs`, `Conveyor.Step.WrittenAs`, `Conveyor.Pipeline.WrittenAs` and those
  of the other parts — the data that stand for a part.

Main results:

* `Conveyor.Service.roundTrips`, `Conveyor.Trigger.roundTrips`, `Conveyor.Pipeline.roundTrips` and
  those of the other parts — a check accepts what stands for a part, and what is written for it;
* `Conveyor.definition_round_trip` — **accepted data give a sound tree, with its parts in
  their order, and what is written for the tree is accepted as the same tree**.
-/

import Conveyor.Definition.Decode
import Conveyor.Definition.Encode
import Conveyor.Proofs.Definition.Checking

set_option autoImplicit false

namespace Conveyor

open Check

/-! ### Fields of what is written -/

@[simp] theorem Datum.field?_object_cons (s k : String) (v : Datum)
    (entries : List (String × Datum)) :
    (Datum.object ((s, v) :: entries)).field? k =
      if s = k then some v else (Datum.object entries).field? k := rfl

theorem isText_text (s : String) : IsText s (Datum.text s).opened := .text

/-! ### Triggers -/

/-- The data that stand for a trigger: its kind is named, and a schedule has a pattern of its
own. -/
structure Trigger.WrittenAs (t : Trigger) (d : Datum) : Prop where
  only : HasOnly ["kind", "pattern"] d
  kind : d.field? "kind" = some (.text t.kind.name)
  pattern : HoldsOr IsText "pattern" "*" t.pattern d
  explicit : t.kind = .schedule → Holds IsText "pattern" t.pattern d

theorem Trigger.reads_pattern (kind : TriggerKind) :
    Reads (fun d => if kind = .schedule then required "pattern" text d
      else optional "pattern" "*" text d) (fun s d => HoldsOr IsText "pattern" "*" s d ∧
        (kind = .schedule → Holds IsText "pattern" s d)) := by
  intro d s
  by_cases hkind : kind = .schedule
  · simp only [hkind, if_true, forall_const]
    rw [reads_text.required]
    exact ⟨fun h => ⟨.inl h, h⟩, And.right⟩
  · simp only [hkind, if_false, false_implies, and_true]
    exact reads_text.optional "pattern" "*" d s

/-- The form of a trigger is found by the name of its kind. -/
theorem Trigger.find?_forms {word : String} {form : String × Check Trigger} :
    (TriggerKind.all.map fun k => (k.name, checkAs k.formName k)).find? (fun f => f.1 == word) =
        some form ↔
      ∃ k : TriggerKind, k.name = word ∧ form = (k.name, checkAs k.formName k) := by
  constructor
  · intro h
    have hword : form.1 = word := by simpa using List.find?_some h
    obtain ⟨k, -, rfl⟩ := List.mem_map.1 (List.mem_of_find?_eq_some h)
    exact ⟨k, hword, rfl⟩
  · rintro ⟨k, rfl, rfl⟩
    -- No two kinds have one name, so the first form of this name is the one of this kind.
    cases k <;> simp [TriggerKind.all, TriggerKind.name]

theorem Trigger.reads_checkAs (what : String) (kind : TriggerKind) :
    Reads (checkAs what kind) fun t d => HasOnly ["kind", "pattern"] d ∧
      HoldsOr (fun _ e => e = .text kind.name) "kind" () () d ∧ t.kind = kind ∧
        HoldsOr IsText "pattern" "*" t.pattern d ∧
          (kind = .schedule → Holds IsText "pattern" t.pattern d) := by
  have hfields := (((reads_word kind.name).optional "kind" ()).map
    fun _ pattern => Trigger.mk kind pattern).seq (reads_pattern kind)
  refine (hfields.record what ["kind", "pattern"]).congr ?_
  intro t d
  constructor
  · rintro ⟨honly, _, _, ⟨_, hkind, rfl⟩, ⟨hpattern, hexplicit⟩, rfl⟩
    exact ⟨honly, hkind, rfl, hpattern, hexplicit⟩
  · rintro ⟨honly, hkind, rfl, hpattern, hexplicit⟩
    exact ⟨honly, _, _, ⟨_, hkind, rfl⟩, ⟨hpattern, hexplicit⟩, rfl⟩

theorem Trigger.reads_check : Reads Trigger.check Trigger.WrittenAs := by
  intro d t
  rw [Trigger.check, tagged_eq_good_iff]
  simp only [Trigger.find?_forms]
  constructor
  · rintro ⟨-, _, _, hkind, ⟨k, rfl, rfl⟩, h⟩
    obtain ⟨honly, -, rfl, hpattern, hexplicit⟩ := (Trigger.reads_checkAs _ k d t).1 h
    exact ⟨honly, hkind, hpattern, hexplicit⟩
  · intro h
    -- The form that the kind leads to checks the kind once more, as a word of its own.
    refine ⟨h.only.exists_dict, _, _, h.kind, ⟨t.kind, rfl, rfl⟩, ?_⟩
    exact (Trigger.reads_checkAs _ t.kind d t).2
      ⟨h.only, .of_field? h.kind rfl, rfl, h.pattern, h.explicit⟩

theorem Trigger.writtenAs_datum (t : Trigger) : t.WrittenAs t.datum where
  only := hasOnly_object rfl
  kind := by simp [Trigger.datum]
  pattern := .of_field? (by simp [Trigger.datum]) (isText_text t.pattern)
  explicit := fun _ => .of_field? (by simp [Trigger.datum]) (isText_text t.pattern)

theorem Trigger.roundTrips :
    RoundTrips Trigger.check Trigger.datum (fun _ => True) Trigger.WrittenAs where
  reads := reads_check
  sound := fun _ _ _ => trivial
  written := fun t _ => writtenAs_datum t
  plain := fun _ => rfl

/-! ### Services -/

/-- A variable that has a name. -/
structure EnvVar.Sound (e : EnvVar) : Prop where
  name : e.name ≠ ""

/-- The data that stand for a variable. -/
structure EnvVar.WrittenAs (e : EnvVar) (d : Datum) : Prop where
  only : HasOnly ["name", "value"] d
  name : Holds IsFilled "name" e.name d
  value : HoldsOr IsText "value" "" e.value d

theorem EnvVar.reads_check : Reads EnvVar.check EnvVar.WrittenAs := by
  have hfields := ((reads_nonEmpty.required "name").map EnvVar.mk).seq
    (reads_text.optional "value" "")
  refine (hfields.record _ _).congr ?_
  intro e d
  constructor
  · rintro ⟨honly, _, _, ⟨_, hname, rfl⟩, hvalue, rfl⟩
    exact ⟨honly, hname, hvalue⟩
  · intro h
    exact ⟨h.only, _, _, ⟨_, h.name, rfl⟩, h.value, rfl⟩

theorem EnvVar.Sound.writtenAs_datum {e : EnvVar} (h : e.Sound) : e.WrittenAs e.datum where
  only := hasOnly_object rfl
  name := .of_field? (by simp [EnvVar.datum]) ⟨isText_text e.name, h.name⟩
  value := .of_field? (by simp [EnvVar.datum]) (isText_text e.value)

theorem EnvVar.roundTrips : RoundTrips EnvVar.check EnvVar.datum EnvVar.Sound EnvVar.WrittenAs where
  reads := reads_check
  sound := fun _ _ h => ⟨h.name.ne_empty⟩
  written := fun _ h => h.writtenAs_datum
  plain := fun _ => rfl

/-- A number that a port has. -/
def IsPort (n : Nat) : Prop := 1 ≤ n ∧ n ≤ 65535

/-- A service that has a name and an image, and ports that are ports. -/
structure Service.Sound (s : Service) : Prop where
  name : s.name ≠ ""
  image : s.image ≠ ""
  hostPort : ∀ n ∈ s.hostPort, IsPort n
  containerPort : ∀ n ∈ s.containerPort, IsPort n
  env : ∀ e ∈ s.env, e.Sound

/-- The data that stand for a port, or for none. -/
abbrev IsPortOrNull : Option Nat → Datum → Prop := OrNull (IsWholeIn 1 65535)

/-- The data that stand for a service. -/
structure Service.WrittenAs (s : Service) (d : Datum) : Prop where
  only : HasOnly ["name", "image", "host_port", "container_port", "env"] d
  name : Holds IsFilled "name" s.name d
  image : Holds IsFilled "image" s.image d
  hostPort : HoldsOr IsPortOrNull "host_port" none s.hostPort d
  containerPort : HoldsOr IsPortOrNull "container_port" none s.containerPort d
  env : HoldsAll EnvVar.WrittenAs "env" s.env d

theorem reads_checkPort : Reads Service.checkPort IsPortOrNull := (reads_wholeIn 1 65535).nullable

/-- What a field stands for as a port is one. -/
theorem HoldsOr.isPort {key : String} {port : Option Nat} {d : Datum}
    (h : HoldsOr IsPortOrNull key none port d) : ∀ n ∈ port, IsPort n := by
  rintro n rfl
  -- A missing field and null both stand for none, so the field has a number.
  rcases h with ⟨v, -, -, -, hport⟩ | ⟨-, hnone⟩
  · exact hport
  · cases hnone

/-- A written port stands for itself. -/
theorem isPortOrNull_ofNat? {port : Option Nat} (h : ∀ n ∈ port, IsPort n) :
    IsPortOrNull port (Datum.ofNat? port).opened := by
  cases port with
  | none => rfl
  | some n => exact ⟨nofun, rfl, h n rfl⟩

theorem Service.reads_check : Reads Service.check Service.WrittenAs := by
  have hnamed := ((reads_nonEmpty.required "name").map Service.mk).seq
    (reads_nonEmpty.required "image")
  have hports := (hnamed.seq (reads_checkPort.optional "host_port" none)).seq
    (reads_checkPort.optional "container_port" none)
  have hfields := hports.seq (EnvVar.roundTrips.reads.children "env")
  refine (hfields.record _ _).congr ?_
  intro s d
  constructor
  · rintro ⟨honly, _, _, ⟨_, _, ⟨_, _, ⟨_, _, ⟨_, hname, rfl⟩, himage, rfl⟩, hhost, rfl⟩,
      hcontainer, rfl⟩, henv, rfl⟩
    exact ⟨honly, hname, himage, hhost, hcontainer, henv⟩
  · intro h
    exact ⟨h.only, _, _, ⟨_, _, ⟨_, _, ⟨_, _, ⟨_, h.name, rfl⟩, h.image, rfl⟩, h.hostPort, rfl⟩,
      h.containerPort, rfl⟩, h.env, rfl⟩

theorem Service.WrittenAs.sound {s : Service} {d : Datum} (h : s.WrittenAs d) : s.Sound where
  name := h.name.ne_empty
  image := h.image.ne_empty
  hostPort := h.hostPort.isPort
  containerPort := h.containerPort.isPort
  env := EnvVar.roundTrips.forall_mem h.env

theorem Service.Sound.writtenAs_datum {s : Service} (h : s.Sound) : s.WrittenAs s.datum where
  only := hasOnly_object rfl
  name := .of_field? (by simp [Service.datum]) ⟨isText_text s.name, h.name⟩
  image := .of_field? (by simp [Service.datum]) ⟨isText_text s.image, h.image⟩
  hostPort := .of_field? (by simp [Service.datum]) (isPortOrNull_ofNat? h.hostPort)
  containerPort := .of_field? (by simp [Service.datum]) (isPortOrNull_ofNat? h.containerPort)
  env := EnvVar.roundTrips.holdsAll h.env (by simp [Service.datum])

theorem Service.roundTrips :
    RoundTrips Service.check Service.datum Service.Sound Service.WrittenAs where
  reads := reads_check
  sound := fun _ _ h => h.sound
  written := fun _ h => h.writtenAs_datum
  plain := fun _ => rfl

/-! ### Steps -/

/-- An argument that has a name. -/
structure StepArg.Sound (a : StepArg) : Prop where
  name : a.name ≠ ""

/-- The data that stand for an argument. -/
structure StepArg.WrittenAs (a : StepArg) (d : Datum) : Prop where
  only : HasOnly ["name", "value"] d
  name : Holds IsFilled "name" a.name d
  value : HoldsOr IsText "value" "" a.value d

theorem StepArg.reads_check : Reads StepArg.check StepArg.WrittenAs := by
  have hfields := ((reads_nonEmpty.required "name").map StepArg.mk).seq
    (reads_text.optional "value" "")
  refine (hfields.record _ _).congr ?_
  intro a d
  constructor
  · rintro ⟨honly, _, _, ⟨_, hname, rfl⟩, hvalue, rfl⟩
    exact ⟨honly, hname, hvalue⟩
  · intro h
    exact ⟨h.only, _, _, ⟨_, h.name, rfl⟩, h.value, rfl⟩

theorem StepArg.Sound.writtenAs_datum {a : StepArg} (h : a.Sound) : a.WrittenAs a.datum where
  only := hasOnly_object rfl
  name := .of_field? (by simp [StepArg.datum]) ⟨isText_text a.name, h.name⟩
  value := .of_field? (by simp [StepArg.datum]) (isText_text a.value)

theorem StepArg.roundTrips :
    RoundTrips StepArg.check StepArg.datum StepArg.Sound StepArg.WrittenAs where
  reads := reads_check
  sound := fun _ _ h => ⟨h.name.ne_empty⟩
  written := fun _ h => h.writtenAs_datum
  plain := fun _ => rfl

/-- A step that has a command, and if it is a script a shell. -/
inductive Step.Sound : Step → Prop
  | run {command : String} {args : List StepArg} (command_ne : command ≠ "")
      (args_sound : ∀ a ∈ args, a.Sound) : Sound (.run command args)
  | script {command shell : String} {args : List StepArg} (command_ne : command ≠ "")
      (shell_ne : shell ≠ "") (args_sound : ∀ a ∈ args, a.Sound) :
      Sound (.script command shell args)

/-- The data that stand for a step: its kind is named, and only a script has a shell. -/
inductive Step.WrittenAs : Step → Datum → Prop
  | run {command : String} {args : List StepArg} {d : Datum}
      (only : HasOnly ["kind", "command", "args"] d)
      (kind : d.field? "kind" = some (.text "run"))
      (command_held : Holds IsFilled "command" command d)
      (args_held : HoldsAll StepArg.WrittenAs "args" args d) : WrittenAs (.run command args) d
  | script {command shell : String} {args : List StepArg} {d : Datum}
      (only : HasOnly ["kind", "command", "shell", "args"] d)
      (kind : d.field? "kind" = some (.text "script"))
      (command_held : Holds IsFilled "command" command d)
      (shell_held : HoldsOr IsFilled "shell" "sh" shell d)
      (args_held : HoldsAll StepArg.WrittenAs "args" args d) :
      WrittenAs (.script command shell args) d

/-- A shell that a field stands for has a name; so has the usual one. -/
theorem HoldsOr.ne_empty {key usual s : String} {d : Datum} (h : HoldsOr IsFilled key usual s d)
    (husual : usual ≠ "") : s ≠ "" := by
  rcases h with h | ⟨-, rfl⟩
  · exact h.ne_empty
  · exact husual

theorem Step.reads_checkRun :
    Reads checkRun fun s d => ∃ command args, s = .run command args ∧
      HasOnly ["kind", "command", "args"] d ∧
        HoldsOr (fun _ e => e = .text "run") "kind" () () d ∧
          Holds IsFilled "command" command d ∧ HoldsAll StepArg.WrittenAs "args" args d := by
  have hcommand := (((reads_word "run").optional "kind" ()).map
    fun _ command args => Step.run command args).seq (reads_nonEmpty.required "command")
  have hfields := hcommand.seq (StepArg.roundTrips.reads.children "args")
  refine (hfields.record _ _).congr ?_
  intro s d
  constructor
  · rintro ⟨honly, _, args, ⟨_, command, ⟨_, hkind, rfl⟩, hcommand, rfl⟩, hargs, rfl⟩
    exact ⟨command, args, rfl, honly, hkind, hcommand, hargs⟩
  · rintro ⟨command, args, rfl, honly, hkind, hcommand, hargs⟩
    exact ⟨honly, _, _, ⟨_, _, ⟨_, hkind, rfl⟩, hcommand, rfl⟩, hargs, rfl⟩

theorem Step.reads_checkScript :
    Reads checkScript fun s d => ∃ command shell args, s = .script command shell args ∧
      HasOnly ["kind", "command", "shell", "args"] d ∧
        HoldsOr (fun _ e => e = .text "script") "kind" () () d ∧
          Holds IsFilled "command" command d ∧ HoldsOr IsFilled "shell" "sh" shell d ∧
            HoldsAll StepArg.WrittenAs "args" args d := by
  have hcommand := (((reads_word "script").optional "kind" ()).map
    fun _ command shell args => Step.script command shell args).seq
      (reads_nonEmpty.required "command")
  have hfields := (hcommand.seq (reads_nonEmpty.optional "shell" "sh")).seq
    (StepArg.roundTrips.reads.children "args")
  refine (hfields.record _ _).congr ?_
  intro s d
  constructor
  · rintro ⟨honly, _, args, ⟨_, shell, ⟨_, command, ⟨_, hkind, rfl⟩, hcommand, rfl⟩, hshell, rfl⟩,
      hargs, rfl⟩
    exact ⟨command, shell, args, rfl, honly, hkind, hcommand, hshell, hargs⟩
  · rintro ⟨command, shell, args, rfl, honly, hkind, hcommand, hshell, hargs⟩
    exact ⟨honly, _, _, ⟨_, _, ⟨_, _, ⟨_, hkind, rfl⟩, hcommand, rfl⟩, hshell, rfl⟩, hargs, rfl⟩

theorem Step.reads_check : Reads Step.check Step.WrittenAs := by
  intro d s
  rw [Step.check, tagged_eq_good_iff]
  constructor
  · rintro ⟨-, word, form, hkind, hfound, h⟩
    -- The form that was found is one of the two, and its name is the kind that was given.
    have hword : form.1 = word := by simpa using List.find?_some hfound
    have hform := List.mem_of_find?_eq_some hfound
    simp only [List.mem_cons, List.not_mem_nil, or_false] at hform
    rw [← hword] at hkind
    rcases hform with rfl | rfl
    · obtain ⟨_, _, rfl, honly, -, hcommand, hargs⟩ := (reads_checkRun d s).1 h
      exact .run honly hkind hcommand hargs
    · obtain ⟨_, _, _, rfl, honly, -, hcommand, hshell, hargs⟩ := (reads_checkScript d s).1 h
      exact .script honly hkind hcommand hshell hargs
  · intro h
    cases h with
    | run only kind command_held args_held =>
        exact ⟨only.exists_dict, _, ("run", checkRun), kind, by simp, (reads_checkRun d _).2
          ⟨_, _, rfl, only, .of_field? kind rfl, command_held, args_held⟩⟩
    | script only kind command_held shell_held args_held =>
        exact ⟨only.exists_dict, _, ("script", checkScript), kind, by simp, (reads_checkScript d _).2
          ⟨_, _, _, rfl, only, .of_field? kind rfl, command_held, shell_held, args_held⟩⟩

theorem Step.WrittenAs.sound {s : Step} {d : Datum} (h : s.WrittenAs d) : s.Sound := by
  cases h with
  | run only kind command_held args_held =>
      exact .run command_held.ne_empty (StepArg.roundTrips.forall_mem args_held)
  | script only kind command_held shell_held args_held =>
      exact .script command_held.ne_empty (shell_held.ne_empty (by decide))
        (StepArg.roundTrips.forall_mem args_held)

theorem Step.Sound.writtenAs_datum {s : Step} (h : s.Sound) : s.WrittenAs s.datum := by
  cases h with
  | @run command args command_ne args_sound =>
      refine .run (hasOnly_object rfl) (by simp [Step.datum]) ?_ ?_
      · exact .of_field? (by simp [Step.datum]) ⟨isText_text command, command_ne⟩
      · exact StepArg.roundTrips.holdsAll args_sound (by simp [Step.datum])
  | @script command shell args command_ne shell_ne args_sound =>
      refine .script (hasOnly_object rfl) (by simp [Step.datum]) ?_ ?_ ?_
      · exact .of_field? (by simp [Step.datum]) ⟨isText_text command, command_ne⟩
      · exact .of_field? (by simp [Step.datum]) ⟨isText_text shell, shell_ne⟩
      · exact StepArg.roundTrips.holdsAll args_sound (by simp [Step.datum])

theorem Step.roundTrips : RoundTrips Step.check Step.datum Step.Sound Step.WrittenAs where
  reads := reads_check
  sound := fun _ _ h => h.sound
  written := fun _ h => h.writtenAs_datum
  plain := fun s => by cases s <;> rfl

/-! ### Artifacts and axes -/

/-- An artifact that has a path. -/
structure Artifact.Sound (a : Artifact) : Prop where
  path : a.path ≠ ""

/-- The data that stand for an artifact. -/
structure Artifact.WrittenAs (a : Artifact) (d : Datum) : Prop where
  only : HasOnly ["path"] d
  path : Holds IsFilled "path" a.path d

theorem Artifact.reads_check : Reads Artifact.check Artifact.WrittenAs := by
  have hfields := (reads_nonEmpty.required "path").map Artifact.mk
  refine (hfields.record _ _).congr ?_
  intro a d
  constructor
  · rintro ⟨honly, _, hpath, rfl⟩
    exact ⟨honly, hpath⟩
  · intro h
    exact ⟨h.only, _, h.path, rfl⟩

theorem Artifact.Sound.writtenAs_datum {a : Artifact} (h : a.Sound) : a.WrittenAs a.datum where
  only := hasOnly_object rfl
  path := .of_field? (by simp [Artifact.datum]) ⟨isText_text a.path, h.path⟩

theorem Artifact.roundTrips :
    RoundTrips Artifact.check Artifact.datum Artifact.Sound Artifact.WrittenAs where
  reads := reads_check
  sound := fun _ _ h => ⟨h.path.ne_empty⟩
  written := fun _ h => h.writtenAs_datum
  plain := fun _ => rfl

/-- An axis that has a name. -/
structure Axis.Sound (a : Axis) : Prop where
  name : a.name ≠ ""

/-- The data that stand for an axis. -/
structure Axis.WrittenAs (a : Axis) (d : Datum) : Prop where
  only : HasOnly ["name", "values"] d
  name : Holds IsFilled "name" a.name d
  values : HoldsAll IsText "values" a.values d

theorem Axis.reads_check : Reads Axis.check Axis.WrittenAs := by
  have hfields := ((reads_nonEmpty.required "name").map Axis.mk).seq (reads_text.children "values")
  refine (hfields.record _ _).congr ?_
  intro a d
  constructor
  · rintro ⟨honly, _, _, ⟨_, hname, rfl⟩, hvalues, rfl⟩
    exact ⟨honly, hname, hvalues⟩
  · intro h
    exact ⟨h.only, _, _, ⟨_, h.name, rfl⟩, h.values, rfl⟩

theorem Axis.Sound.writtenAs_datum {a : Axis} (h : a.Sound) : a.WrittenAs a.datum where
  only := hasOnly_object rfl
  name := .of_field? (by simp [Axis.datum]) ⟨isText_text a.name, h.name⟩
  values := .of_field? (by simp [Axis.datum, Datum.texts]) fun s _ => isText_text s

theorem Axis.roundTrips : RoundTrips Axis.check Axis.datum Axis.Sound Axis.WrittenAs where
  reads := reads_check
  sound := fun _ _ h => ⟨h.name.ne_empty⟩
  written := fun _ h => h.writtenAs_datum
  plain := fun _ => rfl

/-! ### Jobs and stages -/

/-- A job that has a name and sound parts. -/
structure Job.Sound (j : Job) : Prop where
  name : j.name ≠ ""
  services : ∀ s ∈ j.services, s.Sound
  steps : ∀ s ∈ j.steps, s.Sound
  artifacts : ∀ a ∈ j.artifacts, a.Sound
  matrix : ∀ a ∈ j.matrix, a.Sound

/-- The data that stand for a job. -/
structure Job.WrittenAs (j : Job) (d : Datum) : Prop where
  only : HasOnly ["name", "image", "services", "steps", "artifacts", "matrix"] d
  name : Holds IsFilled "name" j.name d
  image : HoldsOr (OrNull IsText) "image" none j.image d
  services : HoldsAll Service.WrittenAs "services" j.services d
  steps : HoldsAll Step.WrittenAs "steps" j.steps d
  artifacts : HoldsAll Artifact.WrittenAs "artifacts" j.artifacts d
  matrix : HoldsAll Axis.WrittenAs "matrix" j.matrix d

theorem Job.reads_check : Reads Job.check Job.WrittenAs := by
  have hnamed := ((reads_nonEmpty.required "name").map Job.mk).seq
    (reads_text.nullable.optional "image" none)
  have hwork := (hnamed.seq (Service.roundTrips.reads.children "services")).seq
    (Step.roundTrips.reads.children "steps")
  have hfields := (hwork.seq (Artifact.roundTrips.reads.children "artifacts")).seq
    (Axis.roundTrips.reads.children "matrix")
  refine (hfields.record _ _).congr ?_
  intro j d
  constructor
  · rintro ⟨honly, _, _, ⟨_, _, ⟨_, _, ⟨_, _, ⟨_, _, ⟨_, hname, rfl⟩, himage, rfl⟩, hservices, rfl⟩,
      hsteps, rfl⟩, hartifacts, rfl⟩, hmatrix, rfl⟩
    exact ⟨honly, hname, himage, hservices, hsteps, hartifacts, hmatrix⟩
  · intro h
    exact ⟨h.only, _, _, ⟨_, _, ⟨_, _, ⟨_, _, ⟨_, _, ⟨_, h.name, rfl⟩, h.image, rfl⟩, h.services, rfl⟩,
      h.steps, rfl⟩, h.artifacts, rfl⟩, h.matrix, rfl⟩

theorem Job.WrittenAs.sound {j : Job} {d : Datum} (h : j.WrittenAs d) : j.Sound where
  name := h.name.ne_empty
  services := Service.roundTrips.forall_mem h.services
  steps := Step.roundTrips.forall_mem h.steps
  artifacts := Artifact.roundTrips.forall_mem h.artifacts
  matrix := Axis.roundTrips.forall_mem h.matrix

/-- A written image stands for itself. -/
theorem orNull_ofText? (o : Option String) : OrNull IsText o (Datum.ofText? o).opened := by
  cases o with
  | none => rfl
  | some s => exact ⟨nofun, isText_text s⟩

theorem Job.Sound.writtenAs_datum {j : Job} (h : j.Sound) : j.WrittenAs j.datum where
  only := hasOnly_object rfl
  name := .of_field? (by simp [Job.datum]) ⟨isText_text j.name, h.name⟩
  image := .of_field? (by simp [Job.datum]) (orNull_ofText? j.image)
  services := Service.roundTrips.holdsAll h.services (by simp [Job.datum])
  steps := Step.roundTrips.holdsAll h.steps (by simp [Job.datum])
  artifacts := Artifact.roundTrips.holdsAll h.artifacts (by simp [Job.datum])
  matrix := Axis.roundTrips.holdsAll h.matrix (by simp [Job.datum])

theorem Job.roundTrips : RoundTrips Job.check Job.datum Job.Sound Job.WrittenAs where
  reads := reads_check
  sound := fun _ _ h => h.sound
  written := fun _ h => h.writtenAs_datum
  plain := fun _ => rfl

/-- A stage that has a name and sound jobs. -/
structure Stage.Sound (s : Stage) : Prop where
  name : s.name ≠ ""
  jobs : ∀ j ∈ s.jobs, j.Sound

/-- The data that stand for a stage. -/
structure Stage.WrittenAs (s : Stage) (d : Datum) : Prop where
  only : HasOnly ["name", "jobs"] d
  name : Holds IsFilled "name" s.name d
  jobs : HoldsAll Job.WrittenAs "jobs" s.jobs d

theorem Stage.reads_check : Reads Stage.check Stage.WrittenAs := by
  have hfields := ((reads_nonEmpty.required "name").map Stage.mk).seq
    (Job.roundTrips.reads.children "jobs")
  refine (hfields.record _ _).congr ?_
  intro s d
  constructor
  · rintro ⟨honly, _, _, ⟨_, hname, rfl⟩, hjobs, rfl⟩
    exact ⟨honly, hname, hjobs⟩
  · intro h
    exact ⟨h.only, _, _, ⟨_, h.name, rfl⟩, h.jobs, rfl⟩

theorem Stage.Sound.writtenAs_datum {s : Stage} (h : s.Sound) : s.WrittenAs s.datum where
  only := hasOnly_object rfl
  name := .of_field? (by simp [Stage.datum]) ⟨isText_text s.name, h.name⟩
  jobs := Job.roundTrips.holdsAll h.jobs (by simp [Stage.datum])

theorem Stage.roundTrips : RoundTrips Stage.check Stage.datum Stage.Sound Stage.WrittenAs where
  reads := reads_check
  sound := fun _ _ h => ⟨h.name.ne_empty, Job.roundTrips.forall_mem h.jobs⟩
  written := fun _ h => h.writtenAs_datum
  plain := fun _ => rfl

/-! ### Pipelines and catalogs -/

/-- A pipeline that has a name and sound parts. -/
structure Pipeline.Sound (p : Pipeline) : Prop where
  name : p.name ≠ ""
  stages : ∀ s ∈ p.stages, s.Sound
  artifacts : ∀ a ∈ p.artifacts, a.Sound

/-- The data that stand for a pipeline. -/
structure Pipeline.WrittenAs (p : Pipeline) (d : Datum) : Prop where
  only : HasOnly ["name", "triggers", "stages", "artifacts"] d
  name : Holds IsFilled "name" p.name d
  triggers : HoldsAll Trigger.WrittenAs "triggers" p.triggers d
  stages : HoldsAll Stage.WrittenAs "stages" p.stages d
  artifacts : HoldsAll Artifact.WrittenAs "artifacts" p.artifacts d

theorem Pipeline.reads_check : Reads Pipeline.check Pipeline.WrittenAs := by
  have hnamed := ((reads_nonEmpty.required "name").map Pipeline.mk).seq
    (Trigger.roundTrips.reads.children "triggers")
  have hfields := (hnamed.seq (Stage.roundTrips.reads.children "stages")).seq
    (Artifact.roundTrips.reads.children "artifacts")
  refine (hfields.record _ _).congr ?_
  intro p d
  constructor
  · rintro ⟨honly, _, _, ⟨_, _, ⟨_, _, ⟨_, hname, rfl⟩, htriggers, rfl⟩, hstages, rfl⟩, hartifacts,
      rfl⟩
    exact ⟨honly, hname, htriggers, hstages, hartifacts⟩
  · intro h
    exact ⟨h.only, _, _, ⟨_, _, ⟨_, _, ⟨_, h.name, rfl⟩, h.triggers, rfl⟩, h.stages, rfl⟩, h.artifacts,
      rfl⟩

theorem Pipeline.WrittenAs.sound {p : Pipeline} {d : Datum} (h : p.WrittenAs d) : p.Sound where
  name := h.name.ne_empty
  stages := Stage.roundTrips.forall_mem h.stages
  artifacts := Artifact.roundTrips.forall_mem h.artifacts

theorem Pipeline.Sound.writtenAs_datum {p : Pipeline} (h : p.Sound) : p.WrittenAs p.datum where
  only := hasOnly_object rfl
  name := .of_field? (by simp [Pipeline.datum]) ⟨isText_text p.name, h.name⟩
  triggers := Trigger.roundTrips.holdsAll (fun _ _ => trivial) (by simp [Pipeline.datum])
  stages := Stage.roundTrips.holdsAll h.stages (by simp [Pipeline.datum])
  artifacts := Artifact.roundTrips.holdsAll h.artifacts (by simp [Pipeline.datum])

theorem Pipeline.roundTrips :
    RoundTrips Pipeline.check Pipeline.datum Pipeline.Sound Pipeline.WrittenAs where
  reads := reads_check
  sound := fun _ _ h => h.sound
  written := fun _ h => h.writtenAs_datum
  plain := fun _ => rfl

/-- A catalog of sound pipelines. -/
structure Catalog.Sound (c : Catalog) : Prop where
  pipelines : ∀ p ∈ c.pipelines, p.Sound

/-- The data that stand for a catalog. -/
structure Catalog.WrittenAs (c : Catalog) (d : Datum) : Prop where
  only : HasOnly ["pipelines"] d
  pipelines : HoldsAll Pipeline.WrittenAs "pipelines" c.pipelines d

theorem Catalog.reads_check : Reads Catalog.check Catalog.WrittenAs := by
  have hfields := (Pipeline.roundTrips.reads.children "pipelines").map Catalog.mk
  refine (hfields.record _ _).congr ?_
  intro c d
  constructor
  · rintro ⟨honly, _, hpipelines, rfl⟩
    exact ⟨honly, hpipelines⟩
  · intro h
    exact ⟨h.only, _, h.pipelines, rfl⟩

theorem Catalog.Sound.writtenAs_datum {c : Catalog} (h : c.Sound) : c.WrittenAs c.datum where
  only := hasOnly_object rfl
  pipelines := Pipeline.roundTrips.holdsAll h.pipelines (by simp [Catalog.datum])

theorem Catalog.roundTrips :
    RoundTrips Catalog.check Catalog.datum Catalog.Sound Catalog.WrittenAs where
  reads := reads_check
  sound := fun _ _ h => ⟨Pipeline.roundTrips.forall_mem h.pipelines⟩
  written := fun _ h => h.writtenAs_datum
  plain := fun _ => rfl

/-- Accepted data give a sound tree: names, commands, images, shells and paths are not empty, and
ports are ports.  The data stand for that tree: there are no other keys, the kinds of triggers and
steps are named, schedules have a pattern, and the parts are listed in their order.  What is written
for the tree, and all else that stands for it, is accepted as the same tree. -/
theorem definition_round_trip (d : Datum) :
    (∀ p, Pipeline.check d = .good p → p.Sound ∧ p.WrittenAs d ∧
      p.WrittenAs p.datum ∧ Pipeline.check p.datum = .good p ∧
        ∀ d', p.WrittenAs d' → Pipeline.check d' = .good p) ∧
    ∀ c, Catalog.check d = .good c → c.Sound ∧ c.WrittenAs d ∧
      c.WrittenAs c.datum ∧ Catalog.check c.datum = .good c ∧
        ∀ d', c.WrittenAs d' → Catalog.check d' = .good c := by
  constructor
  · intro p hp
    have hwritten : p.WrittenAs d := (Pipeline.roundTrips.reads d p).1 hp
    have hsound : p.Sound := hwritten.sound
    exact ⟨hsound, hwritten, hsound.writtenAs_datum, Pipeline.roundTrips.check_datum hp,
      fun d' => (Pipeline.roundTrips.reads d' p).2⟩
  · intro c hc
    have hwritten : c.WrittenAs d := (Catalog.roundTrips.reads d c).1 hc
    have hsound : c.Sound := Catalog.roundTrips.sound c d hwritten
    exact ⟨hsound, hwritten, hsound.writtenAs_datum, Catalog.roundTrips.check_datum hc,
      fun d' => (Catalog.roundTrips.reads d' c).2⟩

/-- A pipeline whose ports are a text and a truth value, and whose time rule is bytes. -/
def looseNightly : Datum :=
  .object [("name", .text "nightly"),
    ("triggers", .tuple [.object [("kind", .text "schedule"), ("pattern", .bytes [64, 100])]]),
    ("stages", .list [.object [("name", .text "test"), ("jobs", .list [.object [
      ("name", .text "unit"),
      ("services", .list [.object [("image", .text "postgres"), ("name", .text "db"),
        ("host_port", .text " 5432 "), ("container_port", .bool true)]]),
      ("steps", .tuple [.object [("command", .text "test.sh"), ("kind", .text "script")]])]])]])]

/-- What the loose data stand for. -/
def nightly : Pipeline :=
  { name := "nightly"
    triggers := [⟨.schedule, "@d"⟩]
    stages := [{
      name := "test"
      jobs := [{
        name := "unit"
        services := [{
          name := "db", image := "postgres", hostPort := some 5432, containerPort := some 1 }]
        steps := [.script "test.sh" "sh" []] }] }] }

theorem definition_round_trip_nightly :
    Pipeline.check looseNightly = .good nightly ∧ nightly.Sound ∧
      Pipeline.check nightly.datum = .good nightly ∧
    Catalog.check (.object [("pipelines", .list [looseNightly])]) = .good ⟨[nightly]⟩ ∧
      Catalog.check (Catalog.datum ⟨[nightly]⟩) = .good ⟨[nightly]⟩ := by
  have hp : Pipeline.check looseNightly = .good nightly :=
    Checked.eq_good_of_toExcept (by decide +kernel)
  have hc : Catalog.check (.object [("pipelines", .list [looseNightly])]) = .good ⟨[nightly]⟩ :=
    Checked.eq_good_of_toExcept (by decide +kernel)
  obtain ⟨hsound, -, -, hagain, -⟩ := (definition_round_trip looseNightly).1 nightly hp
  obtain ⟨-, -, -, hcatalog, -⟩ := (definition_round_trip _).2 _ hc
  exact ⟨hp, hsound, hagain, hc, hcatalog⟩

end Conveyor
