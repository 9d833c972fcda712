/-
**The variables of arguments.**

The variable of an argument is made from its name: what is no letter, digit or underscore becomes an
underscore, and small letters become capitals.  So several arguments may come to the same variable; it
stands at the place of the first of them and has the value of the last one.

Main definitions:

* `Conveyor.Local.isWordChar`, `Conveyor.Local.isVariableChar` — the characters that a name keeps, and
  those that a variable has;
* `Conveyor.Local.sanitised` — a name with underscores for all other characters.

Main results:

* `Conveyor.Local.variableName_eq` — a variable is a sanitised name in capitals;
* `Conveyor.Local.variableName_eq_iff` — which names come to the same variable;
* `Conveyor.Local.map_fst_environment` — the variables, each at its first place;
* `Conveyor.Local.mem_environment_iff` — the value of a variable;
* `Conveyor.Local.length_environment_eq_iff` — when no argument is lost;
* `Conveyor.Local.environment_exports` — **which variables arguments come to, and what is lost**.
-/

import Conveyor.Local.Arguments
import Conveyor.Proofs.FirstPlace
import Conveyor.Proofs.Matrix.Expansion
import Conveyor.Text.Case

set_option autoImplicit false

namespace Conveyor.Local

/-! ### Names -/

/-- Whether a character lies between two others, these included. -/
def isBetween (first last c : Char) : Bool := first.toNat ≤ c.toNat && c.toNat ≤ last.toNat

/-- The characters of variables: capitals, digits and the underscore. -/
def isVariableChar (c : Char) : Bool := isBetween 'A' 'Z' c || isBetween '0' '9' c || c == '_'

/-- The characters that a name keeps: small letters and those of variables. -/
def isWordChar (c : Char) : Bool := isBetween 'a' 'z' c || isVariableChar c

/-- A name with an underscore for each character that it does not keep. -/
def sanitised (name : String) : String :=
  String.ofList (name.toList.map fun c => if isWordChar c then c else '_')

theorem toNat_lt_of_isWordChar {c : Char} (h : isWordChar c = true) : c.toNat < 128 := by
  simp only [isWordChar, isVariableChar, isBetween, Bool.or_eq_true, Bool.and_eq_true,
    decide_eq_true_eq, beq_iff_eq] at h
  rcases h with ⟨-, h⟩ | (⟨-, h⟩ | ⟨-, h⟩) | rfl
  · exact Nat.lt_of_le_of_lt h (by decide)
  · exact Nat.lt_of_le_of_lt h (by decide)
  · exact Nat.lt_of_le_of_lt h (by decide)
  · decide

/-- A character that a name keeps has one capital and one small letter, which belong together. -/
theorem cases_of_isWordChar {c : Char} (h : isWordChar c = true) :
    isVariableChar c.toUpper = true ∧ c.toUpper.toLower = c.toLower ∧
      c.toLower.toUpper = c.toUpper ∧ c ≠ 'Σ' := by
  have hall : ∀ n < 128, isWordChar (Char.ofNat n) = true →
      isVariableChar (Char.ofNat n).toUpper = true ∧
        (Char.ofNat n).toUpper.toLower = (Char.ofNat n).toLower ∧
        (Char.ofNat n).toLower.toUpper = (Char.ofNat n).toUpper ∧ Char.ofNat n ≠ 'Σ' := by
    decide +kernel
  have hc := hall c.toNat (toNat_lt_of_isWordChar h)
  rw [Char.ofNat_toNat] at hc
  exact hc h

theorem isBetween_iff {first last c : Char} :
    isBetween first last c = true ↔ first.val ≤ c.val ∧ c.val ≤ last.val := by
  rw [isBetween, Bool.and_eq_true, decide_eq_true_eq, decide_eq_true_eq]
  exact Iff.rfl

theorem isWordChar_eq (c : Char) : isWordChar c = (c.isAlphanum || c == '_') := by
  have hupper : c.isUpper = isBetween 'A' 'Z' c :=
    Bool.eq_iff_iff.2 (decide_eq_true_iff.trans isBetween_iff.symm)
  have hlower : c.isLower = isBetween 'a' 'z' c :=
    Bool.eq_iff_iff.2 ((Bool.and_eq_true_iff.trans
      (and_congr decide_eq_true_iff decide_eq_true_iff)).trans isBetween_iff.symm)
  have hdigit : c.isDigit = isBetween '0' '9' c :=
    Bool.eq_iff_iff.2 ((Bool.and_eq_true_iff.trans
      (and_congr decide_eq_true_iff decide_eq_true_iff)).trans isBetween_iff.symm)
  have halphanum : c.isAlphanum = (c.isUpper || c.isLower || c.isDigit) := rfl
  rw [halphanum, hupper, hlower, hdigit, isWordChar, isVariableChar,
    Bool.or_comm (isBetween 'A' 'Z' c) (isBetween 'a' 'z' c)]
  simp only [Bool.or_assoc]

variable {a b name k v : String} {args : List (String × String)}

theorem isWordChar_of_mem_sanitised {c : Char} (h : c ∈ (sanitised name).toList) :
    isWordChar c = true := by
  rw [sanitised, String.toList_ofList, List.mem_map] at h
  obtain ⟨d, -, rfl⟩ := h
  split
  · assumption
  · decide

theorem upper_sanitised (name : String) :
    Text.upper (sanitised name) = String.ofList ((sanitised name).toList.map Char.toUpper) := by
  have hchar : ∀ c ∈ (sanitised name).toList, Text.upperChar c = [c.toUpper] := fun c hc =>
    if_pos (toNat_lt_of_isWordChar (isWordChar_of_mem_sanitised hc))
  rw [Text.upper, List.flatMap_congr hchar, ← List.map_eq_flatMap]

theorem lower_sanitised (name : String) :
    Text.lower (sanitised name) = String.ofList ((sanitised name).toList.map Char.toLower) := by
  have hchar : ∀ c ∈ (sanitised name).toList, Text.lowerChar c = [c.toLower] := fun c hc =>
    if_pos (toNat_lt_of_isWordChar (isWordChar_of_mem_sanitised hc))
  have hsigma : (sanitised name).toList.contains 'Σ' ≠ true := fun h => by
    have hword := isWordChar_of_mem_sanitised (List.contains_iff_mem.1 h)
    obtain ⟨-, -, -, hsigma⟩ := cases_of_isWordChar hword
    exact hsigma rfl
  rw [Text.lower, if_neg hsigma, List.flatMap_congr hchar, ← List.map_eq_flatMap]

/-- A variable is a sanitised name in capitals. -/
theorem variableName_eq (name : String) :
    variableName name = variableFront ++ Text.upper (sanitised name) := by
  rw [upper_sanitised, sanitised, String.toList_ofList, List.map_map, variableName]
  congr 3
  funext c
  rw [Function.comp_apply, isWordChar_eq]
  split <;> rfl

theorem map_toLower_capitals (name : String) :
    ((sanitised name).toList.map Char.toUpper).map Char.toLower =
      (sanitised name).toList.map Char.toLower := by
  rw [List.map_map]
  refine List.map_congr_left fun c hc => ?_
  obtain ⟨-, hlower, -, -⟩ := cases_of_isWordChar (isWordChar_of_mem_sanitised hc)
  exact hlower

theorem map_toUpper_smallLetters (name : String) :
    ((sanitised name).toList.map Char.toLower).map Char.toUpper =
      (sanitised name).toList.map Char.toUpper := by
  rw [List.map_map]
  refine List.map_congr_left fun c hc => ?_
  obtain ⟨-, -, hupper, -⟩ := cases_of_isWordChar (isWordChar_of_mem_sanitised hc)
  exact hupper

/-- Two names come to the same variable when they are the same, once sanitised, in any letter case. -/
theorem variableName_eq_iff :
    variableName a = variableName b ↔ Text.lower (sanitised a) = Text.lower (sanitised b) := by
  rw [variableName_eq, variableName_eq, String.append_right_inj, upper_sanitised, upper_sanitised,
    lower_sanitised, lower_sanitised, String.ofList_inj, String.ofList_inj]
  constructor
  · intro h
    rw [← map_toLower_capitals a, h, map_toLower_capitals]
  · intro h
    rw [← map_toUpper_smallLetters a, h, map_toUpper_smallLetters]

/-- After its front a variable has only capitals, digits and underscores. -/
theorem isVariableChar_of_mem_upper {c : Char} (h : c ∈ (Text.upper (sanitised name)).toList) :
    isVariableChar c = true := by
  rw [upper_sanitised, String.toList_ofList, List.mem_map] at h
  obtain ⟨d, hd, rfl⟩ := h
  obtain ⟨hvariable, -⟩ := cases_of_isWordChar (isWordChar_of_mem_sanitised hd)
  exact hvariable

/-! ### Variables in order -/

/-- Who writes a value under a name adds the name at the end, unless it is there. -/
theorem map_fst_bindName (bs : List (String × String)) (name value : String) :
    (bindName bs name value).map Prod.fst =
      if name ∈ bs.map Prod.fst then bs.map Prod.fst else bs.map Prod.fst ++ [name] := by
  induction bs with
  | nil => rfl
  | cons b bs ih =>
      rw [bindName]
      by_cases hb : b.1 = name
      · rw [if_pos hb, List.map_cons, List.map_cons, hb, if_pos (List.mem_cons_self ..)]
      · have hmem : name ∈ (b :: bs).map Prod.fst ↔ name ∈ bs.map Prod.fst := by
          rw [List.map_cons, List.mem_cons, or_iff_right fun h => hb h.symm]
        rw [if_neg hb, List.map_cons, ih]
        simp only [hmem]
        split <;> rfl

/-- Values that are written one after the other stand under those names that were there, and then under
the others, each at its first place. -/
theorem map_fst_foldl_bindName (pairs bs : List (String × String)) :
    (pairs.foldl (fun bs b => bindName bs b.1 b.2) bs).map Prod.fst =
      bs.map Prod.fst ++ dedupeFrom (bs.map Prod.fst) (pairs.map Prod.fst) := by
  induction pairs generalizing bs with
  | nil => exact (List.append_nil _).symm
  | cons p pairs ih =>
      rw [List.foldl_cons, ih, map_fst_bindName, List.map_cons, dedupeFrom]
      split
      · rfl
      · have hseen : dedupeFrom (bs.map Prod.fst ++ [p.1]) (pairs.map Prod.fst) =
            dedupeFrom (p.1 :: bs.map Prod.fst) (pairs.map Prod.fst) :=
          dedupeFrom_congr fun q => by simp [or_comm]
        rw [hseen, List.append_assoc, List.singleton_append]

/-- Arguments under the names of their variables. -/
def renamed (args : List (String × String)) : List (String × String) :=
  args.map fun a => (variableName a.1, a.2)

theorem environment_eq (args : List (String × String)) :
    environment args = (renamed args).foldl (fun bs b => bindName bs b.1 b.2) [] := by
  rw [environment, renamed, List.foldl_map]

/-- The variables are those of the arguments, each at its first place. -/
theorem map_fst_environment (args : List (String × String)) :
    (environment args).map Prod.fst = dedupe (args.map fun a => variableName a.1) := by
  rw [environment_eq, map_fst_foldl_bindName, renamed, List.map_map]
  rfl

theorem nodup_environment (args : List (String × String)) :
    ((environment args).map Prod.fst).Nodup := by
  rw [map_fst_environment]
  exact dedupe_nodup _

/-! ### Values of variables -/

/-- Where no name stands twice, an entry is what is found under its name. -/
theorem lookup_eq_some_iff {bs : List (String × String)} (h : (bs.map Prod.fst).Nodup) :
    Template.lookup bs k = some v ↔ (k, v) ∈ bs := by
  induction bs with
  | nil => simp
  | cons b bs ih =>
      obtain ⟨hb, hbs⟩ := List.nodup_cons.1 h
      obtain ⟨key, value⟩ := b
      rw [Template.lookup_cons, List.mem_cons, Prod.mk.injEq]
      split
      · rename_i hkey
        obtain rfl : key = k := hkey
        have hnot : (key, v) ∉ bs := fun hmem => hb (List.mem_map.2 ⟨_, hmem, rfl⟩)
        rw [or_iff_left hnot, Option.some.injEq, eq_comm, and_iff_right rfl]
      · rename_i hkey
        rw [ih hbs, or_iff_right fun h => hkey h.1.symm]

/-- A variable has the value of the last argument that comes to it. -/
theorem lookup_environment (args : List (String × String)) (k : String) :
    Template.lookup (environment args) k =
      (args.reverse.find? fun a => variableName a.1 = k).map Prod.snd := by
  -- seen from its end, a fold writes the last argument first, and what is written last stands
  rw [environment, List.foldl_eq_foldr_reverse]
  induction args.reverse with
  | nil => rfl
  | cons a later ih =>
      rw [List.foldr_cons, Template.lookup_bindName, ih]
      by_cases ha : variableName a.1 = k
      · rw [if_pos ha, List.find?_cons_of_pos (by simpa using ha), Option.map_some]
      · rw [if_neg ha, List.find?_cons_of_neg (by simpa using ha)]

/-- An argument after which no other one comes to its variable gives its value, and no other does. -/
theorem mem_environment_iff :
    (k, v) ∈ environment args ↔
      ∃ before name after, args = before ++ (name, v) :: after ∧ variableName name = k ∧
        ∀ a ∈ after, variableName a.1 ≠ k := by
  rw [← lookup_eq_some_iff (nodup_environment args), lookup_environment, Option.map_eq_some_iff]
  constructor
  · rintro ⟨⟨name, value⟩, hfind, rfl⟩
    obtain ⟨hname, later, earlier, hsplit, hlater⟩ := List.find?_eq_some_iff_append.1 hfind
    refine ⟨earlier.reverse, name, later.reverse, ?_, of_decide_eq_true hname, fun a ha => ?_⟩
    · rw [← List.reverse_inj, hsplit]
      simp
    · simpa using hlater a (List.mem_reverse.1 ha)
  · rintro ⟨before, name, after, rfl, hname, hafter⟩
    refine ⟨(name, v), List.find?_eq_some_iff_append.2 ⟨decide_eq_true hname, after.reverse,
      before.reverse, by simp, fun a ha => ?_⟩, rfl⟩
    simpa using hafter a (List.mem_reverse.1 ha)

/-! ### What is lost -/

/-- Names that come to different variables. -/
theorem nodup_variables_iff :
    (args.map fun a => variableName a.1).Nodup ↔
      args.Pairwise fun a b => Text.lower (sanitised a.1) ≠ Text.lower (sanitised b.1) := by
  rw [List.nodup_iff_pairwise_ne, List.pairwise_map]
  simp only [ne_eq, variableName_eq_iff]

/-- As many variables as arguments are there just if no two names come to the same variable. -/
theorem length_environment_eq_iff :
    (environment args).length = args.length ↔
      args.Pairwise fun a b => Text.lower (sanitised a.1) ≠ Text.lower (sanitised b.1) := by
  have hkeys : (environment args).length = (dedupe (args.map fun a => variableName a.1)).length := by
    rw [← map_fst_environment, List.length_map]
  have hargs : args.length = (args.map fun a => variableName a.1).length :=
    (List.length_map ..).symm
  rw [hkeys, hargs, length_dedupe_eq_iff, nodup_variables_iff]

/-- Then each argument is there, in its place. -/
theorem environment_eq_renamed (h : (args.map fun a => variableName a.1).Nodup) :
    environment args = renamed args := by
  have hnames : (([] ++ renamed args).map Prod.fst).Nodup := by
    rw [List.nil_append, renamed, List.map_map]
    exact h
  rw [environment_eq, foldl_bindName hnames, List.nil_append]

/-- **Which variables arguments come to, and what is lost.**  A variable has nothing but capitals,
digits and underscores after its front; the variables are the sanitised names in capitals, in the order
in which they come first; each has the value of the last argument that comes to it; and no argument is
lost just if the sanitised names differ pairwise in more than letter case. -/
theorem environment_exports (args : List (String × String)) :
    (∀ k ∈ (environment args).map Prod.fst, ∃ back : String, k = "DEVFLOW_ARG_" ++ back ∧
      ∀ c ∈ back.toList, isVariableChar c = true) ∧
    KeepsFirst (args.map fun a => "DEVFLOW_ARG_" ++ Text.upper (sanitised a.1))
      ((environment args).map Prod.fst) ∧
    ((environment args).map Prod.fst).Nodup ∧
    (∀ k v, (k, v) ∈ environment args ↔
      ∃ before name after, args = before ++ (name, v) :: after ∧
        "DEVFLOW_ARG_" ++ Text.upper (sanitised name) = k ∧
        ∀ a ∈ after, "DEVFLOW_ARG_" ++ Text.upper (sanitised a.1) ≠ k) ∧
    ((environment args).length = args.length ↔
      args.Pairwise fun a b => Text.lower (sanitised a.1) ≠ Text.lower (sanitised b.1)) ∧
    (environment args = args.map (fun a => ("DEVFLOW_ARG_" ++ Text.upper (sanitised a.1), a.2)) ↔
      args.Pairwise fun a b => Text.lower (sanitised a.1) ≠ Text.lower (sanitised b.1)) := by
  have hname (name : String) : "DEVFLOW_ARG_" ++ Text.upper (sanitised name) = variableName name :=
    (variableName_eq name).symm
  simp only [hname]
  refine ⟨fun k hk => ?_, ?_, nodup_environment args, fun k v => mem_environment_iff,
    length_environment_eq_iff, fun h => ?_, fun h => ?_⟩
  · rw [map_fst_environment, mem_dedupe, List.mem_map] at hk
    obtain ⟨a, -, rfl⟩ := hk
    exact ⟨_, variableName_eq a.1, fun c => isVariableChar_of_mem_upper⟩
  · rw [map_fst_environment]
    exact keepsFirst_dedupe _
  · exact length_environment_eq_iff.1 (by rw [h, List.length_map])
  · exact environment_eq_renamed (nodup_variables_iff.2 h)

/-- A letter that would have two capitals becomes one underscore before capitals are taken. -/
example : environment [("straße", "1"), ("log-level", "2"), ("stra_E", "3")] =
    [("DEVFLOW_ARG_STRA_E", "3"), ("DEVFLOW_ARG_LOG_LEVEL", "2")] := by decide +kernel

end Conveyor.Local
