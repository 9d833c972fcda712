/-
**What a placeholder looks like.**

Inside the braces of a placeholder stands a name with blanks around it, and before the name the word
`matrix.` may stand.  This word may also be the beginning of a name; where a name is left after it, it
is no part of the name.  This module states the grammar of placeholders and shows that reading finds
just the placeholders of this grammar.  As no dollar sign stands inside the braces, a placeholder
never reaches into the next one.

Main definitions:

* `Conveyor.Template.IsName` — the names of placeholders;
* `Conveyor.Template.Inside` — a name as it stands inside the braces;
* `Conveyor.Template.IsPlaceholder` — a whole placeholder, or one that is plain text.

Main results:

* `Conveyor.Template.closedName?_eq_some_iff`, `Conveyor.Template.inside?_eq_some_iff` — the parts of
  a placeholder are read as the grammar has them;
* `Conveyor.Template.front?_eq_some_iff` — **reading finds just the placeholders**;
* `Conveyor.Template.Inside.dollar_not_mem` — no dollar sign stands inside the braces;
* `Conveyor.Template.piecesOf_induction` — a template is taken apart into characters at which no
  placeholder begins, and placeholders.
-/

import Conveyor.Template

set_option autoImplicit false

namespace Conveyor.Template

/-! ### Blanks and names -/

/-- A name: a letter or an underscore, then letters, digits, underscores, points and dashes. -/
def IsName : List Char → Prop
  | [] => False
  | c :: cs => startsName c = true ∧ ∀ d ∈ cs, isNameChar d = true

instance : DecidablePred IsName
  | [] => isFalse id
  | c :: cs => decidable_of_iff (startsName c = true ∧ cs.all isNameChar = true)
      (and_congr_right fun _ => List.all_eq_true)

theorem isNameChar_of_startsName {c : Char} (h : startsName c = true) : isNameChar c = true := by
  simp only [startsName, Bool.or_eq_true] at h
  simp only [isNameChar, Char.isAlphanum, Bool.or_eq_true]
  rcases h with h | h
  · exact .inl (.inl (.inl (.inl h)))
  · exact .inl (.inl (.inr h))

theorem IsName.isNameChar {name : List Char} (h : IsName name) :
    ∀ c ∈ name, Template.isNameChar c = true := by
  intro c hc
  cases name with
  | nil => exact h.elim
  | cons d ds =>
      rcases List.mem_cons.1 hc with rfl | hc
      · exact isNameChar_of_startsName h.1
      · exact h.2 c hc

/-- The characters of names lie between the dash and the last small letter. -/
theorem toNat_of_isNameChar {c : Char} (h : isNameChar c = true) : 45 ≤ c.toNat ∧ c.toNat ≤ 122 := by
  have hcapital : c.isUpper = true → 65 ≤ c.toNat ∧ c.toNat ≤ 90 := of_decide_eq_true
  have hsmall : c.isLower = true → 97 ≤ c.toNat ∧ c.toNat ≤ 122 := by
    intro hc
    obtain ⟨hlow, hhigh⟩ := Bool.and_eq_true_iff.1 hc
    exact ⟨of_decide_eq_true hlow, of_decide_eq_true hhigh⟩
  have hdigit : c.isDigit = true → 48 ≤ c.toNat ∧ c.toNat ≤ 57 := by
    intro hc
    obtain ⟨hlow, hhigh⟩ := Bool.and_eq_true_iff.1 hc
    exact ⟨of_decide_eq_true hlow, of_decide_eq_true hhigh⟩
  have hletter : c.isAlpha = true → c.isUpper = true ∨ c.isLower = true := Bool.or_eq_true_iff.1
  simp only [isNameChar, Char.isAlphanum, Bool.or_eq_true, beq_iff_eq] at h
  rcases h with (((h | h) | rfl) | rfl) | rfl
  · rcases hletter h with h | h
    · have hbounds := hcapital h
      omega
    · have hbounds := hsmall h
      omega
  · have hbounds := hdigit h
    omega
  · decide
  · decide
  · decide

theorem toNat_of_isBlank {c : Char} (h : Text.isBlank c = true) : c.toNat ≤ 32 ∨ 133 ≤ c.toNat := by
  simp only [Text.isBlank, Text.blankRanges, List.any_cons, List.any_nil, Bool.or_eq_true,
    Bool.and_eq_true, decide_eq_true_eq, Bool.or_false] at h
  omega

/-- No blank is part of a name. -/
theorem isNameChar_of_isBlank {c : Char} (h : Text.isBlank c = true) : isNameChar c = false := by
  rw [Bool.eq_false_iff]
  intro hname
  have hnear := toNat_of_isNameChar hname
  have hfar := toNat_of_isBlank h
  omega

theorem isBlank_of_isNameChar {c : Char} (h : isNameChar c = true) : Text.isBlank c = false := by
  rw [Bool.eq_false_iff]
  intro hblank
  rw [isNameChar_of_isBlank hblank] at h
  exact absurd h Bool.false_ne_true

/-! ### Where names end -/

section
variable {name w rest : List Char}

/-- After a name stands no character that could go on with it. -/
theorem isNameChar_head?_of_isBlank (hw : ∀ c ∈ w, Text.isBlank c = true) :
    ∀ c ∈ (w ++ '\x7d' :: rest).head?, isNameChar c = false := by
  intro c hc
  cases w with
  | nil =>
      obtain rfl := Option.some.inj hc
      decide
  | cons d ds =>
      obtain rfl := Option.some.inj hc
      exact isNameChar_of_isBlank (hw d (List.mem_cons_self ..))

theorem dropWhile_isNameChar (hname : ∀ c ∈ name, isNameChar c = true)
    (hw : ∀ c ∈ w, Text.isBlank c = true) :
    (name ++ (w ++ '\x7d' :: rest)).dropWhile isNameChar = w ++ '\x7d' :: rest := by
  rw [List.dropWhile_append_of_pos hname]
  exact Text.dropWhile_eq_self (isNameChar_head?_of_isBlank hw)

theorem takeWhile_isNameChar (hname : ∀ c ∈ name, isNameChar c = true)
    (hw : ∀ c ∈ w, Text.isBlank c = true) :
    (name ++ (w ++ '\x7d' :: rest)).takeWhile isNameChar = name := by
  have happ := List.takeWhile_append_dropWhile
    (p := isNameChar) (l := name ++ (w ++ '\x7d' :: rest))
  rw [dropWhile_isNameChar hname hw] at happ
  exact List.append_cancel_right happ

theorem dropWhile_isBlank (hw : ∀ c ∈ w, Text.isBlank c = true)
    (hrest : ∀ c ∈ rest.head?, Text.isBlank c = false) : (w ++ rest).dropWhile Text.isBlank = rest := by
  rw [List.dropWhile_append_of_pos hw]
  exact Text.dropWhile_eq_self hrest

end

/-- What is read as a name is a name, with blanks and the closing brace after it. -/
theorem closedName?_eq_some_iff {cs name rest : List Char} :
    closedName? cs = some (name, rest) ↔
      IsName name ∧ ∃ w, (∀ c ∈ w, Text.isBlank c = true) ∧ cs = name ++ (w ++ '\x7d' :: rest) := by
  constructor
  · intro h
    unfold closedName? at h
    split at h
    · cases h
    · rename_i c tail
      split at h
      · rename_i hstart
        split at h
        · rename_i after hafter
          simp only [Option.some.injEq, Prod.mk.injEq] at h
          obtain ⟨rfl, rfl⟩ := h
          refine ⟨⟨hstart, List.all_eq_true.1 List.all_takeWhile⟩,
            (tail.dropWhile isNameChar).takeWhile Text.isBlank,
            List.all_eq_true.1 List.all_takeWhile, ?_⟩
          rw [← hafter, List.takeWhile_append_dropWhile, List.cons_append,
            List.takeWhile_append_dropWhile]
        · cases h
      · cases h
  · rintro ⟨hname, w, hw, rfl⟩
    cases name with
    | nil => exact hname.elim
    | cons c cs =>
        have hdrop : (cs ++ (w ++ '\x7d' :: rest)).dropWhile isNameChar = w ++ '\x7d' :: rest :=
          dropWhile_isNameChar hname.2 hw
        have htake : (cs ++ (w ++ '\x7d' :: rest)).takeWhile isNameChar = cs :=
          takeWhile_isNameChar hname.2 hw
        have hblank : (w ++ '\x7d' :: rest).dropWhile Text.isBlank = '\x7d' :: rest :=
          dropWhile_isBlank hw fun d hd => by
            obtain rfl := Option.some.inj hd
            decide
        simp only [List.cons_append, closedName?, hname.1, if_true, hdrop, htake, hblank]

/-! ### The inside of the braces -/

/-- A name as it stands inside the braces, up to the closing one.  The word that may stand before a
name belongs to the name only where no name is left after it. -/
inductive Inside (name : List Char) : List Char → Prop
  | fronted {w₁ w₂ : List Char} (before : ∀ c ∈ w₁, Text.isBlank c = true) (isName : IsName name)
      (after : ∀ c ∈ w₂, Text.isBlank c = true) :
      Inside name (w₁ ++ (nameFront ++ (name ++ (w₂ ++ ['\x7d']))))
  | bare {w₁ w₂ : List Char} (before : ∀ c ∈ w₁, Text.isBlank c = true) (isName : IsName name)
      (whole : ∀ n, IsName n → name ≠ nameFront ++ n) (after : ∀ c ∈ w₂, Text.isBlank c = true) :
      Inside name (w₁ ++ (name ++ (w₂ ++ ['\x7d'])))

theorem isNameChar_of_mem_nameFront : ∀ c ∈ nameFront, isNameChar c = true :=
  List.all_eq_true.1 (by decide)

/-- No dollar sign stands inside the braces. -/
theorem Inside.dollar_not_mem {name text : List Char} (h : Inside name text) : '$' ∉ text := by
  have hblank : ∀ w : List Char, (∀ c ∈ w, Text.isBlank c = true) → '$' ∉ w := by
    intro w hw hmem
    exact absurd (hw _ hmem) (by decide)
  have hword : ∀ n : List Char, (∀ c ∈ n, isNameChar c = true) → '$' ∉ n := by
    intro n hn hmem
    exact absurd (hn _ hmem) (by decide)
  cases h with
  | fronted before isName after =>
      simp only [List.mem_append, List.mem_singleton, not_or]
      exact ⟨hblank _ before, hword _ isNameChar_of_mem_nameFront, hword _ isName.isNameChar,
        hblank _ after, by decide⟩
  | bare before isName _ after =>
      simp only [List.mem_append, List.mem_singleton, not_or]
      exact ⟨hblank _ before, hword _ isName.isNameChar, hblank _ after, by decide⟩

theorem isBlank_head?_of_isName {name rest : List Char} (h : IsName name) :
    ∀ c ∈ (name ++ rest).head?, Text.isBlank c = false := by
  intro c hc
  cases name with
  | nil => exact h.elim
  | cons d ds =>
      obtain rfl := Option.some.inj hc
      exact isBlank_of_isNameChar (isNameChar_of_startsName h.1)

theorem Inside.dollar_not_mem_cons {name text : List Char} (h : Inside name text) :
    '$' ∉ '\x7b' :: text := by
  intro hmem
  exact h.dollar_not_mem ((List.mem_cons.1 hmem).resolve_left (by decide))

/-- A text cannot be read both as a name and as the front word and a name, unless the first name
begins with the word. -/
theorem eq_nameFront_append {name n w w' rest rest' : List Char} (hname : IsName name)
    (hn : IsName n) (hw : ∀ c ∈ w, Text.isBlank c = true) (hw' : ∀ c ∈ w', Text.isBlank c = true)
    (h : name ++ (w ++ '\x7d' :: rest) = nameFront ++ (n ++ (w' ++ '\x7d' :: rest'))) :
    name = nameFront ++ n := by
  have hlong : ∀ c ∈ nameFront ++ n, isNameChar c = true := by
    intro c hc
    rcases List.mem_append.1 hc with hc | hc
    · exact isNameChar_of_mem_nameFront c hc
    · exact hn.isNameChar c hc
  rw [← List.append_assoc nameFront] at h
  calc name = (name ++ (w ++ '\x7d' :: rest)).takeWhile isNameChar :=
        (takeWhile_isNameChar hname.isNameChar hw).symm
    _ = (nameFront ++ n ++ (w' ++ '\x7d' :: rest')).takeWhile isNameChar := by rw [h]
    _ = nameFront ++ n := takeWhile_isNameChar hlong hw'

/-- What is read inside the braces is a name as it may stand there. -/
theorem inside?_eq_some_iff {cs name rest : List Char} :
    inside? cs = some (name, rest) ↔ ∃ text, Inside name text ∧ cs = text ++ rest := by
  constructor
  · intro h
    have hcs : cs.takeWhile Text.isBlank ++ cs.dropWhile Text.isBlank = cs :=
      List.takeWhile_append_dropWhile
    have hbefore : ∀ c ∈ cs.takeWhile Text.isBlank, Text.isBlank c = true :=
      List.all_eq_true.1 List.all_takeWhile
    rw [inside?, Option.or_eq_some_iff] at h
    rcases h with h | ⟨hnone, h⟩
    · split at h
      · rename_i hfront
        obtain ⟨ds, hds⟩ := List.isPrefixOf_iff_prefix.1 hfront
        rw [← hds, List.drop_left] at h
        obtain ⟨hname, w₂, hafter, rfl⟩ := closedName?_eq_some_iff.1 h
        refine ⟨_, .fronted hbefore hname hafter, ?_⟩
        simpa only [List.append_assoc, List.cons_append, List.nil_append, hds] using hcs.symm
      · cases h
    · obtain ⟨hname, w₂, hafter, hds⟩ := closedName?_eq_some_iff.1 h
      refine ⟨_, .bare hbefore hname ?_ hafter, ?_⟩
      · -- A name that is left after the front word would have been read in its place.
        rintro n hn rfl
        rw [hds, List.append_assoc, if_pos (List.isPrefixOf_iff_prefix.2 ⟨_, rfl⟩), List.drop_left,
          closedName?_eq_some_iff.2 ⟨hn, w₂, hafter, rfl⟩] at hnone
        cases hnone
      · simpa only [List.append_assoc, List.cons_append, List.nil_append, ← hds] using hcs.symm
  · rintro ⟨text, htext, rfl⟩
    cases htext with
    | @fronted w₁ w₂ before isName after =>
        have hfront : IsName nameFront := by decide
        have hdrop : (w₁ ++ (nameFront ++ (name ++ (w₂ ++ '\x7d' :: rest)))).dropWhile Text.isBlank =
            nameFront ++ (name ++ (w₂ ++ '\x7d' :: rest)) :=
          dropWhile_isBlank before (isBlank_head?_of_isName hfront)
        have hread : closedName? (name ++ (w₂ ++ '\x7d' :: rest)) = some (name, rest) :=
          closedName?_eq_some_iff.2 ⟨isName, w₂, after, rfl⟩
        simp only [List.append_assoc, List.cons_append, List.nil_append, inside?, hdrop,
          List.drop_left, hread, Option.some_or,
          if_pos (List.isPrefixOf_iff_prefix.2 (List.prefix_append nameFront _))]
    | @bare w₁ w₂ before isName whole after =>
        have hdrop : (w₁ ++ (name ++ (w₂ ++ '\x7d' :: rest))).dropWhile Text.isBlank =
            name ++ (w₂ ++ '\x7d' :: rest) :=
          dropWhile_isBlank before (isBlank_head?_of_isName isName)
        have hread : closedName? (name ++ (w₂ ++ '\x7d' :: rest)) = some (name, rest) :=
          closedName?_eq_some_iff.2 ⟨isName, w₂, after, rfl⟩
        simp only [List.append_assoc, List.cons_append, List.nil_append, inside?, hdrop, hread,
          Option.or_eq_some_iff]
        refine .inr ⟨?_, trivial⟩
        split
        · rename_i hfront
          obtain ⟨ds, hds⟩ := List.isPrefixOf_iff_prefix.1 hfront
          rw [← hds, List.drop_left]
          rw [Option.eq_none_iff_forall_ne_some]
          rintro ⟨n, rest'⟩ hshort
          obtain ⟨hn, w, hw, rfl⟩ := closedName?_eq_some_iff.1 hshort
          exact whole n hn (eq_nameFront_append isName hn after hw hds.symm)
        · rfl

/-! ### Placeholders -/

/-- A placeholder: whether it is plain text, its name, and how it is written. -/
inductive IsPlaceholder : Bool → List Char → List Char → Prop
  | value {name text : List Char} (inside : Inside name text) :
      IsPlaceholder false name ('$' :: '\x7b' :: text)
  | plain {name text : List Char} (inside : Inside name text) :
      IsPlaceholder true name ('$' :: '$' :: '\x7b' :: text)

/-- Reading finds just the placeholders. -/
theorem front?_eq_some_iff {cs name rest : List Char} {plain : Bool} :
    front? cs = some (plain, name, rest) ↔
      ∃ text, IsPlaceholder plain name text ∧ cs = text ++ rest := by
  constructor
  · intro h
    unfold front? at h
    split at h
    · obtain ⟨⟨name, rest⟩, hread, he⟩ := Option.map_eq_some_iff.1 h
      cases he
      obtain ⟨text, hinside, rfl⟩ := inside?_eq_some_iff.1 hread
      exact ⟨_, .plain hinside, rfl⟩
    · obtain ⟨⟨name, rest⟩, hread, he⟩ := Option.map_eq_some_iff.1 h
      cases he
      obtain ⟨text, hinside, rfl⟩ := inside?_eq_some_iff.1 hread
      exact ⟨_, .value hinside, rfl⟩
    · cases h
  · rintro ⟨text, htext, rfl⟩
    cases htext with
    | value inside =>
        simp only [List.cons_append, front?, inside?_eq_some_iff.2 ⟨_, inside, rfl⟩, Option.map_some]
    | plain inside =>
        simp only [List.cons_append, front?, inside?_eq_some_iff.2 ⟨_, inside, rfl⟩, Option.map_some]

theorem front?_eq_none_iff {cs : List Char} :
    front? cs = none ↔ ∀ plain name text rest, IsPlaceholder plain name text → cs ≠ text ++ rest := by
  constructor
  · intro h plain name text rest htext hcs
    rw [front?_eq_some_iff.2 ⟨text, htext, hcs⟩] at h
    cases h
  · intro h
    rw [Option.eq_none_iff_forall_ne_some]
    rintro ⟨plain, name, rest⟩ hfront
    obtain ⟨text, htext, hcs⟩ := front?_eq_some_iff.1 hfront
    exact h plain name text rest htext hcs

theorem IsPlaceholder.exists_cons {plain : Bool} {name text : List Char}
    (h : IsPlaceholder plain name text) : ∃ tail, text = '$' :: tail := by
  cases h with
  | value _ => exact ⟨_, rfl⟩
  | plain _ => exact ⟨_, rfl⟩

/-- In a placeholder dollar signs stand only in front. -/
theorem IsPlaceholder.eq_of_append_dollar {plain : Bool} {name front back : List Char}
    (h : IsPlaceholder plain name (front ++ '$' :: back)) : front = [] ∨ front = ['$'] := by
  generalize hwhole : front ++ '$' :: back = whole at h
  have hbraces : ∀ cs text, Inside name text → cs ++ '$' :: back ≠ '\x7b' :: text := by
    intro cs text hinside heq
    exact hinside.dollar_not_mem_cons (heq ▸ List.mem_append_right cs (List.mem_cons_self ..))
  cases h with
  | value inside =>
      cases front with
      | nil => exact .inl rfl
      | cons c cs => exact absurd (List.cons.inj hwhole).2 (hbraces cs _ inside)
  | plain inside =>
      match front with
      | [] => exact .inl rfl
      | [c] => exact .inr (congrArg (fun d => [d]) (List.cons.inj hwhole).1)
      | c :: d :: cs =>
          exact absurd (List.cons.inj (List.cons.inj hwhole).2).2 (hbraces cs _ inside)

/-! ### The pieces of a template -/

theorem piecesOf_nil : piecesOf [] = [] := by rw [piecesOf]

theorem piecesOf_of_none {c : Char} {cs : List Char} (h : front? (c :: cs) = none) :
    piecesOf (c :: cs) = .char c :: piecesOf cs := by
  rw [piecesOf]
  split
  · rename_i hsome
    rw [h] at hsome
    cases hsome
  · rename_i hsome
    rw [h] at hsome
    cases hsome
  · rfl

/-- A placeholder is one piece; one that is plain text loses its first dollar sign. -/
theorem piecesOf_of_placeholder {plain : Bool} {name text rest : List Char}
    (h : IsPlaceholder plain name text) :
    piecesOf (text ++ rest) =
      (bif plain then .plain text.tail else .placeholder (String.ofList name)) :: piecesOf rest := by
  have hfront : front? (text ++ rest) = some (plain, name, rest) :=
    front?_eq_some_iff.2 ⟨text, h, rfl⟩
  obtain ⟨tail, rfl⟩ := h.exists_cons
  rw [List.cons_append] at hfront ⊢
  rw [piecesOf]
  split
  · rename_i hsome
    rw [hfront] at hsome
    cases hsome
    rw [List.length_append, Nat.add_sub_cancel, List.take_left]
    rfl
  · rename_i hsome
    rw [hfront] at hsome
    cases hsome
    rfl
  · rename_i hnone
    rw [hfront] at hnone
    cases hnone

theorem piecesOf_of_value {name text rest : List Char} (h : IsPlaceholder false name text) :
    piecesOf (text ++ rest) = .placeholder (String.ofList name) :: piecesOf rest :=
  piecesOf_of_placeholder h

theorem piecesOf_of_plain {name text rest : List Char} (h : IsPlaceholder true name text) :
    piecesOf (text ++ rest) = .plain text.tail :: piecesOf rest :=
  piecesOf_of_placeholder h

/-- A template is empty, or begins with a character at which there is no placeholder, or begins with a
placeholder. -/
theorem piecesOf_induction {motive : List Char → Prop} (nil : motive [])
    (char : ∀ c cs, front? (c :: cs) = none → motive cs → motive (c :: cs))
    (placeholder : ∀ plain name text rest, IsPlaceholder plain name text → motive rest →
      motive (text ++ rest)) : ∀ cs, motive cs := by
  intro cs
  induction cs using piecesOf.induct with
  | case1 => exact nil
  | case2 c cs _ rest h _ ih | case3 c cs _ rest h _ ih =>
      obtain ⟨text, htext, hcs⟩ := front?_eq_some_iff.1 h
      rw [hcs]
      exact placeholder _ _ text rest htext ih
  | case4 c cs h ih => exact char c cs h ih

end Conveyor.Template
