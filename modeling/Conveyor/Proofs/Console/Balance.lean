/-
**Texts whose tags match.**

Whether a text can be shown depends on its tags alone: not on where they stand, nor on the characters
between them.  So characters that belong to no tag may be written before and after a text, and a table
can be drawn if its title and its cells can be shown.

Main definitions:

* `Conveyor.Console.Markup.tags` — the tags of a text, in order;
* `Conveyor.Console.Markup.open?` — what is open after a tag;
* `Conveyor.Console.Markup.IsBalanced` — a text whose tags match;
* `Conveyor.Console.Markup.IsPlain` — a text without brackets and backslashes.

Main results:

* `Conveyor.Console.Markup.isBalanced_iff` — **whether tags match is a matter of the tags**;
* `Conveyor.Console.Markup.IsPlain.isBalanced`, `Conveyor.Console.Markup.isBalanced_append_iff` — plain
  texts, alone and around others;
* `Conveyor.Console.Table.exists_draw_iff` — which tables can be drawn.
-/

import Conveyor.Console.Table
import Mathlib.Data.List.TakeWhile

set_option autoImplicit false

namespace Conveyor.Console

namespace Markup

/-! ### Tags -/

/-- The tags among pieces. -/
def bodies (ps : List Piece) : List (List Char) :=
  ps.filterMap fun
    | .tag _ body => some body
    | .text _ => none

/-- The tags of a text. -/
def tags (cs : List Char) : List (List Char) := bodies (piecesFrom 0 [] cs)

/-- What is open after a tag, the last one first; nothing if the tag closes what is not open. -/
def open? (opened : List String) (body : List Char) : Option (List String) :=
  match (tagName body).toList with
  | '/' :: name =>
    let name := Text.strip (String.ofList name)
    if name = "" then opened.tail?
    else if opened.contains (styleName name) then some (opened.erase (styleName name))
    else none
  | name => some (styleName (String.ofList name) :: opened)

/-- A text whose tags match. -/
def IsBalanced (s : String) : Prop := ∃ cs, shown s = .ok cs

theorem bodies_tag (position : Nat) (body : List Char) (ps : List Piece) :
    bodies (.tag position body :: ps) = body :: bodies ps := rfl

section
variable {opened : List String} {position : Nat} {body name : List Char} {ps : List Piece}

theorem open?_of_slash (h : (tagName body).toList = '/' :: name) :
    open? opened body =
      if Text.strip (String.ofList name) = "" then opened.tail?
      else if opened.contains (styleName (Text.strip (String.ofList name))) then
        some (opened.erase (styleName (Text.strip (String.ofList name))))
      else none := by
  simp only [open?, h]

theorem open?_of_no_slash (h : ∀ name, (tagName body).toList ≠ '/' :: name) :
    open? opened body = some (styleName (String.ofList (tagName body).toList) :: opened) := by
  rw [open?]
  split
  · rename_i name hname
    exact absurd hname (h name)
  · rfl

theorem shownFrom_of_no_slash (h : ∀ name, (tagName body).toList ≠ '/' :: name) :
    shownFrom opened (.tag position body :: ps) =
      shownFrom (styleName (String.ofList (tagName body).toList) :: opened) ps := by
  rw [shownFrom.eq_def]
  simp only

end

/-- Whether tags match is a matter of the tags. -/
theorem exists_shownFrom_iff (opened : List String) (ps : List Piece) :
    (∃ cs, shownFrom opened ps = .ok cs) ↔ ((bodies ps).foldlM open? opened).isSome = true := by
  induction ps generalizing opened with
  | nil => simp [bodies, shownFrom]
  | cons piece ps ih =>
      cases piece with
      | text cs =>
          rw [show bodies (.text cs :: ps) = bodies ps from rfl, ← ih, shownFrom]
          cases shownFrom opened ps <;> simp [Functor.map, Except.map]
      | tag position body =>
          rw [bodies_tag, List.foldlM_cons]
          by_cases hslash : ∃ name, (tagName body).toList = '/' :: name
          · obtain ⟨name, hname⟩ := hslash
            simp only [shownFrom, hname, open?_of_slash hname]
            -- A closing tag without a name closes what was opened last.
            by_cases hempty : Text.strip (String.ofList name) = ""
            · cases opened with
              | nil => simp [hempty]
              | cons _ rest => simpa [hempty] using ih rest
            · simp only [hempty, if_false]
              split
              · simpa using ih _
              · simp
          · have hnone := not_exists.1 hslash
            rw [shownFrom_of_no_slash hnone, open?_of_no_slash hnone]
            simpa using ih _

/-! ### The tags of characters -/

variable {cs pre post : List Char} {c : Char} {s : String}

theorem bodies_textPiece (cs : List Char) : bodies (textPiece cs) = [] := by
  simp only [textPiece]
  split <;> rfl

theorem bodies_append (ps qs : List Piece) : bodies (ps ++ qs) = bodies ps ++ bodies qs :=
  List.filterMap_append ..

/-- A tag with backslashes before it is a tag if none is left over. -/
theorem bodies_tagPieces (position backslashes : Nat) (body : List Char) :
    bodies (tagPieces position backslashes body) = if backslashes % 2 = 1 then [] else [body] := by
  rw [tagPieces, bodies_append, bodies_textPiece]
  split
  · rw [bodies_textPiece]
    rfl
  · rfl

/-- The tags of characters do not depend on where these stand. -/
theorem bodies_piecesFrom (position position' : Nat) (before before' cs : List Char) :
    bodies (piecesFrom position before cs) = bodies (piecesFrom position' before' cs) := by
  fun_induction piecesFrom position before cs generalizing position' before' with
  | case1 position before => rw [piecesFrom, bodies_textPiece, bodies_textPiece]
  | case2 position before c rest n body after h _ ih =>
      rw [piecesFrom]
      split
      · rename_i h'
        cases h'.symm.trans h
        simp only [bodies_append, bodies_textPiece, bodies_tagPieces]
        rw [ih]
      · rename_i h'
        cases h'.symm.trans h
  | case3 position before c rest h ih =>
      rw [piecesFrom]
      split
      · rename_i h'
        cases h'.symm.trans h
      · exact ih _ _

theorem tags_nil : tags [] = [] := by
  rw [tags, piecesFrom, bodies_textPiece]

theorem tags_of_escapedTagAt? {n : Nat} {body after : List Char}
    (h : escapedTagAt? (c :: cs) = some (n, body, after)) :
    tags (c :: cs) = (if n % 2 = 1 then [] else [body]) ++ tags after := by
  rw [tags, piecesFrom]
  split
  · rename_i h'
    cases h'.symm.trans h
    rw [bodies_append, bodies_append, bodies_textPiece, bodies_tagPieces, List.nil_append,
      bodies_piecesFrom _ 0 _ []]
    rfl
  · rename_i h'
    cases h'.symm.trans h

theorem tags_of_no_tag (h : escapedTagAt? (c :: cs) = none) : tags (c :: cs) = tags cs := by
  rw [tags, piecesFrom]
  split
  · rename_i h'
    cases h'.symm.trans h
  · exact bodies_piecesFrom _ _ _ _ _

/-- A text can be shown just when its tags match. -/
theorem isBalanced_iff : IsBalanced s ↔ ((tags s.toList).foldlM open? []).isSome = true :=
  exists_shownFrom_iff [] _

/-! ### Plain characters -/

theorem escapedTagAt?_of_plain (hopen : c ≠ '[') (hslash : c ≠ '\\') :
    escapedTagAt? (c :: cs) = none := by
  simp [escapedTagAt?, tagAt?, hopen, hslash]

/-- Characters before a text that neither begin nor escape a tag do not count. -/
theorem tags_plain_append (h : ∀ c ∈ pre, c ≠ '[' ∧ c ≠ '\\') : tags (pre ++ cs) = tags cs := by
  induction pre with
  | nil => rfl
  | cons c pre ih =>
      have hc := h c (List.mem_cons_self ..)
      rw [List.cons_append, tags_of_no_tag (escapedTagAt?_of_plain hc.1 hc.2)]
      exact ih fun d hd => h d (List.mem_cons_of_mem _ hd)

theorem tagAt?_of_plain (h : ∀ c ∈ cs, c ≠ '[') : tagAt? cs = none := by
  cases cs with
  | nil => rfl
  | cons c cs => simp [tagAt?, h c (List.mem_cons_self ..)]

/-- A text without opening brackets has no tags. -/
theorem tags_of_plain (h : ∀ c ∈ cs, c ≠ '[') : tags cs = [] := by
  induction cs with
  | nil => exact tags_nil
  | cons c cs ih =>
      have hnone : escapedTagAt? (c :: cs) = none := by
        rw [escapedTagAt?, tagAt?_of_plain fun d hd => h d ((List.dropWhile_sublist _).subset hd)]
        rfl
      rw [tags_of_no_tag hnone, ih fun d hd => h d (List.mem_cons_of_mem _ hd)]

/-- Where a search ends inside a text, what comes after the text is not looked at. -/
theorem takeWhile_append_of_dropWhile_ne_nil {p : Char → Bool} (h : cs.dropWhile p ≠ []) :
    (cs ++ post).takeWhile p = cs.takeWhile p := by
  rw [List.takeWhile_append, if_neg]
  intro hlength
  have hall : cs.takeWhile p = cs := (List.takeWhile_prefix p).eq_of_length hlength
  exact h (List.dropWhile_eq_nil_iff.2 (List.takeWhile_eq_self_iff.1 hall))

/-- A tag at the front is the same whatever plain characters come after the text. -/
theorem tagAt?_append (h : ∀ c ∈ post, c ≠ '[' ∧ c ≠ ']') (hne : cs ≠ []) :
    tagAt? (cs ++ post) = (tagAt? cs).map fun t => (t.1, t.2 ++ post) := by
  have hend (ds : List Char) (hds : ∀ c ∈ ds, c ≠ '[' ∧ c ≠ ']') :
      (ds.dropWhile fun d => d != '[' && d != ']') = [] :=
    List.dropWhile_eq_nil_iff.2 fun c hc => by simpa using hds c hc
  obtain ⟨c, cs, rfl⟩ := List.exists_cons_of_ne_nil hne
  -- A tag that is not closed in the text is not closed by the characters after it.
  by_cases hc : c = '['
  · subst hc
    cases cs with
    | nil =>
        cases post with
        | nil => rfl
        | cons p post => simp [tagAt?, hend post fun c hc => h c (List.mem_cons_of_mem _ hc)]
    | cons d ds =>
        simp only [List.cons_append, tagAt?]
        split
        · rw [List.dropWhile_append, hend post h]
          cases hrest : ds.dropWhile fun d => d != '[' && d != ']' with
          | nil => rfl
          | cons x xs =>
              rw [takeWhile_append_of_dropWhile_ne_nil (by simp [hrest])]
              simp only [List.isEmpty_cons, Bool.false_eq_true, if_false, List.cons_append]
              by_cases hx : x = ']'
              · simp [hx]
              · simp [hx]
        · rfl
  · simp [tagAt?, hc]

theorem escapedTagAt?_append (h : ∀ c ∈ post, c ≠ '[' ∧ c ≠ ']') :
    escapedTagAt? (cs ++ post) =
      (escapedTagAt? cs).map fun t => (t.1, t.2.1, t.2.2 ++ post) := by
  simp only [escapedTagAt?, List.dropWhile_append]
  by_cases hall : cs.dropWhile (· == '\\') = []
  · have hnone : tagAt? (post.dropWhile (· == '\\')) = none :=
      tagAt?_of_plain fun c hc => (h c ((List.dropWhile_sublist _).subset hc)).1
    rw [if_pos (by simpa using hall), hnone, hall]
    rfl
  · rw [if_neg (by simpa using hall), takeWhile_append_of_dropWhile_ne_nil hall,
      tagAt?_append h hall]
    simp [Function.comp_def]

/-- Characters after a text that neither begin nor end a tag do not count. -/
theorem tags_append_plain (h : ∀ c ∈ post, c ≠ '[' ∧ c ≠ ']') : tags (cs ++ post) = tags cs := by
  -- A tag takes several characters away at once.
  induction hlength : cs.length using Nat.strongRecOn generalizing cs with
  | _ n ih =>
      subst hlength
      cases cs with
      | nil =>
          rw [List.nil_append, tags_nil, tags_of_plain fun c hc => (h c hc).1]
      | cons c cs =>
          have happend : escapedTagAt? (c :: cs ++ post) =
              (escapedTagAt? (c :: cs)).map fun t => (t.1, t.2.1, t.2.2 ++ post) :=
            escapedTagAt?_append h
          cases htag : escapedTagAt? (c :: cs) with
          | none =>
              rw [tags_of_no_tag htag, List.cons_append, tags_of_no_tag (by simpa [htag] using happend)]
              exact ih _ (Nat.lt_succ_self _) rfl
          | some t =>
              obtain ⟨n, body, after⟩ := t
              rw [htag, List.cons_append, Option.map_some] at happend
              rw [tags_of_escapedTagAt? htag, List.cons_append, tags_of_escapedTagAt? happend,
                ih _ (length_of_escapedTagAt? htag) rfl]

/-! ### Plain texts -/

/-- A text without brackets and backslashes. -/
def IsPlain (s : String) : Prop := ∀ c ∈ s.toList, c ≠ '[' ∧ c ≠ ']' ∧ c ≠ '\\'

instance (s : String) : Decidable (IsPlain s) := List.decidableBAll _ s.toList

variable {t before after : String}

theorem IsPlain.append (hs : IsPlain s) (ht : IsPlain t) : IsPlain (s ++ t) := by
  intro c hc
  rw [String.toList_append] at hc
  exact (List.mem_append.1 hc).elim (hs c) (ht c)

theorem IsPlain.intercalate {ts : List String} (hs : IsPlain s) (hts : ∀ t ∈ ts, IsPlain t) :
    IsPlain (s.intercalate ts) := by
  induction ts with
  | nil => simp [IsPlain]
  | cons t ts ih =>
      obtain ⟨ht, hrest⟩ := List.forall_mem_cons.1 hts
      cases ts with
      | nil => simpa using ht
      | cons u ts =>
          rw [String.intercalate_cons_cons]
          exact (ht.append hs).append (ih hrest)

/-- The digits of a number are plain. -/
theorem isPlain_toString (n : Nat) : IsPlain (toString n) := by
  intro c hc
  have hdigit : c.isDigit = true := by
    rw [Nat.toString_eq_ofList_toDigits, String.toList_ofList] at hc
    exact Nat.isDigit_of_mem_toDigits (by decide) (by decide) hc
  refine ⟨?_, ?_, ?_⟩ <;>
    · rintro rfl
      exact absurd hdigit (by decide)

theorem isPlain_toString_int (i : Int) : IsPlain (toString i) := by
  cases i with
  | ofNat n => exact isPlain_toString n
  | negSucc n => exact IsPlain.append (by decide) (isPlain_toString (n + 1))

/-- A plain text can be shown. -/
theorem IsPlain.isBalanced (h : IsPlain s) : IsBalanced s := by
  rw [isBalanced_iff, tags_of_plain fun c hc => (h c hc).1]
  rfl

/-- Plain texts before and after a text do not count. -/
theorem isBalanced_append_iff (hbefore : IsPlain before) (hafter : IsPlain after) :
    IsBalanced (before ++ s ++ after) ↔ IsBalanced s := by
  rw [isBalanced_iff, isBalanced_iff, String.toList_append, String.toList_append,
    tags_append_plain fun c hc => ⟨(hafter c hc).1, (hafter c hc).2.1⟩,
    tags_plain_append fun c hc => ⟨(hbefore c hc).1, (hbefore c hc).2.2⟩]

end Markup

/-! ### Tables -/

open Markup

theorem exists_shownAll_iff (ss : List String) :
    (∃ css, shownAll ss = .ok css) ↔ ∀ s ∈ ss, IsBalanced s := by
  induction ss with
  | nil => simp [shownAll]
  | cons s ss ih =>
      rw [List.forall_mem_cons, ← ih, shownAll, IsBalanced]
      cases shown s <;> cases shownAll ss <;> simp [bind, Except.bind, pure, Except.pure]

theorem exists_shownColumns_iff (columns : List (List String)) :
    (∃ css, shownColumns columns = .ok css) ↔ ∀ column ∈ columns, ∀ s ∈ column, IsBalanced s := by
  induction columns with
  | nil => simp [shownColumns]
  | cons column columns ih =>
      rw [List.forall_mem_cons, ← ih, ← exists_shownAll_iff, shownColumns]
      cases shownAll column <;> cases shownColumns columns <;>
        simp [bind, Except.bind, pure, Except.pure]

namespace Table

/-- The columns of a table whose rows are as long as its heads hold its heads and its cells. -/
theorem forall_mem_columns_iff {t : Table} (h : ∀ r ∈ t.rows, r.length = t.heads.length)
    (P : String → Prop) :
    (∀ column ∈ t.columns, ∀ s ∈ column, P s) ↔
      (∀ s ∈ t.heads, P s) ∧ ∀ r ∈ t.rows, ∀ s ∈ r, P s := by
  constructor
  · intro hall
    have hcolumn (i : Nat) (hi : i < t.heads.length) :
        ∀ s ∈ t.heads[i] :: t.rows.map fun r => r[i]?.getD "", P s :=
      hall _ (List.mem_mapIdx.2 ⟨i, hi, rfl⟩)
    constructor
    · intro s hs
      obtain ⟨i, hi, rfl⟩ := List.getElem_of_mem hs
      exact hcolumn i hi _ (List.mem_cons_self ..)
    · intro r hr s hs
      obtain ⟨i, hi, rfl⟩ := List.getElem_of_mem hs
      exact hcolumn i (h r hr ▸ hi) _
        (List.mem_cons_of_mem _ (List.mem_map.2 ⟨r, hr, by simp [hi]⟩))
  · rintro ⟨hheads, hrows⟩ column hcolumn s hs
    obtain ⟨i, hi, rfl⟩ := List.mem_mapIdx.1 hcolumn
    rcases List.mem_cons.1 hs with rfl | hs
    · exact hheads _ (List.getElem_mem hi)
    · obtain ⟨r, hr, rfl⟩ := List.mem_map.1 hs
      have hlength : i < r.length := h r hr ▸ hi
      rw [List.getElem?_eq_getElem hlength]
      exact hrows r hr _ (List.getElem_mem hlength)

/-- A table can be drawn if its title, its heads and its cells can be shown. -/
theorem exists_draw_iff {t : Table} (h : ∀ r ∈ t.rows, r.length = t.heads.length)
    (screen : Nat) :
    (∃ ls, t.draw screen = .ok ls) ↔
      IsBalanced t.title ∧ (∀ s ∈ t.heads, IsBalanced s) ∧ ∀ r ∈ t.rows, ∀ s ∈ r, IsBalanced s := by
  rw [← forall_mem_columns_iff h, ← exists_shownColumns_iff, IsBalanced, Table.draw]
  cases shownColumns t.columns <;> cases shown t.title <;>
    simp [bind, Except.bind, pure, Except.pure]

end Table

end Conveyor.Console
