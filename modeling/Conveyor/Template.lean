/-
**Templates: texts with placeholders for the values of axes.**

A placeholder is a dollar sign and a name in braces, with blanks around the name; `matrix.` may
stand before the name.  A second dollar sign in front makes the placeholder a plain text, less one
of its dollar signs.

Main definitions:

* `Conveyor.Template.Piece` — a character, a placeholder, or a placeholder that is plain text;
* `Conveyor.Template.pieces` — the pieces of a text;
* `Conveyor.Template.names` — the names of the placeholders;
* `Conveyor.Template.resolve` — a text with the values for the names.

Main results:

* `Conveyor.Template.length_rest_lt` — reading a placeholder uses up text.
-/

import Conveyor.Fault
import Conveyor.Text.Blank

set_option autoImplicit false

namespace Conveyor.Template

/-- A piece of a template. -/
inductive Piece where
  | char (c : Char)
  | placeholder (name : String)
  | plain (text : List Char)
  deriving DecidableEq, Repr

/-- The characters that may begin a name. -/
def startsName (c : Char) : Bool := c.isAlpha || c == '_'

/-- The characters that may stand in a name after its first. -/
def isNameChar (c : Char) : Bool := c.isAlphanum || c == '_' || c == '.' || c == '-'

/-- A name at the front of a text, with blanks and a closing brace after it. -/
def closedName? (cs : List Char) : Option (List Char × List Char) :=
  match cs with
  | [] => none
  | c :: rest =>
    if startsName c then
      match (rest.dropWhile isNameChar).dropWhile Text.isBlank with
      | '\x7d' :: after => some (c :: rest.takeWhile isNameChar, after)
      | _ => none
    else none

/-- The word that may stand before a name. -/
def nameFront : List Char := "matrix.".toList

/-- The inside of a placeholder, after its opening brace: its name and what follows it. -/
def inside? (cs : List Char) : Option (List Char × List Char) :=
  let cs := cs.dropWhile Text.isBlank
  let short := if nameFront.isPrefixOf cs then closedName? (cs.drop nameFront.length) else none
  short.or (closedName? cs)

/-- A placeholder at the front of a text: whether it is plain text, its name, and what follows. -/
def front? : List Char → Option (Bool × List Char × List Char)
  | '$' :: '$' :: '\x7b' :: cs => (inside? cs).map fun r => (true, r.1, r.2)
  | '$' :: '\x7b' :: cs => (inside? cs).map fun r => (false, r.1, r.2)
  | _ => none

/-! ### Reading uses up text -/

theorem length_dropWhile_le {α : Type} (p : α → Bool) (l : List α) :
    (l.dropWhile p).length ≤ l.length :=
  (List.dropWhile_suffix p).sublist.length_le

theorem length_closedName {cs name rest : List Char} (h : closedName? cs = some (name, rest)) :
    rest.length < cs.length := by
  unfold closedName? at h
  split at h
  · simp at h
  · rename_i c tail
    split at h
    · split at h
      · rename_i after hd
        simp only [Option.some.injEq, Prod.mk.injEq] at h
        obtain ⟨_, rfl⟩ := h
        have h₁ := length_dropWhile_le Text.isBlank (tail.dropWhile isNameChar)
        have h₂ := length_dropWhile_le isNameChar tail
        rw [hd] at h₁
        simp only [List.length_cons] at h₁ ⊢
        omega
      · simp at h
    · simp at h

theorem length_inside {cs : List Char} {r : List Char × List Char} (h : inside? cs = some r) :
    r.2.length < cs.length := by
  have hle := length_dropWhile_le Text.isBlank cs
  unfold inside? at h
  rcases Option.or_eq_some_iff.1 h with h | ⟨_, h⟩
  · split at h
    · have := length_closedName h
      simp only [List.length_drop] at this
      omega
    · simp at h
  · have := length_closedName h
    omega

/-- A placeholder is not empty. -/
theorem length_rest_lt {cs name rest : List Char} {plain : Bool}
    (h : front? cs = some (plain, name, rest)) : rest.length < cs.length := by
  unfold front? at h
  split at h
  · rename_i tail
    obtain ⟨r, hr, he⟩ := Option.map_eq_some_iff.1 h
    have := length_inside hr
    simp only [Prod.mk.injEq] at he
    obtain ⟨_, _, rfl⟩ := he
    simp only [List.length_cons]
    omega
  · rename_i tail
    obtain ⟨r, hr, he⟩ := Option.map_eq_some_iff.1 h
    have := length_inside hr
    simp only [Prod.mk.injEq] at he
    obtain ⟨_, _, rfl⟩ := he
    simp only [List.length_cons]
    omega
  · simp at h

/-! ### Pieces -/

/-- The pieces of a text. -/
def piecesOf : List Char → List Piece
  | [] => []
  | c :: cs =>
    match h : front? (c :: cs) with
    | some (true, _, rest) =>
      have := length_rest_lt h
      .plain (cs.take (cs.length - rest.length)) :: piecesOf rest
    | some (false, name, rest) =>
      have := length_rest_lt h
      .placeholder (String.ofList name) :: piecesOf rest
    | none => .char c :: piecesOf cs
  termination_by cs => cs.length
  decreasing_by
    · exact this
    · exact this
    · exact Nat.lt_succ_self _

/-- The pieces of a template. -/
def pieces (s : String) : List Piece := piecesOf s.toList

/-- The name of a placeholder. -/
def Piece.name? : Piece → Option String
  | .placeholder name => some name
  | _ => none

/-- The names of the placeholders of a text, in order. -/
def names (s : String) : List String := (pieces s).filterMap Piece.name?

/-- The value of a name. -/
def lookup (bindings : List (String × String)) (name : String) : Option String :=
  (bindings.find? (·.1 == name)).map (·.2)

/-- What a piece comes to; a name without a value is told. -/
def Piece.resolve (bindings : List (String × String)) : Piece → Except String (List Char)
  | .char c => .ok [c]
  | .plain text => .ok text
  | .placeholder name =>
    match lookup bindings name with
    | some value => .ok value.toList
    | none => .error name

/-- What pieces come to, or the first name without a value. -/
def resolvePieces (bindings : List (String × String)) : List Piece → Except String (List Char)
  | [] => .ok []
  | p :: ps =>
    match p.resolve bindings with
    | .error name => .error name
    | .ok front => (resolvePieces bindings ps).map (front ++ ·)

/-- Who resolves a template, and where it stands. -/
structure Context where
  bindings : List (String × String)
  instanceId : Option String := none
  deriving Repr

/-- The fault of a name without a value. -/
def unresolved (c : Context) (source : Option String) (name : String) : Fault :=
  let place := match source with
    | some s => if s = "" then "" else " in " ++ s
    | none => ""
  { kind := .resolution (some name) c.instanceId
    text := "Unresolved placeholder '$\x7b" ++ name ++ "\x7d'" ++ place
    details := [("instance", .ofText? c.instanceId),
      ("available", .texts ((c.bindings.map (·.1)).mergeSort fun a b => decide (a ≤ b)))] }

/-- A text with the values for its names. -/
def resolve (c : Context) (source : Option String) (s : String) : Except Fault String :=
  match resolvePieces c.bindings (pieces s) with
  | .ok cs => .ok (String.ofList cs)
  | .error name => .error (unresolved c source name)

end Conveyor.Template
