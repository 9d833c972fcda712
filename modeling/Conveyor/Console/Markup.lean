/-
**Texts with tags.**

A tag stands between square brackets and begins with a small letter, `#`, `/` or `@`.  Tags change
how a text looks and are not shown.  A tag that begins with `/` ends the last open one, or the last
open one of its name.  A backslash before a tag makes it part of the text.  Codes of pictures are
read in each text between tags by itself.

A name between colons, without blanks, is the code of a picture.  After the name may stand which form
of the picture is meant: the one of a text or the one of a picture.  A name that is not known stays
as it is, with both colons.

Main definitions:

* `Conveyor.Console.codeAt?` — the name up to the next colon;
* `Conveyor.Console.codePicture?` — the picture of a name with its form;
* `Conveyor.Console.withPictures` — a text with pictures in place of codes;
* `Conveyor.Console.Markup.pieces` — the texts and the tags of a text;
* `Conveyor.Console.Markup.shown` — what is shown of a text, or why its tags do not match;
* `Conveyor.Console.Markup.escape` — a text whose tags are part of it.
-/

import Conveyor.Console.Pictures
import Conveyor.Fault
import Conveyor.Text.Blank
import Conveyor.Text.Case

set_option autoImplicit false

namespace Conveyor.Console

/-! ### Codes of pictures -/

/-- Whether a character may stand in a code. -/
def inCode (c : Char) : Bool := c != ':' && !Text.isBlank c

/-- The name up to the next colon, and what follows the colon. -/
def codeAt? (cs : List Char) : Option (List Char × List Char) :=
  match cs.dropWhile inCode with
  | ':' :: rest => some (cs.takeWhile inCode, rest)
  | _ => none

/-- The endings that say which form of a picture is meant, with the signs of the forms. -/
def formEndings : List (String × Char) := [("-text", '\uFE0E'), ("-emoji", '\uFE0F')]

/-- The picture of a name with its form. -/
def codePicture? (word : List Char) : Option (List Char) :=
  let picture? := fun (cs : List Char) => pictureOf? (Text.lower (String.ofList cs))
  match formEndings.find? fun e => e.1.toList.isSuffixOf word with
  | some (ending, sign) =>
    (picture? (word.take (word.length - ending.length))).map fun p => p.toList ++ [sign]
  | none => (picture? word).map String.toList

theorem length_of_codeAt? {cs word rest : List Char} (h : codeAt? cs = some (word, rest)) :
    rest.length < cs.length := by
  unfold codeAt? at h
  split at h
  · rename_i r hd
    have hr : r = rest := (Prod.mk.inj (Option.some.inj h)).2
    have hle := (List.dropWhile_sublist (l := cs) inCode).length_le
    rw [hd, hr] at hle
    simp at hle
    omega
  · simp at h

/-- A text with pictures in place of codes. -/
def withPictures (cs : List Char) : List Char :=
  match cs with
  | [] => []
  | c :: rest =>
    if c = ':' then
      match h : codeAt? rest with
      | some (word, after) =>
        have : after.length < (c :: rest).length :=
          Nat.lt_succ_of_lt (length_of_codeAt? h)
        (codePicture? word).getD (':' :: word ++ [':']) ++ withPictures after
      | none => ':' :: withPictures rest
    else c :: withPictures rest
  termination_by cs.length
  decreasing_by
    · exact this
    · exact Nat.lt_succ_self _
    · exact Nat.lt_succ_self _

end Conveyor.Console

namespace Conveyor.Console.Markup

/-! ### Tags -/

/-- A piece of a text: shown characters, or a tag with its position. -/
inductive Piece where
  | text (cs : List Char)
  | tag (position : Nat) (body : List Char)
  deriving DecidableEq, Repr

/-- Whether a tag may begin with a character. -/
def opensTag (c : Char) : Bool := c.isLower || c == '#' || c == '/' || c == '@'

/-- The tag that stands at the front of a text, and what follows it. -/
def tagAt? : List Char → Option (List Char × List Char)
  | '[' :: c :: cs =>
    if opensTag c then
      match cs.dropWhile fun d => d != '[' && d != ']' with
      | ']' :: rest => some (c :: cs.takeWhile (fun d => d != '[' && d != ']'), rest)
      | _ => none
    else none
  | _ => none

/-- The number of backslashes in front of a tag at the front of a text, the tag, and what follows
it. -/
def escapedTagAt? (cs : List Char) : Option (Nat × List Char × List Char) :=
  (tagAt? (cs.dropWhile (· == '\\'))).map fun t => ((cs.takeWhile (· == '\\')).length, t)

theorem length_of_tagAt? {cs body rest : List Char} (h : tagAt? cs = some (body, rest)) :
    rest.length < cs.length := by
  unfold tagAt? at h
  split at h
  · rename_i c cs
    split at h
    · split at h
      · rename_i r hd
        have hr : r = rest := (Prod.mk.inj (Option.some.inj h)).2
        have hle := (List.dropWhile_sublist (l := cs) fun d => d != '[' && d != ']').length_le
        rw [hd, hr] at hle
        simp at hle ⊢
        omega
      · simp at h
    · simp at h
  · simp at h

theorem length_of_escapedTagAt? {cs body rest : List Char} {n : Nat}
    (h : escapedTagAt? cs = some (n, body, rest)) : rest.length < cs.length := by
  obtain ⟨⟨b, r⟩, ht, he⟩ := Option.map_eq_some_iff.1 h
  obtain ⟨-, rfl, rfl⟩ : _ ∧ b = body ∧ r = rest := by simpa using he
  exact Nat.lt_of_lt_of_le (length_of_tagAt? ht) (List.dropWhile_sublist _).length_le

/-- Drops the backslashes that stand before an opening bracket, one each. -/
def dropBackslashes : List Char → List Char
  | '\\' :: '[' :: cs => '[' :: dropBackslashes cs
  | c :: cs => c :: dropBackslashes cs
  | [] => []

/-- A piece of shown characters; none if there are no characters. -/
def textPiece (cs : List Char) : List Piece :=
  if cs.isEmpty then [] else [.text (dropBackslashes cs)]

/-- What a tag with backslashes before it is: half of the backslashes are shown, and if one is left
over, so is the tag. -/
def tagPieces (position backslashes : Nat) (body : List Char) : List Piece :=
  textPiece (List.replicate (backslashes / 2) '\\') ++
    if backslashes % 2 = 1 then textPiece ('[' :: body ++ [']'])
    else [.tag (position + backslashes) body]

/-- The pieces of a text from a position on; `before` holds the characters since the last tag, the
last one first. -/
def piecesFrom (position : Nat) (before : List Char) (cs : List Char) : List Piece :=
  match cs with
  | [] => textPiece before.reverse
  | c :: rest =>
    match h : escapedTagAt? (c :: rest) with
    | some (n, body, after) =>
      have : after.length < (c :: rest).length := length_of_escapedTagAt? h
      textPiece before.reverse ++ tagPieces position n body ++
        piecesFrom (position + n + body.length + 2) [] after
    | none => piecesFrom (position + 1) (c :: before) rest
  termination_by cs.length
  decreasing_by
    · exact this
    · exact Nat.lt_succ_self _

/-- The texts and the tags of a text. -/
def pieces (s : String) : List Piece := piecesFrom 0 [] s.toList

/-- The long names of styles that have a short one. -/
def longNames : List (String × String) := [
  ("b", "bold"), ("d", "dim"), ("i", "italic"), ("u", "underline"), ("r", "reverse"),
  ("c", "conceal"), ("s", "strike"), ("uu", "underline2"), ("o", "overline")]

/-- The name by which a style is known. -/
def styleName (s : String) : String :=
  let name := Text.lower (Text.strip s)
  ((longNames.find? (·.1 == name)).map (·.2)).getD name

/-- The name of a tag: what stands before an equals sign. -/
def tagName (body : List Char) : String := String.ofList (body.takeWhile (· != '='))

/-- The fault of a closing tag that closes nothing. -/
def unmatched (position : Nat) (body : List Char) (why : String) : Fault :=
  .outside "MarkupError" ("closing tag '[" ++ String.ofList body ++ "]' at position " ++
    toString position ++ why)

/-- What is shown of pieces; `opened` holds the names of the open tags, the last one first. -/
def shownFrom (opened : List String) : List Piece → Except Fault (List Char)
  | [] => .ok []
  | .text cs :: ps => (withPictures cs ++ ·) <$> shownFrom opened ps
  | .tag position body :: ps =>
    match (tagName body).toList with
    | '/' :: name =>
      let name := Text.strip (String.ofList name)
      if name = "" then
        match opened with
        | [] => .error (unmatched position ['/'] " has nothing to close")
        | _ :: rest => shownFrom rest ps
      else if opened.contains (styleName name) then
        shownFrom (opened.erase (styleName name)) ps
      else .error (unmatched position body " doesn't match any open tag")
    | name => shownFrom (styleName (String.ofList name) :: opened) ps

/-- What is shown of a text, or why its tags do not match. -/
def shown (s : String) : Except Fault (List Char) := shownFrom [] (pieces s)

/-- A text whose tags are part of it; `cs` may begin with a tag. -/
def escapeFrom (cs : List Char) : List Char :=
  match cs with
  | [] => []
  | c :: rest =>
    match h : escapedTagAt? (c :: rest) with
    | some (n, body, after) =>
      have : after.length < (c :: rest).length := length_of_escapedTagAt? h
      List.replicate (2 * n + 1) '\\' ++ '[' :: body ++ ']' :: escapeFrom after
    | none => c :: escapeFrom rest
  termination_by cs.length
  decreasing_by
    · exact this
    · exact Nat.lt_succ_self _

/-- A text whose tags are part of it.  A single backslash at the end is written twice. -/
def escape (s : String) : String :=
  let cs := escapeFrom s.toList
  String.ofList (match cs.reverse with
    | ['\\'] => ['\\', '\\']
    | '\\' :: c :: _ => if c = '\\' then cs else cs ++ ['\\']
    | _ => cs)

end Conveyor.Console.Markup
