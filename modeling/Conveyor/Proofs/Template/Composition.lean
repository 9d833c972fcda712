/-
**Templates in parts, and texts that stand for themselves.**

A placeholder is read in the same way whatever stands around it, and what comes to its place is not
read again.  The only text that could change how it is read is a dollar sign right before it: that
would make it plain text.

So a dollar sign in front of a placeholder makes it plain text, and is dropped where it is filled in.
A text in which each placeholder gets one more dollar sign, those that are plain text too, comes to
the text itself, whatever values there are: the new sign neither makes a placeholder nor moves one.

Main definitions:

* `Conveyor.Template.written` — a placeholder as it is written in a template;
* `Conveyor.Template.escape` — a text with a dollar sign in front of each of its placeholders.

Main results:

* `Conveyor.Template.piecesOf_append` — a template that goes on with a dollar sign is taken apart there;
* `Conveyor.Template.pieces_written` — a placeholder is one piece, whatever stands around it;
* `Conveyor.Template.resolvePieces_append` — pieces are filled in one after the other;
* `Conveyor.Template.resolve_written` — **filling in goes part by part, and once only**;
* `Conveyor.Template.front?_cons_escapeOf` — no placeholder begins at a character that began none;
* `Conveyor.Template.resolve_escape` — **every text can be written so that it stands for itself**.
-/

import Conveyor.Proofs.Template.Placeholder

set_option autoImplicit false

namespace Conveyor.Template

/-! ### Pieces of texts in parts -/

/-- A character that begins no placeholder begins none when the text goes on with a dollar sign, unless
it is the dollar sign right before that one. -/
theorem front?_append_eq_none {c : Char} {cs more : List Char} (h : front? (c :: cs) = none)
    (hlast : (c :: cs).getLast? ≠ some '$') (hmore : ∀ d ∈ more.head?, d = '$') :
    front? (c :: cs ++ more) = none := by
  rw [front?_eq_none_iff]
  intro plain name text rest htext heq
  rcases List.append_eq_append_iff.1 heq with ⟨beyond, rfl, hbeyond⟩ | ⟨left, hleft, -⟩
  · cases beyond with
    | nil =>
        rw [List.append_nil] at htext
        exact front?_eq_none_iff.1 h _ _ _ [] htext (List.append_nil _).symm
    | cons d beyond =>
        -- The placeholder would reach into the text after it, and over a dollar sign.
        obtain rfl : d = '$' := hmore d (by rw [hbeyond]; rfl)
        rcases htext.eq_of_append_dollar with hnil | hone
        · cases hnil
        · exact hlast (by rw [hone, List.getLast?_singleton])
  · exact front?_eq_none_iff.1 h _ _ _ left htext hleft

theorem getLast?_ne_of_append {text rest : List Char} (h : (text ++ rest).getLast? ≠ some '$') :
    rest.getLast? ≠ some '$' := by
  intro hrest
  exact h (by rw [List.getLast?_append, hrest, Option.some_or])

/-- A template that goes on with a dollar sign, and does not end with one, is taken apart there. -/
theorem piecesOf_append {cs more : List Char} (hlast : cs.getLast? ≠ some '$')
    (hmore : ∀ d ∈ more.head?, d = '$') : piecesOf (cs ++ more) = piecesOf cs ++ piecesOf more := by
  induction cs using piecesOf_induction with
  | nil => rw [piecesOf_nil, List.nil_append, List.nil_append]
  | char c cs hnone ih =>
      have hcs : cs.getLast? ≠ some '$' := @getLast?_ne_of_append [c] cs hlast
      have hcons : front? (c :: (cs ++ more)) = none := front?_append_eq_none hnone hlast hmore
      rw [piecesOf_of_none hnone, List.cons_append, piecesOf_of_none hcons, ih hcs, List.cons_append]
  | placeholder plain name text rest htext ih =>
      have hrest : piecesOf (rest ++ more) = piecesOf rest ++ piecesOf more :=
        ih (getLast?_ne_of_append hlast)
      rw [List.append_assoc, piecesOf_of_placeholder htext, piecesOf_of_placeholder htext, hrest,
        List.cons_append]

/-- A template without a dollar sign before a brace has no placeholders. -/
theorem piecesOf_of_not_infix {cs : List Char} (h : ¬ ['$', '\x7b'] <:+: cs) :
    piecesOf cs = cs.map .char := by
  induction cs using piecesOf_induction with
  | nil => rw [piecesOf_nil, List.map_nil]
  | char c cs hnone ih =>
      rw [piecesOf_of_none hnone, List.map_cons]
      exact congrArg _ (ih fun hinfix => h (List.infix_cons hinfix))
  | placeholder plain name text rest htext _ =>
      refine absurd ?_ h
      cases htext with
      | value _ => exact ⟨[], _, rfl⟩
      | plain _ => exact ⟨['$'], _, rfl⟩

/-! ### Placeholders as they are written -/

/-- A placeholder as it is written: its name, with blanks around it and perhaps a word before it. -/
def written (w₁ front name w₂ : String) : String :=
  "$\x7b" ++ w₁ ++ front ++ name ++ w₂ ++ "\x7d"

/-- The words that may stand before a name: the front word, or none if the name does not begin with
that itself. -/
def MayPrecede (front name : String) : Prop :=
  front = "matrix." ∨ front = "" ∧ ¬ nameFront <+: name.toList

section
variable {w₁ front name w₂ : String}

theorem isPlaceholder_written (hw₁ : Text.allBlank w₁ = true) (hname : IsName name.toList)
    (hfront : MayPrecede front name) (hw₂ : Text.allBlank w₂ = true) :
    IsPlaceholder false name.toList (written w₁ front name w₂).toList := by
  have before := List.all_eq_true.1 hw₁
  have after := List.all_eq_true.1 hw₂
  simp only [written, String.toList_append, List.append_assoc]
  rcases hfront with rfl | ⟨rfl, hwhole⟩
  · exact .value (.fronted before hname after)
  · refine .value (.bare before hname ?_ after)
    intro n _ hn
    exact hwhole ⟨n, hn.symm⟩

/-- A placeholder is one piece, whatever stands around it. -/
theorem pieces_written {t₁ t₂ : String} (ht₁ : t₁.toList.getLast? ≠ some '$')
    (hw₁ : Text.allBlank w₁ = true) (hname : IsName name.toList) (hfront : MayPrecede front name)
    (hw₂ : Text.allBlank w₂ = true) :
    pieces (t₁ ++ written w₁ front name w₂ ++ t₂) =
      pieces t₁ ++ .placeholder name :: pieces t₂ := by
  have hholder := isPlaceholder_written hw₁ hname hfront hw₂
  have hdollar : ∀ d ∈ ((written w₁ front name w₂).toList ++ t₂.toList).head?, d = '$' := by
    intro d hd
    obtain ⟨tail, htail⟩ := hholder.exists_cons
    rw [htail] at hd
    exact (Option.some.inj hd).symm
  rw [pieces, String.toList_append, String.toList_append, List.append_assoc,
    piecesOf_append ht₁ hdollar, piecesOf_of_value hholder, String.ofList_toList, pieces, pieces]

end

/-! ### Filling in -/

section
variable {bindings : List (String × String)} {ps qs : List Piece} {front back : List Char}

/-- Pieces are filled in one after the other. -/
theorem resolvePieces_append (hps : resolvePieces bindings ps = .ok front)
    (hqs : resolvePieces bindings qs = .ok back) :
    resolvePieces bindings (ps ++ qs) = .ok (front ++ back) := by
  induction ps generalizing front with
  | nil =>
      cases hps
      exact hqs
  | cons p ps ih =>
      rw [resolvePieces] at hps
      rw [List.cons_append, resolvePieces]
      split at hps
      · cases hps
      · rename_i first hfirst
        obtain ⟨rest, hrest, rfl⟩ := exists_ok_of_map hps
        rw [ih hrest, List.append_assoc]
        rfl

theorem resolvePieces_chars (cs : List Char) :
    resolvePieces bindings (cs.map .char) = .ok cs := by
  induction cs with
  | nil => rfl
  | cons c cs ih =>
      rw [List.map_cons, resolvePieces, ih]
      rfl

theorem resolvePieces_placeholder {name value : String}
    (hvalue : lookup bindings name = some value) (hps : resolvePieces bindings ps = .ok back) :
    resolvePieces bindings (.placeholder name :: ps) = .ok (value.toList ++ back) := by
  simp only [resolvePieces, Piece.resolve, hvalue, hps]
  rfl

end

theorem resolve_eq_ok_iff {c : Context} {source : Option String} {s r : String} :
    resolve c source s = .ok r ↔ resolvePieces c.bindings (pieces s) = .ok r.toList := by
  unfold resolve
  split
  · rename_i cs hcs
    rw [hcs, Except.ok.injEq, Except.ok.injEq]
    constructor
    · rintro rfl
      exact (String.toList_ofList ..).symm
    · rintro rfl
      exact String.ofList_toList ..
  · rename_i name hname
    rw [hname]
    exact ⟨nofun, nofun⟩

/-- What a template comes to, as it can be computed. -/
theorem resolve_eq_ok_of_toOption {c : Context} {source : Option String} {s r : String}
    (h : (resolvePieces c.bindings (pieces s)).toOption = some r.toList) :
    resolve c source s = .ok r := by
  rw [resolve_eq_ok_iff]
  cases hread : resolvePieces c.bindings (pieces s) with
  | error name =>
      rw [hread] at h
      cases h
  | ok cs =>
      rw [hread] at h
      exact congrArg _ (Option.some.inj h)

/-- **Filling in goes part by part, and once only**: between a text that does not end with a dollar
sign and any other text, a placeholder comes to the value of its name as it stands, and both texts
come to what they come to by themselves; and a text without a dollar sign before a brace stays as
it is. -/
theorem resolve_written (c : Context) (source : Option String) :
    (∀ t₁ w₁ front name w₂ t₂ r₁ value r₂ : String, t₁.toList.getLast? ≠ some '$' →
      Text.allBlank w₁ = true → IsName name.toList → MayPrecede front name →
      Text.allBlank w₂ = true → lookup c.bindings name = some value →
      resolve c source t₁ = .ok r₁ → resolve c source t₂ = .ok r₂ →
      resolve c source (t₁ ++ written w₁ front name w₂ ++ t₂) = .ok (r₁ ++ value ++ r₂)) ∧
    ∀ t : String, ¬ ['$', '\x7b'] <:+: t.toList → resolve c source t = .ok t := by
  constructor
  · intro t₁ w₁ front name w₂ t₂ r₁ value r₂ ht₁ hw₁ hname hfront hw₂ hvalue hr₁ hr₂
    rw [resolve_eq_ok_iff] at hr₁ hr₂ ⊢
    rw [pieces_written ht₁ hw₁ hname hfront hw₂, String.toList_append, String.toList_append,
      List.append_assoc]
    exact resolvePieces_append hr₁ (resolvePieces_placeholder hvalue hr₂)
  · intro t ht
    rw [resolve_eq_ok_iff, pieces, piecesOf_of_not_infix ht]
    exact resolvePieces_chars t.toList

/-- A value that is written like a placeholder. -/
def nested : Context := { bindings := [("py", "$\x7bos\x7d"), ("os", "linux")] }

/-- The value is not read again, and neither an open brace nor a placeholder that is plain text before
it changes how its placeholder is read. -/
theorem resolve_written_nested :
    resolve nested none
        ("$\x7b $$\x7bos\x7d " ++ written "\t" "matrix." "py" " " ++ "-$\x7bos\x7d$") =
      .ok ("$\x7b $\x7bos\x7d " ++ "$\x7bos\x7d" ++ "-linux$") ∧
    resolve nested none ("$\x7bpy" ++ written "" "" "os" "\u2003" ++ "\x7d") =
      .ok ("$\x7bpy" ++ "linux" ++ "\x7d") ∧
    resolve nested none "$(date) \x7bos\x7d" = .ok "$(date) \x7bos\x7d" := by
  obtain ⟨hparts, hplain⟩ := resolve_written nested none
  refine ⟨?_, ?_, hplain _ (by decide +kernel)⟩
  · exact hparts _ _ _ _ _ _ _ _ _ (by decide +kernel) (by decide +kernel) (by decide +kernel)
      (.inl rfl) (by decide +kernel) (by decide +kernel)
      (resolve_eq_ok_of_toOption (by decide +kernel)) (resolve_eq_ok_of_toOption (by decide +kernel))
  · exact hparts _ _ _ _ _ _ _ _ _ (by decide +kernel) (by decide +kernel) (by decide +kernel)
      (.inr ⟨rfl, by decide +kernel⟩) (by decide +kernel) (by decide +kernel)
      (resolve_eq_ok_of_toOption (by decide +kernel)) (resolve_eq_ok_of_toOption (by decide +kernel))

/-! ### Texts that stand for themselves -/

/-- A text with a dollar sign in front of each of its placeholders. -/
def escapeOf : List Char → List Char
  | [] => []
  | c :: cs =>
    match h : front? (c :: cs) with
    | some (_, _, rest) =>
      have := length_rest_lt h
      '$' :: c :: cs.take (cs.length - rest.length) ++ escapeOf rest
    | none => c :: escapeOf cs
  termination_by cs => cs.length
  decreasing_by
    · exact this
    · exact Nat.lt_succ_self _

/-- A text with a dollar sign in front of each of its placeholders. -/
def escape (s : String) : String := String.ofList (escapeOf s.toList)

theorem escapeOf_nil : escapeOf [] = [] := by rw [escapeOf]

theorem escapeOf_of_none {c : Char} {cs : List Char} (h : front? (c :: cs) = none) :
    escapeOf (c :: cs) = c :: escapeOf cs := by
  rw [escapeOf]
  split
  · rename_i hsome
    rw [h] at hsome
    cases hsome
  · rfl

theorem escapeOf_of_placeholder {plain : Bool} {name text rest : List Char}
    (h : IsPlaceholder plain name text) :
    escapeOf (text ++ rest) = '$' :: (text ++ escapeOf rest) := by
  have hfront : front? (text ++ rest) = some (plain, name, rest) :=
    front?_eq_some_iff.2 ⟨text, h, rfl⟩
  obtain ⟨tail, rfl⟩ := h.exists_cons
  rw [List.cons_append] at hfront ⊢
  rw [escapeOf]
  split
  · rename_i hsome
    rw [hfront] at hsome
    cases hsome
    rw [List.length_append, Nat.add_sub_cancel, List.take_left]
    rfl
  · rename_i hnone
    rw [hfront] at hnone
    cases hnone

/-! ### No placeholder is made -/

/-- What stands in front of all dollar signs stood there before. -/
theorem exists_of_escapeOf_eq_append {cs front back : List Char} (hdollar : '$' ∉ front)
    (h : escapeOf cs = front ++ back) : ∃ rest, cs = front ++ rest := by
  induction cs using piecesOf_induction generalizing front with
  | nil =>
      rw [escapeOf_nil] at h
      obtain ⟨rfl, -⟩ := List.append_eq_nil_iff.1 h.symm
      exact ⟨[], rfl⟩
  | char c cs hnone ih =>
      cases front with
      | nil => exact ⟨_, rfl⟩
      | cons d front =>
          rw [escapeOf_of_none hnone] at h
          obtain ⟨rfl, htail⟩ := List.cons.inj h
          obtain ⟨rest, rfl⟩ := ih (fun hmem => hdollar (List.mem_cons_of_mem _ hmem)) htail
          exact ⟨rest, rfl⟩
  | placeholder plain name text rest htext _ =>
      cases front with
      | nil => exact ⟨_, rfl⟩
      | cons d front =>
          rw [escapeOf_of_placeholder htext] at h
          obtain ⟨rfl, -⟩ := List.cons.inj h
          exact absurd (List.mem_cons_self ..) hdollar

/-- Where no placeholder begins, none begins after the placeholders behind it got their dollar signs. -/
theorem front?_cons_escapeOf {c : Char} {cs : List Char} (h : front? (c :: cs) = none) :
    front? (c :: escapeOf cs) = none := by
  rw [front?_eq_none_iff]
  intro plain name text rest htext heq
  cases htext with
  | value inside =>
      obtain ⟨rfl, htail⟩ := List.cons.inj heq
      obtain ⟨rest', rfl⟩ := exists_of_escapeOf_eq_append inside.dollar_not_mem_cons htail
      exact front?_eq_none_iff.1 h _ _ _ rest' (.value inside) rfl
  | plain inside =>
      obtain ⟨rfl, htail⟩ := List.cons.inj heq
      cases cs using piecesOf_induction with
      | nil =>
          rw [escapeOf_nil] at htail
          cases htail
      | char d ds hnone _ =>
          rw [escapeOf_of_none hnone] at htail
          obtain ⟨rfl, hinside⟩ := List.cons.inj htail
          obtain ⟨rest', rfl⟩ := exists_of_escapeOf_eq_append inside.dollar_not_mem_cons hinside
          exact front?_eq_none_iff.1 h _ _ _ rest' (.plain inside) rfl
      | placeholder plain' name' text' rest' htext' _ =>
          -- A placeholder behind the sign has two dollar signs in front by now.
          rw [escapeOf_of_placeholder htext'] at htail
          obtain ⟨tail, rfl⟩ := htext'.exists_cons
          have hbrace := (List.cons.inj (List.cons.inj htail).2).1
          exact absurd hbrace (by decide)

/-! ### Every text stands for itself -/

theorem resolvePieces_escapeOf (bindings : List (String × String)) (cs : List Char) :
    resolvePieces bindings (piecesOf (escapeOf cs)) = .ok cs := by
  induction cs using piecesOf_induction with
  | nil =>
      rw [escapeOf_nil, piecesOf_nil]
      rfl
  | char c cs hnone ih =>
      rw [escapeOf_of_none hnone, piecesOf_of_none (front?_cons_escapeOf hnone), resolvePieces, ih]
      rfl
  | placeholder plain name text rest htext ih =>
      rw [escapeOf_of_placeholder htext]
      cases htext with
      | @value _ text inside =>
          have hescaped : '$' :: ('$' :: '\x7b' :: text ++ escapeOf rest) =
            '$' :: '$' :: '\x7b' :: text ++ escapeOf rest := rfl
          rw [hescaped, piecesOf_of_plain (.plain inside), resolvePieces, ih]
          rfl
      | @plain _ text inside =>
          -- Of three dollar signs the first is a character, and the second is the one that is dropped.
          have hnone : front? ('$' :: ('$' :: '$' :: '\x7b' :: text ++ escapeOf rest)) = none := rfl
          rw [piecesOf_of_none hnone, piecesOf_of_plain (.plain inside), resolvePieces, resolvePieces,
            ih]
          rfl

/-- **Every text can be written so that it stands for itself**: with one more dollar sign in front of
each placeholder it comes to the text itself. -/
theorem resolve_escape (c : Context) (source : Option String) (s : String) :
    resolve c source (escape s) = .ok s := by
  rw [resolve_eq_ok_iff, pieces, escape, String.toList_ofList]
  exact resolvePieces_escapeOf c.bindings s.toList

example : escape "$$\x7ba\x7d $b $\x7b c\x7d" = "$$$\x7ba\x7d $b $$\x7b c\x7d" := by decide +kernel

end Conveyor.Template
