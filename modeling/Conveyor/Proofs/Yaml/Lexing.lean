/-
**What ends the tokens of a document too early.**

Most of what is wrong with the text of a document breaks the grammar.  The exception are escapes
between double quotes: the digits of an escape may name a number that is no code point.

Main definitions:

* `Conveyor.Yaml.Defect.IsLexical` — a broken grammar, or an escape that names no code point.

Main results:

* `Conveyor.Yaml.isLexical_of_quotedText` — what is wrong between quotes;
* `Conveyor.Yaml.Lexer.isLexical_of_run`, `Conveyor.Yaml.isLexical_of_tokensOf` — **what ends the
  tokens too early**.
-/

import Conveyor.Proofs.Failing
import Conveyor.Yaml.Lexer

set_option autoImplicit false

namespace Conveyor.Yaml

/-- A broken grammar, or an escape that names no code point. -/
def Defect.IsLexical (e : Defect) : Prop := e = .malformed ∨ e = .codePoint ∨ e = .hugeCodePoint

@[simp] theorem isLexical_malformed : Defect.malformed.IsLexical := .inl rfl

/-- A computation that fails only with a lexical defect. -/
abbrev FailsLexically {α : Type} (x : Except Defect α) : Prop := FailsWith Defect.IsLexical x

/-! ### Scalars -/

theorem failsLexically_escapedCode (n : Nat) : FailsLexically (escapedCode n) := by
  simp only [escapedCode]
  split
  · simp
  · split <;> simp [Defect.IsLexical]

theorem failsLexically_quotedBreaks (fuel : Nat) (c : Cursor) :
    FailsLexically (quotedBreaks fuel c) := by
  induction fuel generalizing c with
  | zero => simp [quotedBreaks]
  | succ fuel ih =>
      simp only [quotedBreaks]
      split
      · simp
      · split
        · simp [ih]
        · simp

theorem failsLexically_escapeText (c : Cursor) : FailsLexically (escapeText c) := by
  simp only [escapeText]
  split
  · simp
  · split
    · split
      · split
        · simp [failsLexically_escapedCode]
        · simp
      · simp
    · split
      · simp [failsLexically_quotedBreaks]
      · simp

theorem failsLexically_quotedWord (double : Bool) (fuel : Nat) (c : Cursor) :
    FailsLexically (quotedWord double fuel c) := by
  induction fuel generalizing c with
  | zero => simp [quotedWord]
  | succ fuel ih =>
      simp only [quotedWord]
      split
      · simp [ih]
      · split
        · simp [ih]
        · split
          · simp [ih, failsLexically_escapeText]
          · simp

theorem failsLexically_quotedSpaces (c : Cursor) : FailsLexically (quotedSpaces c) := by
  simp only [quotedSpaces]
  split
  · simp
  · split
    · simp [failsLexically_quotedBreaks]
    · simp

theorem failsLexically_quotedRest (double : Bool) (quote : Char) (fuel : Nat) (c : Cursor) :
    FailsLexically (quotedRest double quote fuel c) := by
  induction fuel generalizing c with
  | zero => simp [quotedRest]
  | succ fuel ih =>
      simp only [quotedRest]
      split
      · simp
      · simp [ih, failsLexically_quotedSpaces, failsLexically_quotedWord]

theorem failsLexically_quotedText (double : Bool) (c : Cursor) :
    FailsLexically (quotedText double c) := by
  simp [quotedText, failsLexically_quotedWord, failsLexically_quotedRest]

theorem failsLexically_increment? (x : Char) : FailsLexically (increment? x) := by
  simp only [increment?]
  split <;> simp

theorem failsLexically_blockHeader (c : Cursor) : FailsLexically (blockHeader c) := by
  simp only [blockHeader]
  split
  · simp only [failsWith_bind_iff, failsLexically_increment?, true_and]
    intro increment _
    cases increment <;> simp
  · simp only [failsWith_bind_iff, failsLexically_increment?, true_and]
    intro increment _
    cases increment with
    | none => simp
    | some n =>
        simp only
        split <;> simp

theorem failsLexically_ignoredLine (c : Cursor) : FailsLexically (ignoredLine c) := by
  simp only [ignoredLine]
  split <;> simp

theorem failsLexically_blockText (folded : Bool) (parent : Int) (c : Cursor) :
    FailsLexically (blockText folded parent c) := by
  simp [blockText, failsLexically_blockHeader, failsLexically_ignoredLine]

/-! ### Names, tags and directives -/

theorem failsLexically_nameRun (c : Cursor) : FailsLexically (nameRun c) := by
  simp only [nameRun]
  split <;> simp

theorem failsLexically_anchorName (c : Cursor) : FailsLexically (anchorName c) := by
  simp [anchorName, failsLexically_nameRun]

theorem failsLexically_tagText (fuel : Nat) (c : Cursor) : FailsLexically (tagText fuel c) := by
  induction fuel generalizing c with
  | zero => simp [tagText]
  | succ fuel ih =>
      simp only [tagText]
      split
      · split
        · simp
        · split
          · simp
          · simp [ih]
      · simp

theorem failsLexically_tagAddress (c : Cursor) : FailsLexically (tagAddress c) := by
  simp [tagAddress, failsLexically_tagText]

theorem failsLexically_tagHandle (c : Cursor) : FailsLexically (tagHandle c) := by
  simp only [tagHandle]
  split
  · simp
  · split
    · simp
    · split <;> simp

theorem failsLexically_tagParts (c : Cursor) : FailsLexically (tagParts c) := by
  simp [tagParts, failsLexically_tagAddress, failsLexically_tagHandle]

theorem failsLexically_versionNumber (c : Cursor) : FailsLexically (versionNumber c) := by
  simp only [versionNumber]
  split <;> simp

theorem failsLexically_versionNumbers (c : Cursor) : FailsLexically (versionNumbers c) := by
  simp [versionNumbers, failsLexically_versionNumber]

theorem failsLexically_handleMeaning (c : Cursor) : FailsLexically (handleMeaning c) := by
  simp [handleMeaning, failsLexically_tagHandle, failsLexically_tagAddress]

theorem failsLexically_directiveLine (c : Cursor) : FailsLexically (directiveLine c) := by
  simp [directiveLine, failsLexically_nameRun, failsLexically_versionNumbers,
    failsLexically_handleMeaning, failsLexically_ignoredLine]

/-! ### Tokens -/

namespace Lexer

variable {l : Lexer}

theorem failsLexically_forgetStale (l : Lexer) : FailsLexically l.forgetStale := by
  simp only [forgetStale]
  split <;> simp

theorem failsLexically_giveUpKey (l : Lexer) : FailsLexically l.giveUpKey := by
  simp only [giveUpKey]
  split
  · split <;> simp
  · simp

theorem failsLexically_saveKey (l : Lexer) : FailsLexically l.saveKey := by
  simp [saveKey, failsLexically_giveUpKey]

theorem failsLexically_fetchValue (l : Lexer) : FailsLexically l.fetchValue := by
  simp only [fetchValue]
  split
  · simp
  · simp [failsLexically_giveUpKey]

/-- Reading one more token fails only with a lexical defect. -/
theorem failsLexically_fetch (l : Lexer) : FailsLexically l.fetch := by
  simp [fetch, fetchEnd, fetchDirective, fetchMarker, fetchFlowStart, fetchFlowEnd, fetchFlowEntry,
    fetchBlockEntry, fetchKey, fetchName, fetchTag, fetchBlockScalar, fetchQuoted, fetchPlain,
    failsLexically_forgetStale, failsLexically_giveUpKey, failsLexically_saveKey,
    failsLexically_fetchValue, failsLexically_directiveLine, failsLexically_anchorName,
    failsLexically_tagParts, failsLexically_blockText, failsLexically_quotedText]

/-- What ends the tokens too early is a lexical defect. -/
theorem isLexical_of_run {fuel : Nat} {tokens : List Token} {e : Defect}
    (h : run fuel l = (tokens, some e)) : e.IsLexical := by
  induction fuel generalizing l with
  | zero =>
      cases h
      exact isLexical_malformed
  | succ fuel ih =>
      unfold run at h
      split at h
      · cases h
      · split at h
        · rename_i d hstale
          cases h
          exact failsLexically_forgetStale l _ hstale
        · split at h
          · rename_i hfetch
            cases h
            exact failsLexically_fetch _ _ hfetch
          · exact ih h

end Lexer

/-- What ends the tokens of a text too early is a lexical defect. -/
theorem isLexical_of_tokensOf {s : String} {tokens : List Token} {e : Defect}
    (h : tokensOf s = (tokens, some e)) : e.IsLexical := by
  simp only [tokensOf] at h
  split at h
  · exact Lexer.isLexical_of_run h
  · cases h
    exact isLexical_malformed

end Conveyor.Yaml
