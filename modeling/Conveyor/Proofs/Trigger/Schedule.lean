/-
**Schedules agree with the calendar.**

A schedule is due at the moments that its rule admits, and these can be written in several ways: with a
letter or a distance of zero for universal time, and with blanks around them.  A written moment is never
taken for the rule itself, since it is one word and a rule has five.

Main definitions:

* `Conveyor.Moment.WrittenAs` — the ways in which a ref writes a moment;
* `Conveyor.Cron.Due` — a moment that obeys a rule, told by the calendar.

Main results:

* `Conveyor.Text.strip_eq_of_isWord` — blanks around a word are dropped;
* `Conveyor.Trigger.momentOf?_stamp` — a written moment is read as that moment;
* `Conveyor.Cron.stamp_ne_expression` — no rule is a written moment;
* `Conveyor.Trigger.schedule_agrees` — **a schedule is due at just the moments that obey its rule**.
-/

import Conveyor.Proofs.Calendar
import Conveyor.Proofs.Trigger.Cron
import Conveyor.Trigger.Matcher

set_option autoImplicit false

namespace Conveyor

/-! ### Blanks around a word -/

namespace Text

/-- Blanks around a word are dropped. -/
theorem strip_eq_of_isWord {front s back : String} (hfront : IsGap front.toList)
    (hs : IsWord s.toList) (hback : IsGap back.toList) : strip (front ++ s ++ back) = s := by
  rw [strip_eq_iff, String.toList_append, String.toList_append]
  exact .intro hfront (fun c hc => hs.solid c (List.mem_of_mem_head? hc))
    (fun c hc => hs.solid c (List.mem_of_mem_getLast? hc)) hback

theorem words_of_isWord {s : String} (h : IsWord s.toList) : words s = [s] := by
  rw [words, wordsFrom_word h, List.map_singleton, String.ofList_toList]

/-- The first letter of a text in lower case. -/
theorem head?_lower {s : String} {c : Char} (hc : s.toList.head? = some c) (hone : c.toNat < 128) :
    (lower s).toList.head? = some c.toLower := by
  obtain ⟨cs, hcs⟩ : ∃ cs, s.toList = c :: cs := List.head?_eq_some_iff.1 hc
  have hsigma : c ≠ 'Σ' := by
    rintro rfl
    exact absurd hone (by decide)
  rw [lower, String.toList_ofList, hcs]
  split
  · rw [lowerFrom, if_neg hsigma, lowerChar, if_pos hone]
    rfl
  · rw [List.flatMap_cons, lowerChar, if_pos hone]
    rfl

end Text

/-! ### Written moments -/

namespace Moment

/-- The ways in which a ref writes a moment: with or without a letter or a distance of zero for universal
time, and with blanks around it. -/
inductive WrittenAs (t : Moment) : String → Prop
  | intro (front zone back : String) : Text.IsGap front.toList → zone ∈ ["", "Z", "z", "+00:00"] →
      Text.IsGap back.toList → WrittenAs t (front ++ (t.stamp ++ zone) ++ back)

end Moment

namespace Trigger

theorem momentOf?_of_last {ref : String} {c : Char} (hlast : ref.toList.getLast? = some c)
    (hc : ¬(c = 'Z' ∨ c = 'z')) : momentOf? ref = Moment.parse? ref := by
  obtain ⟨rest, hrest⟩ := List.getLast?_eq_some_iff.1 hlast
  rw [momentOf?, hrest, List.reverse_append]
  exact if_neg hc

theorem momentOf?_letter {s zone : String} (hzone : zone ∈ ["Z", "z"]) :
    momentOf? (s ++ zone) = Moment.parse? (s ++ "+00:00") := by
  have hread : ∀ c, c = 'Z' ∨ c = 'z' → zone.toList = [c] →
      momentOf? (s ++ zone) = Moment.parse? (s ++ "+00:00") := by
    intro c hc hz
    rw [momentOf?, String.toList_append, hz, List.reverse_append]
    refine (if_pos hc).trans ?_
    rw [show ([] : List Char).append s.toList.reverse = s.toList.reverse from rfl, List.reverse_reverse,
      String.ofList_toList]
  simp only [List.mem_cons, List.not_mem_nil, or_false] at hzone
  obtain rfl | rfl := hzone
  · exact hread 'Z' (.inl rfl) rfl
  · exact hread 'z' (.inr rfl) rfl

/-- A written moment is read as that moment. -/
theorem exists_momentOf?_stamp {t : Moment} {zone : String} (h : t.IsValid)
    (hzone : zone ∈ ["", "Z", "z", "+00:00"]) :
    ∃ offset, momentOf? (t.stamp ++ zone) = some { t with micro := 0, offset := offset } := by
  have hlocal : Moment.parse? t.stamp = some { t with micro := 0, offset := none } := by
    have hread : Moment.parse? (t.stamp ++ "") = some { t with micro := 0, offset := none } :=
      Moment.parse?_stamp_append h (by decide) (by simpa using Moment.timeAndOffset?_clockText h)
        (by simp)
    rwa [String.append_empty] at hread
  have huniversal : Moment.parse? (t.stamp ++ "+00:00") = some { t with micro := 0, offset := some 0 } :=
    Moment.parse?_stamp_append h (by decide) (Moment.timeAndOffset?_clockText_universal h) (by simp)
  simp only [List.mem_cons, List.not_mem_nil, or_false] at hzone
  obtain rfl | rfl | rfl | rfl := hzone
  · obtain ⟨c, hlast, hc⟩ := t.exists_getLast?_stamp
    have hletter : ¬(c = 'Z' ∨ c = 'z') := by
      rintro (rfl | rfl) <;> cases hc
    exact ⟨none, by rw [String.append_empty, momentOf?_of_last hlast hletter, hlocal]⟩
  · exact ⟨some 0, (momentOf?_letter (by decide)).trans huniversal⟩
  · exact ⟨some 0, (momentOf?_letter (by decide)).trans huniversal⟩
  · have hlast : (t.stamp ++ "+00:00").toList.getLast? = some '0' := by
      rw [String.toList_append, List.getLast?_append]
      rfl
    exact ⟨some 0, (momentOf?_of_last hlast (by decide)).trans huniversal⟩

end Trigger

/-! ### Rules -/

namespace Cron

variable {pattern : String} {c : Cron} {texts : Fields String}

theorem expression_of_parse (hc : parse pattern = .ok c) : c.expression = Text.strip pattern := by
  obtain ⟨texts, es, -, rfl⟩ := parse_eq_ok_iff.1 hc
  rfl

theorem aliases_lookup_eq_none {s : String} (h : s.toList.head? ≠ some '@') : aliases.lookup s = none := by
  rw [List.lookup_eq_none_iff]
  intro a ha
  have hfront : ∀ a ∈ aliases, a.1.toList.head? = some '@' := by decide
  rw [bne_iff_ne]
  rintro rfl
  exact h (hfront a ha)

/-- No rule is a word that begins with a digit. -/
theorem expression_ne_word {s : String} {d : Char} (hc : parse pattern = .ok c)
    (hs : Text.IsWord s.toList) (hhead : s.toList.head? = some d) (hd : d.isDigit = true) :
    s ≠ c.expression := by
  intro hsame
  rw [expression_of_parse hc] at hsame
  obtain ⟨texts, hwords⟩ := exists_words_of_parse hc
  have hone : d.toNat < 128 := Nat.lt_of_le_of_lt (Char.isDigit_iff_toNat.1 hd).2 (by decide)
  have hplain : aliases.lookup (Text.lower s) = none := by
    refine aliases_lookup_eq_none ?_
    have hlower : d.toLower = d := by
      refine dif_neg fun hupper => ?_
      have hletter : 65 ≤ d.toNat := UInt32.le_iff_toNat_le.1 hupper.1
      exact Nat.not_lt.2 hletter (Nat.lt_of_le_of_lt (Char.isDigit_iff_toNat.1 hd).2 (by decide))
    rw [Text.head?_lower hhead hone, hlower]
    rintro ⟨⟩
    cases hd
  rw [ruleText, ← hsame, hplain, Option.getD_none, Text.words_of_isWord hs] at hwords
  cases hwords

/-- A moment on a weekday that obeys a rule: its minute, hour and month are among those of the rule, and
so are its day and its weekday, or one of the two if both are restricted. -/
def Due (c : Cron) (texts : Fields String) (t : Moment) (w : Nat) : Prop :=
  t.minute ∈ c.minutes ∧ t.hour ∈ c.hours ∧ t.date.month ∈ c.months ∧
    if texts.day ≠ "*" ∧ texts.weekday ≠ "*" then t.date.day ∈ c.days ∨ w ∈ c.weekdays
    else t.date.day ∈ c.days ∧ w ∈ c.weekdays

instance (c : Cron) (texts : Fields String) (t : Moment) (w : Nat) : Decidable (c.Due texts t w) := by
  unfold Due; infer_instance

theorem admits_iff (hc : parse pattern = .ok c) (hwords : Text.words (ruleText pattern) = texts.toList)
    {t : Moment} : c.admits t = true ↔ c.Due texts t t.date.weekday := by
  obtain ⟨es, -, rfl⟩ := (parse_of_words hwords).1 hc
  have hrestricted : ((ruleOf pattern texts es).dayRestricted = true ∧
      (ruleOf pattern texts es).weekdayRestricted = true) ↔ texts.day ≠ "*" ∧ texts.weekday ≠ "*" := by
    simp [ruleOf]
  simp only [admits, admitsDay, Due, Bool.and_eq_true, List.contains_iff_mem, and_assoc]
  refine and_congr_right fun _ => and_congr_right fun _ => and_congr_right fun _ => ?_
  split
  · rename_i h
    rw [if_pos (hrestricted.1 h), Bool.or_eq_true, List.contains_iff_mem, List.contains_iff_mem]
  · rename_i h
    rw [if_neg (mt hrestricted.2 h), Bool.and_eq_true, List.contains_iff_mem, List.contains_iff_mem]

end Cron

/-! ### Schedules -/

namespace Trigger

variable {pattern : String} {c : Cron}

theorem isDue_of_parse (hc : Cron.parse pattern = .ok c) (ref : String) :
    isDue pattern ref =
      if Text.strip ref = c.expression then .ok true
      else .ok ((momentOf? (Text.strip ref)).any c.admits) := by
  -- by `delta`, since the equation of the definition would read the pattern
  delta isDue
  simp only [hc]
  cases momentOf? (Text.strip ref) <;> rfl

theorem fires_schedule (pattern ref : String) :
    fires ⟨.schedule, pattern⟩ ⟨"schedule", ref⟩ = isDue pattern ref := if_neg (not_not.2 rfl)

/-- A schedule is due at the written moments that obey its rule. -/
theorem fires_written {texts : Cron.Fields String} (hc : Cron.parse pattern = .ok c)
    (hwords : Text.words (Cron.ruleText pattern) = texts.toList) {t : Moment} (ht : t.IsValid)
    {ref : String} (href : t.WrittenAs ref) :
    ∃ due, fires ⟨.schedule, pattern⟩ ⟨"schedule", ref⟩ = .ok due ∧
      (due = true ↔ c.Due texts t t.date.weekday) := by
  obtain ⟨front, zone, back, hfront, hzone, hback⟩ := href
  obtain ⟨offset, hmoment⟩ := exists_momentOf?_stamp ht hzone
  obtain ⟨d, hhead, hd⟩ := t.exists_head?_stamp
  have hhead' : (t.stamp ++ zone).toList.head? = some d := by
    rw [String.toList_append, List.head?_append, hhead, Option.some_or]
  have hzones : ∀ z ∈ ["", "Z", "z", "+00:00"], Text.IsPlain z.toList := by decide
  have hplain : Text.IsPlain (t.stamp ++ zone).toList := by
    rw [String.toList_append, Text.isPlain_append]
    exact ⟨t.isPlain_stamp, hzones zone hzone⟩
  have hword : Text.IsWord (t.stamp ++ zone).toList :=
    ⟨fun hnil => by simp [hnil] at hhead', fun _ => hplain.isBlank_eq_false⟩
  refine ⟨c.admits { t with micro := 0, offset := offset }, ?_, Cron.admits_iff hc hwords⟩
  rw [fires_schedule, isDue_of_parse hc, Text.strip_eq_of_isWord hfront hword hback,
    if_neg (Cron.expression_ne_word hc hword hhead' hd), hmoment]
  rfl

/-- **A schedule is due at just the moments that obey its rule**, in whatever way they are written, and
at the event of the rule itself.  The weekday is that of the calendar, and is told by it. -/
theorem schedule_agrees (hc : Cron.parse pattern = .ok c) :
    ∃ texts : Cron.Fields String, Text.words (Cron.ruleText pattern) = texts.toList ∧
      (∀ t : Moment, t.IsValid → ∃ w, t.date.FallsOn w ∧ (∀ v, t.date.FallsOn v → v = w) ∧
        ∀ ref, t.WrittenAs ref → ∃ due, fires ⟨.schedule, pattern⟩ ⟨"schedule", ref⟩ = .ok due ∧
          (due = true ↔ c.Due texts t w)) ∧
      fires ⟨.schedule, pattern⟩ ⟨"schedule", pattern⟩ = .ok true := by
  obtain ⟨texts, hwords⟩ := Cron.exists_words_of_parse hc
  refine ⟨texts, hwords, fun t ht => ?_, ?_⟩
  · have hday : t.date.IsDay := ⟨ht.date.1.1, ht.date.2.1, ht.date.2.2⟩
    exact ⟨t.date.weekday, Date.fallsOn_weekday hday, fun v hv => hv.eq_weekday,
      fun ref href => fires_written hc hwords ht href⟩
  · rw [fires_schedule, isDue_of_parse hc, if_pos (Cron.expression_of_parse hc).symm]

/-- A rule for each 13th day of a month and each Friday. -/
theorem schedule_agrees_fridays :
    (∃ c, Cron.parse "30 2 13 * fri" = .ok c) ∧
    fires ⟨.schedule, "30 2 13 * fri"⟩ ⟨"schedule", " 2024-01-19T02:30:00z\n"⟩ = .ok true ∧
    fires ⟨.schedule, "30 2 13 * fri"⟩ ⟨"schedule", "2024-01-18T02:30:00+00:00"⟩ = .ok false ∧
    fires ⟨.schedule, "30 2 13 * fri"⟩ ⟨"schedule", "30 2 13 * fri"⟩ = .ok true := by
  have hrule : Cron.IsRule "30 2 13 * fri" ⟨"30", "2", "13", "*", "fri"⟩
      ⟨[⟨30, 30, 1, by decide⟩], [⟨2, 2, 1, by decide⟩], [⟨13, 13, 1, by decide⟩],
        [⟨1, 12, 1, by decide⟩], [⟨5, 5, 1, by decide⟩]⟩ :=
    ⟨Cron.exists_cut_iff.2 (by decide), Cron.elements_eq_ok_iff.1 (by rfl),
      Cron.elements_eq_ok_iff.1 (by rfl), Cron.elements_eq_ok_iff.1 (by rfl),
      Cron.elements_eq_ok_iff.1 (by rfl), Cron.elements_eq_ok_iff.1 (by rfl)⟩
  have hc := Cron.parse_eq_ok_iff.2 ⟨_, _, hrule, rfl⟩
  obtain ⟨texts, hwords, hdue, hself⟩ := schedule_agrees hc
  have htexts : texts = ⟨"30", "2", "13", "*", "fri"⟩ := by
    have hsame := hwords.symm.trans (Cron.exists_cut_iff.1 hrule.cut)
    obtain ⟨minute, hour, day, month, weekday⟩ := texts
    simpa [Cron.Fields.toList] using hsame
  subst htexts
  refine ⟨⟨_, hc⟩, ?_, ?_, hself⟩
  · -- a Friday
    obtain ⟨w, hw, -, hall⟩ := hdue ⟨⟨2024, 1, 19⟩, 2, 30, 0, 0, none⟩
      ⟨by decide, by decide, by decide, by decide⟩
    obtain rfl : w = 5 := hw.eq_weekday
    obtain ⟨due, hfires, hiff⟩ := hall _ (.intro " " "z" "\n" (List.forall_mem_singleton.2 rfl)
      (by decide) (List.forall_mem_singleton.2 rfl))
    rw [hiff.2 (by decide)] at hfires
    exact hfires
  · -- a Thursday
    obtain ⟨w, hw, -, hall⟩ := hdue ⟨⟨2024, 1, 18⟩, 2, 30, 0, 0, none⟩
      ⟨by decide, by decide, by decide, by decide⟩
    obtain rfl : w = 4 := hw.eq_weekday
    obtain ⟨due, hfires, hiff⟩ := hall _ (.intro "" "+00:00" "" (List.forall_mem_nil _)
      (by decide) (List.forall_mem_nil _))
    rw [Bool.eq_false_iff.2 fun h => absurd (hiff.1 h) (by decide)] at hfires
    exact hfires

end Trigger

end Conveyor
