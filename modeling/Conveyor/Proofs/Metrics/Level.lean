/-
**How many are at work, told from what is measured.**

Whoever takes up work is noted, and whoever lays it down.  From these notes alone it can be told how
many are at work, for one run and for several runs whose notes come in any order among each other.

Main definitions:

* `Conveyor.Measurement.levelAfter?` — how many are at work after measurements, if nobody leaves who
  was not there and there are never too many;
* `Conveyor.Reading` — a measurement of one of several runs;
* `Conveyor.Reading.ofRun` — the measurements of one of them, in order.

Main results:

* `Conveyor.Measurement.count_of_levelAfter?` — as many have taken up work as have laid it down or
  are still there;
* `Conveyor.Reading.levelAfter?_merge` — **several runs together**.
-/

import Conveyor.Counts
import Conveyor.Engine.Call

set_option autoImplicit false

namespace Conveyor

/-! ### One run -/

namespace Measurement

/-- How many are at work after a measurement, if that may be made: nobody takes up work when there
are as many as may be, and nobody lays it down when there is nobody. -/
def level? (limit n : Nat) : Measurement → Option Nat
  | .entered => if n < limit then some (n + 1) else none
  | .left => if n = 0 then none else some (n - 1)
  | _ => some n

/-- How many are at work after measurements, if they may be made one after the other. -/
def levelAfter? (limit n : Nat) (ms : List Measurement) : Option Nat := ms.foldlM (level? limit) n

/-- Whether a measurement tells nothing of who is at work. -/
def isNeutral : Measurement → Bool
  | .entered | .left => false
  | _ => true

variable {limit n l : Nat} {m : Measurement} {ms : List Measurement}

theorem level?_of_neutral (h : m.isNeutral = true) (limit n : Nat) : level? limit n m = some n := by
  cases m <;> first | rfl | cases h

theorem levelAfter?_cons_eq_some :
    levelAfter? limit n (m :: ms) = some l ↔
      ∃ k, level? limit n m = some k ∧ levelAfter? limit k ms = some l := by
  rw [levelAfter?, List.foldlM_cons]
  exact Option.bind_eq_some_iff

theorem levelAfter?_append {k : Nat} (h : levelAfter? limit l ms = some k)
    (ns : List Measurement) : levelAfter? limit l (ms ++ ns) = levelAfter? limit k ns := by
  rw [levelAfter?, List.foldlM_append, ← levelAfter?, h]
  rfl

theorem levelAfter?_of_neutral (h : ∀ m ∈ ms, m.isNeutral = true) (n : Nat) :
    levelAfter? limit n ms = some n := by
  induction ms with
  | nil => rfl
  | cons m rest ih =>
      rw [levelAfter?, List.foldlM_cons, level?_of_neutral (h m (List.mem_cons_self ..))]
      exact ih fun m hm => h m (List.mem_cons_of_mem _ hm)

/-- One more takes up work. -/
theorem levelAfter?_entered (h : n < limit) : levelAfter? limit n [.entered] = some (n + 1) := by
  simp [levelAfter?, level?, h]

/-- One of those at work lays it down. -/
theorem levelAfter?_left (n : Nat) : levelAfter? limit (n + 1) [.left] = some n := by
  simp [levelAfter?, level?]

/-- What a measurement does to the number of those at work. -/
theorem level?_eq_some (h : level? limit n m = some l) :
    (m = .entered ∧ n < limit ∧ l = n + 1) ∨ (m = .left ∧ n = l + 1) ∨
      (m.isNeutral = true ∧ l = n) := by
  cases m with
  | entered =>
      by_cases hn : n < limit
      · exact .inl ⟨rfl, hn, by simpa [level?, hn] using h.symm⟩
      · simp [level?, hn] at h
  | left =>
      by_cases hn : n = 0
      · simp [level?, hn] at h
      · have hl : n - 1 = l := by simpa [level?, hn] using h
        exact .inr (.inl ⟨rfl, by omega⟩)
  | _ => exact .inr (.inr ⟨rfl, (Option.some.inj h).symm⟩)

/-- There are never too many at work. -/
theorem le_of_level? (h : level? limit n m = some l) (hn : n ≤ limit) : l ≤ limit := by
  rcases level?_eq_some h with ⟨_, hlt, rfl⟩ | ⟨_, rfl⟩ | ⟨_, rfl⟩ <;> omega

/-- As many have taken up work as have laid it down or are still there. -/
theorem count_of_levelAfter? (h : levelAfter? limit n ms = some l) :
    n + ms.count .entered = ms.count .left + l := by
  induction ms generalizing n with
  | nil =>
      obtain rfl := Option.some.inj h
      simp
  | cons m rest ih =>
      obtain ⟨k, hk, hrest⟩ := levelAfter?_cons_eq_some.1 h
      have hih := ih hrest
      rcases level?_eq_some hk with ⟨rfl, _, rfl⟩ | ⟨rfl, rfl⟩ | ⟨hneutral, rfl⟩
      · rw [List.count_cons_self, List.count_cons_of_ne (by decide)]
        omega
      · rw [List.count_cons_self, List.count_cons_of_ne (by decide)]
        omega
      · have hentered : m ≠ .entered := by rintro rfl; cases hneutral
        have hleft : m ≠ .left := by rintro rfl; cases hneutral
        rw [List.count_cons_of_ne hentered, List.count_cons_of_ne hleft]
        exact hih

end Measurement

/-! ### Several runs -/

/-- A measurement of one of several runs, with how long it took if it is about a duration. -/
structure Reading where
  /-- The number of the run. -/
  run : Nat
  what : Measurement
  seconds : Float := 0

namespace Reading

open Measurement

/-- The measurements of one run, in order. -/
def ofRun (k : Nat) (rs : List Reading) : List Measurement :=
  (rs.filter (·.run == k)).map (·.what)

theorem ofRun_cons_self (x : Reading) (rs : List Reading) :
    ofRun x.run (x :: rs) = x.what :: ofRun x.run rs := by
  simp [ofRun]

theorem ofRun_cons_of_ne {x : Reading} {k : Nat} (h : x.run ≠ k) (rs : List Reading) :
    ofRun k (x :: rs) = ofRun k rs := by
  simp [ofRun, h]

/-- How many are at work in a run, and how many there may be. -/
structure Gang where
  limit : Nat
  level : Nat

/-- As many as are free in one run are free in all together. -/
theorem Gang.free_le {gangs : List Gang} (hfit : ∀ g ∈ gangs, g.level ≤ g.limit) {k : Nat}
    {g : Gang} (hg : gangs[k]? = some g) :
    total (gangs.map Gang.level) + g.limit ≤ total (gangs.map Gang.limit) + g.level := by
  have hlevel := total_set hg { g with level := g.limit } Gang.level
  have hlimit := total_set hg { g with level := g.limit } Gang.limit
  have hfull : ∀ d ∈ gangs.set k { g with level := g.limit }, d.level ≤ d.limit := by
    intro d hd
    rcases List.mem_or_eq_of_mem_set hd with hd | rfl
    · exact hfit d hd
    · exact Nat.le_refl _
  have hle := total_le_of_forall hfull
  dsimp only at hlevel hlimit
  omega

/-- **Several runs together**: whatever the order in which the measurements of different runs come,
as many are at work in all as in the runs one by one. -/
theorem levelAfter?_merge (gangs gangs' : List Gang) {rs : List Reading}
    (hruns : ∀ x ∈ rs, x.run < gangs.length) (hlength : gangs'.length = gangs.length)
    (hfit : ∀ g ∈ gangs, g.level ≤ g.limit)
    (h : ∀ (k : Nat) (g g' : Gang), gangs[k]? = some g → gangs'[k]? = some g' →
      levelAfter? g.limit g.level (ofRun k rs) = some g'.level) :
    levelAfter? (total (gangs.map Gang.limit)) (total (gangs.map Gang.level))
      (rs.map Reading.what) = some (total (gangs'.map Gang.level)) := by
  -- the induction is on the measurements, for whatever is at work before the first of them
  induction rs generalizing gangs with
  | nil =>
      have hsame : gangs.map Gang.level = gangs'.map Gang.level := by
        refine List.ext_getElem (by simp [hlength]) fun k hk hk' => ?_
        rw [List.length_map] at hk hk'
        simp only [List.getElem_map]
        exact Option.some.inj (h k _ _ (List.getElem?_eq_getElem hk) (List.getElem?_eq_getElem hk'))
      rw [hsame]
      rfl
  | cons x rest ih =>
      have hlt := hruns x (List.mem_cons_self ..)
      obtain ⟨g, hg⟩ : ∃ g, gangs[x.run]? = some g := ⟨_, List.getElem?_eq_getElem hlt⟩
      obtain ⟨g', hg'⟩ : ∃ g', gangs'[x.run]? = some g' :=
        ⟨_, List.getElem?_eq_getElem (hlength ▸ hlt)⟩
      have hx := h x.run g g' hg hg'
      rw [ofRun_cons_self] at hx
      obtain ⟨l, hl, hrest⟩ := levelAfter?_cons_eq_some.1 hx
      have hfree := Gang.free_le hfit hg
      -- the run of the first measurement goes on, and the others stay as they are
      have hlevel := total_set hg { g with level := l } Gang.level
      have hlimit := total_set hg { g with level := l } Gang.limit
      have hall := ih (gangs.set x.run { g with level := l })
        (fun y hy => by simpa using hruns y (List.mem_cons_of_mem _ hy)) (by simp [hlength])
        (fun d hd => ?_) fun k d d' hd hd' => ?_
      · dsimp only at hlevel hlimit
        rw [Nat.add_right_cancel hlimit] at hall
        rw [List.map_cons, levelAfter?_cons_eq_some]
        refine ⟨_, ?_, hall⟩
        rcases level?_eq_some hl with ⟨hm, hlt, rfl⟩ | ⟨hm, hl⟩ | ⟨hm, rfl⟩
        · rw [hm, level?, if_pos (by omega)]
          congr 1
          omega
        · rw [hm, level?, if_neg (by omega)]
          congr 1
          omega
        · rw [level?_of_neutral hm]
          congr 1
          omega
      · rcases List.mem_or_eq_of_mem_set hd with hd | rfl
        · exact hfit d hd
        · exact le_of_level? hl (hfit g (List.mem_of_getElem? hg))
      · by_cases hk : x.run = k
        · subst hk
          rw [List.getElem?_set_self hlt] at hd
          obtain rfl := Option.some.inj hd
          obtain rfl := Option.some.inj (hg'.symm.trans hd')
          exact hrest
        · rw [List.getElem?_set_ne hk] at hd
          rw [← ofRun_cons_of_ne hk]
          exact h k d d' hd hd'

end Reading

end Conveyor
