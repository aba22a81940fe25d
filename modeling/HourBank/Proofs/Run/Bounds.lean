import HourBank.Proofs.Ledger.Bounds
import HourBank.Proofs.Run.Stopping

/-! Runs that stay small. A text whose times are few and short enough never overflows. -/

namespace HourBank

namespace Ledger

theorem readLine_eq_overflow {l : Ledger} {line : Text} {operation : Overflow}
    (h : l.readLine line = .error (.overflow operation)) :
    ∃ c, Command.parseLine line = .ok (some c) ∧ l.step c = .error (.overflow operation) := by
  unfold readLine at h
  split at h
  · simp at h
  · simp at h
  · rename_i c hparse
    refine ⟨c, hparse, ?_⟩
    unfold perform at h
    cases hstep : l.step c with
    | ok result => simp [hstep, Except.map] at h
    | error fault => simpa [hstep, Except.map] using h

theorem written_cons_of_command {line : Text} {c : Command} {rest : List Text}
    (h : Command.parseLine line = .ok (some c)) : written (line :: rest) = c :: written rest := by
  simp [written, h, Except.toOption]

end Ledger

namespace Run

/-- The outcome of a run is an overflow where a line overflows, or else the end of the last day. -/
theorem overflow_of_outcome {l : Ledger} {t : Text} {operation : Overflow}
    (h : (ofText l t).outcome = .error (.overflow operation)) :
    (∃ n line past, l.StopsAt t.lines n line past (.overflow operation)) ∨
      ∃ last past, l.readLines t.lines = .ok (last, past) ∧ last.close = .error operation := by
  cases hread : l.readLines t.lines with
  | error fault =>
    obtain ⟨n, line, past, hstop⟩ := exists_stopsAt_of_readLines_eq_error hread
    obtain ⟨journal, hrun⟩ := ofText_of_stopsAt hstop
    rw [hrun t rfl] at h
    cases fault with
    | refused why => simp [Fault.stop] at h
    | overflow found =>
      obtain rfl : found = operation := by simpa [Fault.stop] using h
      exact Or.inl ⟨n, line, past, hstop⟩
  | ok result =>
    obtain ⟨last, past⟩ := result
    obtain ⟨journal, hrun⟩ := ofText_of_readLines hread
    cases hclose : last.close with
    | ok ending => simp [hrun, closing_of_ok hclose, after] at h
    | error found =>
      obtain rfl : found = operation := by simpa [hrun, closing_of_error hclose, after] using h
      exact Or.inr ⟨last, past, rfl, hclose⟩

variable {s : Schedule} {b : Nat} {lines : List Text}

theorem not_stopsAt_overflow (hworkday : s.workday.size ≤ b)
    (hlunch : s.lunch.size ≤ b) (htimes : ∀ c ∈ Ledger.written lines, c.Within b)
    (hdaysOff : (Ledger.written lines).countP (· = .dayOff) < UInt32.size)
    (hfits : 4 * (b * (Ledger.written lines).length + b) ≤ 9223372036854775807)
    (n : Nat) (line : Text) (past : History) (operation : Overflow) :
    ¬ (Ledger.start s).StopsAt lines n line past (.overflow operation) := by
  rintro ⟨hline, mid, hpast, hfault⟩
  obtain ⟨hn, rfl⟩ := List.getElem?_eq_some_iff.mp hline
  obtain ⟨c, hparse, hstep⟩ := Ledger.readLine_eq_overflow hfault
  obtain ⟨hwritten, hfollow⟩ := Ledger.readLines_eq_ok hpast
  rw [hwritten] at hfollow
  have hsplit : Ledger.written lines = Ledger.written (lines.take n) ++
      c :: Ledger.written (lines.drop (n + 1)) := by
    rw [← Ledger.written_cons_of_command hparse, ← List.drop_eq_getElem_cons hn, Ledger.written,
      Ledger.written, Ledger.written, ← List.filterMap_append, List.take_append_drop]
  rw [hsplit] at htimes hdaysOff hfits
  obtain ⟨hbefore, hafter⟩ := List.forall_mem_append.mp htimes
  have hwithin := Ledger.follow_within hworkday hlunch hbefore hfollow
  refine hwithin.step_ne_overflow (hafter c List.mem_cons_self) ?_ ?_ operation hstep
  · rw [List.length_append, List.length_cons, Nat.mul_add, Nat.mul_add] at hfits
    omega
  · rintro rfl
    rw [List.countP_append, List.countP_cons_of_pos (by simp)] at hdaysOff
    omega

theorem exists_close_of_small (hworkday : s.workday.size ≤ b)
    (hlunch : s.lunch.size ≤ b) (htimes : ∀ c ∈ Ledger.written lines, c.Within b)
    (hfits : 4 * (b * (Ledger.written lines).length + b) ≤ 9223372036854775807)
    {last : Ledger} {past : History} (hread : (Ledger.start s).readLines lines = .ok (last, past)) :
    ∃ closed entry, last.close = .ok (closed, entry) := by
  obtain ⟨hwritten, hfollow⟩ := Ledger.readLines_eq_ok hread
  rw [hwritten] at hfollow
  have hwithin := Ledger.follow_within hworkday hlunch htimes hfollow
  obtain ⟨closed, entry, hcloses⟩ := hwithin.exists_closes hfits
  exact ⟨closed, entry, Ledger.close_eq_ok_iff.mpr hcloses⟩

/-- Nothing overflows in a run of a text with `n` commands, all times of it and of the schedule at
most `b`, when `4 * b * (n + 1)` fits and the days off can be counted. When no line is refused
either, the run comes to a ledger. -/
theorem small_run_fits {t : Text} (hworkday : s.workday.toInt.natAbs ≤ b)
    (hlunch : s.lunch.toInt.natAbs ≤ b)
    (htimes : ∀ c ∈ Ledger.written t.lines, ∀ m ∈ c.times, m.toInt.natAbs ≤ b)
    (hdaysOff : (Ledger.written t.lines).countP (· = .dayOff) ≤ 4294967295)
    (hfits : 4 * b * ((Ledger.written t.lines).length + 1) ≤ 9223372036854775807) :
    (∀ operation, (ofText (.start s) t).outcome ≠ .error (.overflow operation)) ∧
    ((∀ n line past why, ¬ (Ledger.start s).StopsAt t.lines n line past (.refused why)) →
      ∃ closed, (ofText (.start s) t).outcome = .ok closed) := by
  have hroom : 4 * (b * (Ledger.written t.lines).length + b) ≤ 9223372036854775807 := by
    rw [Nat.mul_assoc, Nat.mul_succ] at hfits
    exact hfits
  have hcount : (Ledger.written t.lines).countP (· = .dayOff) < UInt32.size :=
    Nat.lt_succ_of_le hdaysOff
  have hlines := not_stopsAt_overflow hworkday hlunch htimes hcount hroom
  constructor
  · intro operation h
    rcases overflow_of_outcome h with ⟨n, line, past, hstop⟩ | ⟨last, past, hread, hclose⟩
    · exact hlines n line past operation hstop
    · obtain ⟨closed, entry, hok⟩ := exists_close_of_small hworkday hlunch htimes hroom hread
      rw [hok] at hclose
      exact absurd hclose nofun
  · intro hrefused
    cases hread : (Ledger.start s).readLines t.lines with
    | error fault =>
      obtain ⟨n, line, past, hstop⟩ := exists_stopsAt_of_readLines_eq_error hread
      cases fault with
      | refused why => exact absurd hstop (hrefused n line past why)
      | overflow operation => exact absurd hstop (hlines n line past operation)
    | ok result =>
      obtain ⟨last, past⟩ := result
      obtain ⟨journal, hrun⟩ := ofText_of_readLines hread
      obtain ⟨closed, entry, hok⟩ := exists_close_of_small hworkday hlunch htimes hroom hread
      exact ⟨closed, by rw [hrun, closing_of_ok hok]; rfl⟩

theorem small_run_fits_near_the_limit :
    ∃ (s : Schedule) (b : Nat) (t : Text), b = 768614336404564650 ∧ s.workday.toInt = b ∧
      s.lunch.toInt = b ∧ t = "DATA 2024-01-01\nESTIMATE 12810238940076077:30".toList ∧
      (Ledger.written t.lines).map Command.times = [[], [s.workday]] ∧
      4 * b * ((Ledger.written t.lines).length + 1) = 9223372036854775800 ∧
      ∀ operation, (ofText (.start s) t).outcome ≠ .error (.overflow operation) := by
  obtain ⟨t, ht⟩ : ∃ t : Text, t = "DATA 2024-01-01\nESTIMATE 12810238940076077:30".toList :=
    ⟨_, rfl⟩
  have hwritten : Ledger.written t.lines =
      [.day ⟨2024, 1, 1⟩, .estimate { toInt := 768614336404564650 }] := by
    rw [ht]
    decide +kernel
  have htimes : ∀ c ∈ Ledger.written t.lines, ∀ m ∈ c.times,
      m.toInt.natAbs ≤ 768614336404564650 := by
    rw [hwritten]
    decide
  have hdaysOff : (Ledger.written t.lines).countP (· = .dayOff) ≤ 4294967295 := by
    rw [hwritten]
    decide
  have hfits : 4 * 768614336404564650 * ((Ledger.written t.lines).length + 1) =
      9223372036854775800 := by
    rw [hwritten]
    rfl
  refine ⟨⟨{ toInt := 768614336404564650 }, { toInt := 768614336404564650 }, .zero⟩,
    768614336404564650, t, rfl, rfl, rfl, ht, ?_, hfits, (small_run_fits (by decide) (by decide)
      htimes hdaysOff (by rw [hfits]; decide)).1⟩
  rw [hwritten]
  rfl

end Run

end HourBank
