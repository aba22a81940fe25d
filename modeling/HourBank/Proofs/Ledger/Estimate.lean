import HourBank.Proofs.Ledger.OpenDay

/-! An estimate kept to. Punching from its clock-in to the clock-out it expects works just what it
said was missing, and leaves a day that moves the bank no more than it would have without. -/

namespace HourBank

namespace Minutes

theorem toInt_max (a b : Minutes) : (max a b).toInt = max a.toInt b.toInt := by
  have hmax : max a b = if a ≤ b then b else a := rfl
  rw [hmax]
  by_cases h : a ≤ b
  · rw [if_pos h, Int.max_eq_right (le_def.mp h)]
  · have hle : b.toInt ≤ a.toInt := Int.le_of_lt (Int.not_le.mp (mt le_def.mpr h))
    rw [if_neg h, Int.max_eq_left hle]

end Minutes

namespace Schedule

/-- A full day moves nothing even where no tolerance is left. -/
theorem delta_full (s : Schedule) : s.delta s.full = 0 := by
  rw [delta, Int.sub_self]
  split <;> rfl

end Schedule

namespace Ledger

variable {l next : Ledger} {d : OpenDay} {clockIn : Minutes} {entries : List Entry}

/-- On an open day a command is taken unless it overflows. -/
theorem exists_takes_of_current {c : Command} (hcur : l.current = some d)
    (h : ∀ operation, l.step c ≠ .error (.overflow operation)) :
    ∃ next entries, l.Takes c next entries := by
  cases hstep : l.step c with
  | ok result => exact ⟨result.1, result.2, step_eq_ok_iff.mp hstep⟩
  | error fault =>
    cases fault with
    | refused why =>
      obtain ⟨hnone, -⟩ := step_eq_refused_iff.mp hstep
      exact absurd (hcur.symm.trans hnone) (Option.some_ne_none d)
    | overflow operation => exact absurd hstep (h operation)

/-- What was missing, and the clock-out after it, are punched without overflow as the day ends where
it was or at a full day. -/
theorem Takes.punch_of_estimate (hcur : l.current = some d)
    (h : l.Takes (.estimate clockIn) next entries) :
    ∃ clockOut remaining time, entries = [.estimate clockIn clockOut remaining] ∧
      .zero ≤ remaining ∧ clockIn ≤ clockOut ∧
      time.toInt = max d.time.toInt l.schedule.full ∧
      l.Takes (.punch clockIn clockOut)
        { l with current := some ⟨d.day, d.firstClockIn.or (some clockIn), time⟩ }
        [.punch clockIn clockOut remaining] := by
  cases h with
  | @estimate d' full missing _ _ clockOut _ hcur' hfull hmissing htime htotal hout =>
    obtain rfl : d = d' := Option.some.inj (hcur.symm.trans hcur')
    have hremaining : (max missing .zero).toInt = max missing.toInt 0 := Minutes.toInt_max _ _
    rw [hfull] at hmissing
    have hnonneg : Minutes.zero ≤ max missing .zero := by
      rw [Minutes.le_def, hremaining]
      exact Int.le_max_right _ _
    have hlater : clockIn ≤ clockOut := by
      rw [Minutes.le_def, hout, hremaining]
      omega
    -- The day was within its range and so is a full day, and the time after is one of them.
    obtain ⟨time, htime'⟩ : ∃ time : Minutes, time.toInt = max d.time.toInt l.schedule.full := by
      rw [← hfull]
      exact ⟨max d.time full, Minutes.toInt_max _ _⟩
    refine ⟨clockOut, max missing .zero, time, rfl, hnonneg, hlater, htime', ?_⟩
    refine .punch clockIn clockOut hcur ?_ ?_
    · rw [hout]
      omega
    · rw [htime', hremaining, hmissing]
      omega

theorem Closes.delta_of_max {closed : Ledger} {entry : Option Entry} (hcur : l.current = some d)
    {time : Int} (htime : d.time.toInt = max time l.schedule.full) (h : l.Closes closed entry) :
    ∃ span bankDelta bank, entry = some (.dayClosed span d.time bankDelta bank) ∧
      l.schedule.bankDelta d.time = .ok bankDelta ∧
      (time ≤ l.schedule.full → bankDelta = .zero) := by
  cases h with
  | idle hnone => exact absurd (hcur.symm.trans hnone) (Option.some_ne_none d)
  | @day d' span bankDelta bank totalTime hcur' hdelta hbank htotal hspan =>
    obtain rfl : d = d' := Option.some.inj (hcur.symm.trans hcur')
    refine ⟨span, bankDelta, bank, rfl, hdelta, ?_⟩
    intro hle
    have hmoved := Schedule.bankDelta_toInt hdelta
    rw [htime, Int.max_eq_right hle, Schedule.delta_full] at hmoved
    exact Minutes.ext hmoved

/-- An estimate that does not overflow can be kept: the punch it expects is taken, works what was
missing and leaves the day at a full day or where it was beyond one. Closing it then moves the bank
only by what the day was over before. -/
theorem estimate_kept (hcur : l.current = some d)
    (h : ∀ operation, l.step (.estimate clockIn) ≠ .error (.overflow operation)) :
    ∃ next clockOut remaining after,
      l.step (.estimate clockIn) = .ok (next, [.estimate clockIn clockOut remaining]) ∧
      .zero ≤ remaining ∧ clockIn ≤ clockOut ∧
      l.step (.punch clockIn clockOut) = .ok (after, [.punch clockIn clockOut remaining]) ∧
      after.dayTime.toInt = max d.time.toInt l.schedule.full ∧
      ∀ closed entry, after.close = .ok (closed, entry) →
        ∃ span worked bankDelta bank, entry = some (.dayClosed span worked bankDelta bank) ∧
          (d.time.toInt ≤ l.schedule.full → bankDelta = .zero) ∧
          (l.schedule.full < d.time.toInt → l.schedule.bankDelta d.time = .ok bankDelta) := by
  obtain ⟨next, entries, htakes⟩ := exists_takes_of_current hcur h
  obtain ⟨clockOut, remaining, time, rfl, hnonneg, hlater, htime, hpunch⟩ :=
    htakes.punch_of_estimate hcur
  refine ⟨next, clockOut, remaining, _, step_eq_ok_iff.mpr htakes, hnonneg, hlater,
    step_eq_ok_iff.mpr hpunch, htime, ?_⟩
  intro closed entry hclose
  obtain ⟨span, bankDelta, bank, hentry, hdelta, hzero⟩ :=
    (close_eq_ok_iff.mp hclose).delta_of_max rfl htime
  refine ⟨span, time, bankDelta, bank, hentry, hzero, ?_⟩
  intro hover
  have hsame : time = d.time := by
    rw [Minutes.ext_iff, htime]
    exact Int.max_eq_left (Int.le_of_lt hover)
  rw [← hsame]
  exact hdelta

/-- Three hours into a day, and without any tolerance. -/
theorem estimate_kept_without_tolerance :
    ∃ (l : Ledger) (d : OpenDay) (clockIn clockOut remaining : Minutes) (after : Ledger),
      l.current = some d ∧ l.schedule.tolerance.toInt = -1 ∧ d.time.toInt = 180 ∧
      (∀ operation, l.step (.estimate clockIn) ≠ .error (.overflow operation)) ∧
      l.step (.punch clockIn clockOut) = .ok (after, [.punch clockIn clockOut remaining]) ∧
      after.dayTime.toInt = 540 ∧
      ∀ closed entry, after.close = .ok (closed, entry) →
        ∃ span worked bank, entry = some (.dayClosed span worked .zero bank) := by
  let s : Schedule := { Schedule.standard with tolerance := { toInt := -1 } }
  let d : OpenDay := ⟨⟨2024, 1, 1⟩, some { toInt := 540 }, { toInt := 180 }⟩
  let l : Ledger := { start s with current := some d }
  have h : ∀ operation, l.step (.estimate { toInt := 780 }) ≠ .error (.overflow operation) := by
    intro operation
    exact nofun
  obtain ⟨_, clockOut, remaining, after, -, -, -, hpunch, htime, hclose⟩ := estimate_kept rfl h
  refine ⟨l, d, _, clockOut, remaining, after, rfl, rfl, rfl, h, hpunch, htime, ?_⟩
  intro closed entry hclosed
  obtain ⟨span, worked, bankDelta, bank, hentry, hzero, -⟩ := hclose closed entry hclosed
  obtain rfl : bankDelta = .zero := hzero (by decide)
  exact ⟨span, worked, bank, hentry⟩

end Ledger

end HourBank
