import HourBank.Proofs.Ledger.OpenDay
import HourBank.Proofs.Schedule.Tolerance

/-! How far the numbers of a ledger can get. A command moves the bank and the time of the day
together by at most twice the greatest time it is given, and the total and the time of the day by
four times that, so all of them keep below a line through the number of commands. -/

namespace HourBank

namespace Minutes

def size (m : Minutes) : Nat := m.toInt.natAbs

theorem size_zero : zero.size = 0 := rfl

theorem size_le_of_add {a b c : Minutes} (h : c.toInt = a.toInt + b.toInt) :
    c.size ≤ a.size + b.size := by
  rw [size, h]
  exact Int.natAbs_add_le _ _

theorem size_le_of_sub {a b c : Minutes} (h : c.toInt = a.toInt - b.toInt) :
    c.size ≤ a.size + b.size := by
  rw [size, h]
  exact Int.natAbs_sub_le _ _

theorem size_max_zero_le (m : Minutes) : (max m zero).size ≤ m.size := by
  by_cases h : m ≤ zero
  · have hmax : max m zero = zero := if_pos h
    rw [hmax, size_zero]
    exact Nat.zero_le _
  · have hmax : max m zero = m := if_neg h
    exact Nat.le_of_eq (congrArg size hmax)

theorem exists_add {a b : Minutes} (h : a.size + b.size ≤ 9223372036854775807) :
    ∃ c : Minutes, c.toInt = a.toInt + b.toInt :=
  exists_toInt_eq (Nat.le_trans (Int.natAbs_add_le _ _) h)

theorem exists_sub {a b : Minutes} (h : a.size + b.size ≤ 9223372036854775807) :
    ∃ c : Minutes, c.toInt = a.toInt - b.toInt :=
  exists_toInt_eq (Nat.le_trans (Int.natAbs_sub_le _ _) h)

end Minutes

namespace Schedule

def size (s : Schedule) : Nat := s.workday.size + s.lunch.size

theorem size_bankDelta_le {s : Schedule} {time d : Minutes} (h : s.bankDelta time = .ok d) :
    d.size ≤ time.size + s.size := by
  have hmoved := bankDelta_toInt h
  unfold delta full at hmoved
  unfold size Minutes.size
  split at hmoved <;> omega

theorem exists_bankDelta {s : Schedule} {time : Minutes}
    (h : time.size + s.size ≤ 9223372036854775807) : ∃ d, s.bankDelta time = .ok d := by
  have hsize : time.toInt.natAbs + (s.workday.toInt.natAbs + s.lunch.toInt.natAbs) ≤
      9223372036854775807 := h
  have hfull : Minutes.Fits s.full := by
    unfold Minutes.Fits full
    omega
  have hdiff : Minutes.Fits (s.full - time.toInt) := by
    unfold Minutes.Fits full
    omega
  have hleast : s.full - time.toInt ≠ -9223372036854775808 := by
    unfold full
    omega
  exact exists_bankDelta_iff.mpr ⟨hfull, hdiff, hleast⟩

end Schedule

theorem OpenDay.exists_span {d : OpenDay}
    (h : ∀ m ∈ d.firstClockIn, m.size + d.time.size ≤ 9223372036854775807) :
    ∃ span, d.span = .ok span := by
  unfold OpenDay.span
  cases hin : d.firstClockIn with
  | none => exact ⟨none, rfl⟩
  | some clockIn =>
    obtain ⟨clockOut, hout⟩ := Minutes.exists_add (h clockIn hin)
    have hadd : clockIn.add d.time = .ok clockOut := Minutes.add_eq_ok_iff.mpr hout
    exact ⟨some (clockIn, clockOut), by simp only [hadd]; rfl⟩

def Command.Within (b : Nat) (c : Command) : Prop := ∀ m ∈ c.times, m.size ≤ b

namespace Ledger

/-- The numbers of a ledger after commands with times up to `b`, where `used` is `b` for each of
them and `off` of them were days off. -/
structure Within (b used off : Nat) (l : Ledger) : Prop where
  schedule : l.schedule.size ≤ 2 * b
  firstClockIn : ∀ m ∈ l.firstClockIn, m.size ≤ b
  bank : l.bank.size + l.dayTime.size ≤ 2 * used
  totalTime : l.totalTime.size + l.dayTime.size ≤ 4 * used
  daysOff : l.daysOff.toNat = off

variable {b used off : Nat} {l next : Ledger} {c : Command} {entries : List Entry}

theorem within_start {s : Schedule} (hworkday : s.workday.size ≤ b) (hlunch : s.lunch.size ≤ b) :
    (start s).Within b 0 0 := by
  have hschedule : s.size ≤ 2 * b := by
    unfold Schedule.size
    omega
  exact ⟨hschedule, by simp [start, Ledger.firstClockIn], Nat.le_refl 0, Nat.le_refl 0, rfl⟩

theorem Within.mono {used' : Nat} (h : l.Within b used off) (hle : used ≤ used') :
    l.Within b used' off := by
  have hbank := h.bank
  have htotal := h.totalTime
  exact ⟨h.schedule, h.firstClockIn, by omega, by omega, h.daysOff⟩

theorem Closes.within {closed : Ledger} {entry : Option Entry} (h : l.Within b used off)
    (hclose : l.Closes closed entry) (date : Day) :
    { closed with current := some (.start date) : Ledger }.Within b (used + b) off := by
  have hschedule := h.schedule
  have hbank := h.bank
  have htotal := h.totalTime
  cases hclose with
  | idle hcur =>
    refine ⟨hschedule, by simp [Ledger.firstClockIn, OpenDay.start], ?_, ?_, h.daysOff⟩
    · show l.bank.size + 0 ≤ 2 * (used + b)
      omega
    · show l.totalTime.size + 0 ≤ 4 * (used + b)
      omega
  | @day d span bankDelta bank totalTime hcur hdelta hbank' htotal' hspan =>
    rw [dayTime_of_current hcur] at hbank htotal
    have hdeltaSize := Schedule.size_bankDelta_le hdelta
    have hbankSize := Minutes.size_le_of_add hbank'
    have htotalSize := Minutes.size_le_of_add htotal'
    refine ⟨hschedule, by simp [Ledger.firstClockIn, OpenDay.start], ?_, ?_, h.daysOff⟩
    · show bank.size + 0 ≤ 2 * (used + b)
      omega
    · show totalTime.size + 0 ≤ 4 * (used + b)
      omega

theorem Takes.within (h : l.Within b used off) (hc : c.Within b) (htakes : l.Takes c next entries) :
    next.Within b (used + b) (off + if c = .dayOff then 1 else 0) := by
  have hschedule := h.schedule
  have hbank := h.bank
  have htotal := h.totalTime
  cases htakes with
  | bank balance =>
    have hbalance : balance.size ≤ b := hc balance (by simp [Command.times])
    refine ⟨hschedule, h.firstClockIn, ?_, ?_, h.daysOff⟩
    · show balance.size + l.dayTime.size ≤ 2 * (used + b)
      omega
    · show l.totalTime.size + l.dayTime.size ≤ 4 * (used + b)
      omega
  | day date hclose => exact hclose.within h date
  | @punch d worked time clockIn clockOut hcur hworked htime =>
    have hin : clockIn.size ≤ b := hc clockIn (by simp [Command.times])
    have hout : clockOut.size ≤ b := hc clockOut (by simp [Command.times])
    have hworkedSize := Minutes.size_le_of_sub hworked
    have htimeSize := Minutes.size_le_of_add htime
    rw [dayTime_of_current hcur] at hbank htotal
    refine ⟨hschedule, ?_, ?_, ?_, h.daysOff⟩
    · have hfirst := h.firstClockIn
      rw [firstClockIn_of_current hcur] at hfirst
      cases hd : d.firstClockIn with
      | none => simpa [Ledger.firstClockIn, hd] using hin
      | some m => simpa [Ledger.firstClockIn, hd] using hfirst
    · show l.bank.size + time.size ≤ 2 * (used + b)
      omega
    · show l.totalTime.size + time.size ≤ 4 * (used + b)
      omega
  | @estimate d full missing time totalTime clockOut clockIn hcur hfull hmissing htime htotal' hout =>
    have hin : clockIn.size ≤ b := hc clockIn (by simp [Command.times])
    have hfullSize : full.size ≤ l.schedule.size := Minutes.size_le_of_add hfull
    have htimeSize := Minutes.size_le_of_add htime
    have htotalSize := Minutes.size_le_of_add htotal'
    rw [dayTime_of_current hcur] at hbank htotal
    -- Both the total and the day grow by a full day, which is why the total is held to `4 * used`.
    refine ⟨hschedule, by simpa [Ledger.firstClockIn] using hin, ?_, ?_, h.daysOff⟩
    · show l.bank.size + time.size ≤ 2 * (used + b)
      omega
    · show totalTime.size + time.size ≤ 4 * (used + b)
      omega
  | dayOff hcur hfits =>
    have hmore := h.mono (Nat.le_add_right used b)
    refine ⟨hmore.schedule, hmore.firstClockIn, hmore.bank, hmore.totalTime, ?_⟩
    rw [toNat_add_one hfits, h.daysOff, if_pos rfl]
  | checkpoint hcur => exact h.mono (Nat.le_add_right used b)

theorem Within.exists_closes (h : l.Within b used off)
    (hfits : 4 * (used + b) ≤ 9223372036854775807) : ∃ closed entry, l.Closes closed entry := by
  have hschedule := h.schedule
  have hbank := h.bank
  have htotal := h.totalTime
  have hfirst := h.firstClockIn
  cases hcur : l.current with
  | none => exact ⟨l, none, .idle hcur⟩
  | some d =>
    rw [dayTime_of_current hcur] at hbank htotal
    rw [firstClockIn_of_current hcur] at hfirst
    obtain ⟨bankDelta, hdelta⟩ : ∃ bankDelta, l.schedule.bankDelta d.time = .ok bankDelta :=
      Schedule.exists_bankDelta (by omega)
    have hdeltaSize := Schedule.size_bankDelta_le hdelta
    obtain ⟨bank, hbank'⟩ := Minutes.exists_add (a := l.bank) (b := bankDelta) (by omega)
    obtain ⟨totalTime, htotal'⟩ := Minutes.exists_add (a := l.totalTime) (b := d.time) (by omega)
    obtain ⟨span, hspan⟩ : ∃ span, d.span = .ok span := by
      apply OpenDay.exists_span
      intro m hm
      have hin : m.size ≤ b := hfirst m hm
      omega
    exact ⟨_, _, .day hcur hdelta hbank' htotal' hspan⟩

/-- A command is taken when there is an open day and room for one command more. -/
theorem Within.exists_takes {d : OpenDay} (h : l.Within b used off) (hc : c.Within b)
    (hcur : l.current = some d) (hfits : 4 * (used + b) ≤ 9223372036854775807)
    (hdaysOff : c = .dayOff → off + 1 < UInt32.size) :
    ∃ next entries, l.Takes c next entries := by
  have hschedule := h.schedule
  have hbank := h.bank
  have htotal := h.totalTime
  rw [dayTime_of_current hcur] at hbank htotal
  cases c with
  | bank balance => exact ⟨_, _, .bank balance⟩
  | day date =>
    obtain ⟨closed, entry, hclose⟩ := h.exists_closes hfits
    exact ⟨_, _, .day date hclose⟩
  | punch clockIn clockOut =>
    have hin : clockIn.size ≤ b := hc clockIn (by simp [Command.times])
    have hout : clockOut.size ≤ b := hc clockOut (by simp [Command.times])
    obtain ⟨worked, hworked⟩ := Minutes.exists_sub (a := clockOut) (b := clockIn) (by omega)
    have hworkedSize := Minutes.size_le_of_sub hworked
    obtain ⟨time, htime⟩ := Minutes.exists_add (a := d.time) (b := worked) (by omega)
    exact ⟨_, _, .punch clockIn clockOut hcur hworked htime⟩
  | estimate clockIn =>
    have hin : clockIn.size ≤ b := hc clockIn (by simp [Command.times])
    have hsize : l.schedule.size = l.schedule.workday.size + l.schedule.lunch.size := rfl
    obtain ⟨full, hfull⟩ := Minutes.exists_add (a := l.schedule.workday) (b := l.schedule.lunch)
      (by omega)
    have hfullSize := Minutes.size_le_of_add hfull
    obtain ⟨missing, hmissing⟩ := Minutes.exists_sub (a := full) (b := d.time) (by omega)
    have hmissingSize := Minutes.size_le_of_sub hmissing
    have hmaxSize := missing.size_max_zero_le
    obtain ⟨time, htime⟩ := Minutes.exists_add (a := d.time) (b := full) (by omega)
    obtain ⟨totalTime, htotal'⟩ := Minutes.exists_add (a := l.totalTime) (b := full) (by omega)
    obtain ⟨clockOut, hout⟩ := Minutes.exists_add (a := clockIn) (b := max missing .zero) (by omega)
    exact ⟨_, _, .estimate clockIn hcur hfull hmissing htime htotal' hout⟩
  | dayOff =>
    have hroom : l.daysOff.toNat + 1 < UInt32.size := by
      rw [h.daysOff]
      exact hdaysOff rfl
    exact ⟨_, _, .dayOff hcur hroom⟩
  | checkpoint => exact ⟨_, _, .checkpoint hcur⟩

theorem Within.step_ne_overflow (h : l.Within b used off) (hc : c.Within b)
    (hfits : 4 * (used + b) ≤ 9223372036854775807)
    (hdaysOff : c = .dayOff → off + 1 < UInt32.size) (operation : Overflow) :
    l.step c ≠ .error (.overflow operation) := by
  have htaken : ∀ next entries, l.Takes c next entries →
      l.step c ≠ .error (.overflow operation) := by
    intro next entries htakes
    rw [step_eq_ok_iff.mpr htakes]
    exact nofun
  cases hcur : l.current with
  | some d =>
    obtain ⟨next, entries, htakes⟩ := h.exists_takes hc hcur hfits hdaysOff
    exact htaken next entries htakes
  | none =>
    -- Without an open day there is nothing to add up: the other commands are refused.
    cases c with
    | bank balance => exact htaken _ _ (.bank balance)
    | day date => exact htaken _ _ (takes_first_day hcur date)
    | _ =>
      rw [step_eq_refused_iff.mpr ⟨hcur, rfl, rfl⟩]
      exact nofun

theorem follow_within {s : Schedule} {cs : List Command} {past : History}
    (hworkday : s.workday.size ≤ b) (hlunch : s.lunch.size ≤ b) (hcs : ∀ c ∈ cs, c.Within b)
    (h : (start s).follow cs = .ok (l, past)) :
    l.Within b (b * cs.length) (cs.countP (· = .dayOff)) := by
  have hall : (∀ c ∈ past.commands, c.Within b) →
      l.Within b (b * past.commands.length) (past.commands.countP (· = .dayOff)) := by
    refine follow_invariant (P := fun past l => (∀ c ∈ past.commands, c.Within b) →
      l.Within b (b * past.commands.length) (past.commands.countP (· = .dayOff))) h ?_ ?_
    · intro _
      exact within_start hworkday hlunch
    · intro past l c next entries hwithin htakes htimes
      have hsplit : History.commands (past ++ [(c, entries)]) = past.commands ++ [c] := by
        simp [History.commands]
      rw [hsplit] at htimes ⊢
      obtain ⟨hbefore, hc⟩ := List.forall_mem_append.mp htimes
      have hnext := htakes.within (hwithin hbefore) (hc c (List.mem_singleton.mpr rfl))
      rw [List.length_append, List.countP_append, List.countP_singleton, List.length_singleton,
        Nat.mul_succ]
      simpa using hnext
  rw [follow_commands h] at hall
  exact hall hcs

end Ledger

end HourBank
