import HourBank.Proofs.Ledger.OpenDay
import Mathlib.Algebra.Ring.Int.Defs
import Mathlib.Data.List.DropRight

/-! The books of a ledger as sums over its history. A history is cut into days at the commands that
open one; nothing else of the order of the commands matters but which balance was set last. -/

namespace HourBank

namespace Command

def punched : Command → Int
  | .punch clockIn clockOut => clockOut.toInt - clockIn.toInt
  | _ => 0

def punchedIn? : Command → Option Minutes
  | .punch clockIn _ => some clockIn
  | _ => none

def estimatedFrom? : Command → Option Minutes
  | .estimate clockIn => some clockIn
  | _ => none

/-- The commands of each day, without the one that opens it. What comes before the first day is left
out. -/
def days (cs : List Command) : List (List Command) := (cs.splitOnP opensDay).tail

def closedDays (cs : List Command) : List (List Command) := (days cs).dropLast

/-- The commands of the open day, none if there is no open day. -/
def today (cs : List Command) : List Command := (days cs).getLast?.getD []

/-- The closed days that were closed after the last balance was set: as many of the last ones as
days were opened since. -/
def daysSinceBalance (cs : List Command) : List (List Command) :=
  (closedDays cs).rtake ((cs.rtakeWhile (!·.setsBalance)).countP opensDay)

/-- The clock-in of the last estimate, or else that of the first punch. -/
def clockInOf (cs : List Command) : Option Minutes :=
  (cs.filterMap estimatedFrom?).getLast?.or (cs.filterMap punchedIn?).head?

theorem splitOnP_concat_of_neg {p : Command → Bool} {c : Command} (hc : p c = false)
    (cs : List Command) : ∃ init last, cs.splitOnP p = init ++ [last] ∧
      (cs ++ [c]).splitOnP p = init ++ [last ++ [c]] := by
  induction cs with
  | nil => exact ⟨[], [], by simp, by simp [List.splitOnP_cons_eq_if_modifyHead, hc]⟩
  | cons a cs ih =>
    obtain ⟨init, last, hcs, hconcat⟩ := ih
    simp only [List.cons_append, List.splitOnP_cons_eq_if_modifyHead, hcs, hconcat]
    by_cases ha : p a = true
    · exact ⟨[] :: init, last, by simp [ha], by simp [ha]⟩
    · cases init with
      | nil => exact ⟨[], a :: last, by simp [ha], by simp [ha]⟩
      | cons first init => exact ⟨(a :: first) :: init, last, by simp [ha], by simp [ha]⟩

theorem days_concat_day (cs : List Command) (date : Day) :
    days (cs ++ [.day date]) = days cs ++ [[]] := by
  unfold days
  rw [List.splitOnP_append_cons cs [] rfl, List.splitOnP_nil,
    List.tail_append_of_ne_nil (List.splitOnP_ne_nil _ _)]

theorem days_concat_of_neg {c : Command} (hc : c.opensDay = false) (cs : List Command) :
    (days cs = [] ∧ days (cs ++ [c]) = []) ∨
      ∃ init last, days cs = init ++ [last] ∧ days (cs ++ [c]) = init ++ [last ++ [c]] := by
  obtain ⟨init, last, hcs, hconcat⟩ := splitOnP_concat_of_neg hc cs
  unfold days
  rw [hcs, hconcat]
  cases init with
  | nil => exact Or.inl ⟨rfl, rfl⟩
  | cons first init => exact Or.inr ⟨init, last, rfl, rfl⟩

theorem length_days (cs : List Command) : (days cs).length = (cs.filterMap date?).length := by
  induction cs using List.reverseRecOn with
  | nil => rfl
  | append_singleton cs c ih =>
    cases hc : c.opensDay with
    | true =>
      cases c with
      | day date =>
        rw [days_concat_day]
        simp [ih, date?]
      | _ => simp [opensDay] at hc
    | false =>
      have hnone := date?_eq_none hc
      rw [List.filterMap_append, List.length_append, ← ih]
      rcases days_concat_of_neg hc cs with ⟨hnil, hconcat⟩ | ⟨init, last, hcs, hconcat⟩
      · simp [hnil, hconcat, hnone]
      · simp [hcs, hconcat, hnone]

theorem closedDays_concat_day (cs : List Command) (date : Day) :
    closedDays (cs ++ [.day date]) = days cs := by
  rw [closedDays, days_concat_day, List.dropLast_concat]

theorem today_concat_day (cs : List Command) (date : Day) : today (cs ++ [.day date]) = [] := by
  simp [today, days_concat_day]

theorem closedDays_concat_of_neg {c : Command} (hc : c.opensDay = false) (cs : List Command) :
    closedDays (cs ++ [c]) = closedDays cs := by
  unfold closedDays
  rcases days_concat_of_neg hc cs with ⟨hnil, hconcat⟩ | ⟨init, last, hcs, hconcat⟩
  · rw [hnil, hconcat]
  · rw [hcs, hconcat, List.dropLast_concat, List.dropLast_concat]

theorem today_concat_of_neg {c : Command} (hc : c.opensDay = false) (cs : List Command) :
    today (cs ++ [c]) = if days cs = [] then [] else today cs ++ [c] := by
  unfold today
  rcases days_concat_of_neg hc cs with ⟨hnil, hconcat⟩ | ⟨init, last, hcs, hconcat⟩
  · simp [hnil, hconcat]
  · simp [hcs, hconcat]

theorem days_eq_concat {cs : List Command} (h : days cs ≠ []) :
    days cs = closedDays cs ++ [today cs] := by
  rw [closedDays, today, List.getLast?_eq_some_getLast h, Option.getD_some,
    List.dropLast_concat_getLast]

theorem daysSinceBalance_concat_bank (cs : List Command) (balance : Minutes) :
    daysSinceBalance (cs ++ [.bank balance]) = [] := by
  rw [daysSinceBalance, List.rtakeWhile_concat_neg _ _ _ (by simp [setsBalance]), List.countP_nil,
    List.rtake_zero]

theorem daysSinceBalance_concat_day {cs : List Command} (h : days cs ≠ []) (date : Day) :
    daysSinceBalance (cs ++ [.day date]) = daysSinceBalance cs ++ [today cs] := by
  rw [daysSinceBalance, List.rtakeWhile_concat_pos _ _ _ (by simp [setsBalance]),
    closedDays_concat_day, days_eq_concat h, List.countP_append]
  exact List.rtake_concat_succ _ _ _

theorem daysSinceBalance_concat_of_neg {c : Command} (hday : c.opensDay = false)
    (hbalance : c.setsBalance = false) (cs : List Command) :
    daysSinceBalance (cs ++ [c]) = daysSinceBalance cs := by
  rw [daysSinceBalance, List.rtakeWhile_concat_pos _ _ _ (by simp [hbalance]),
    closedDays_concat_of_neg hday, List.countP_append, List.countP_singleton, hday]
  rfl

theorem clockInOf_concat (cs : List Command) (c : Command) : clockInOf (cs ++ [c]) =
    match c with
    | .punch clockIn _ => (clockInOf cs).or (some clockIn)
    | .estimate clockIn => some clockIn
    | _ => clockInOf cs := by
  cases c <;>
    simp [clockInOf, List.filterMap_append, estimatedFrom?, punchedIn?, List.head?_append]

end Command

def Schedule.timeOf (s : Schedule) (cs : List Command) : Int :=
  (cs.map Command.punched).sum + s.full * cs.countP Command.isEstimate

open Command

theorem Schedule.timeOf_concat (s : Schedule) (cs : List Command) (c : Command) :
    s.timeOf (cs ++ [c]) =
      s.timeOf cs + c.punched + if c.isEstimate = true then s.full else 0 := by
  simp only [timeOf, List.map_append, List.sum_append, List.countP_append, List.map_cons,
    List.map_nil, List.sum_cons, List.sum_nil, List.countP_singleton]
  split <;> grind

namespace Ledger

/-- The books of a ledger that started empty under `s` and has taken the commands `cs`. -/
structure Accounts (s : Schedule) (cs : List Command) (l : Ledger) : Prop where
  schedule : l.schedule = s
  operatingDay : l.operatingDay = (cs.filterMap date?).getLast?
  firstClockIn : l.firstClockIn = clockInOf (today cs)
  dayTime : l.dayTime.toInt = s.timeOf (today cs)
  totalTime : l.totalTime.toInt =
    ((closedDays cs).map s.timeOf).sum + s.full * cs.countP isEstimate
  daysOff : l.daysOff.toNat = cs.countP (· = .dayOff)
  bank : l.bank.toInt = (cs.filterMap balance?).getLast?.elim 0 (·.toInt) +
    ((daysSinceBalance cs).map fun day => s.delta (s.timeOf day)).sum

theorem accounts_start (s : Schedule) : (start s).Accounts s [] where
  schedule := rfl
  operatingDay := rfl
  firstClockIn := rfl
  dayTime := by simp [start, dayTime, today, days, Schedule.timeOf]
  totalTime := by simp [start, closedDays, days]
  daysOff := rfl
  bank := by simp [start, daysSinceBalance, closedDays, days]

theorem Accounts.days_eq_nil_iff {s : Schedule} {cs : List Command} {l : Ledger}
    (ha : l.Accounts s cs) : days cs = [] ↔ l.current = none := by
  rw [← operatingDay_eq_none_iff, ha.operatingDay, List.getLast?_eq_none_iff,
    ← List.length_eq_zero_iff, ← List.length_eq_zero_iff, Command.length_days]

theorem Accounts.closed {s : Schedule} {cs : List Command} {l closed : Ledger}
    {entry : Option Entry} (ha : l.Accounts s cs) (hclose : l.Closes closed entry) :
    closed.schedule = s ∧ closed.daysOff = l.daysOff ∧
    closed.totalTime.toInt = ((days cs).map s.timeOf).sum + s.full * cs.countP isEstimate ∧
    ∀ date, closed.bank.toInt = (cs.filterMap balance?).getLast?.elim 0 (·.toInt) +
      ((daysSinceBalance (cs ++ [.day date])).map fun day => s.delta (s.timeOf day)).sum := by
  cases hclose with
  | idle hcur =>
    have hnil := ha.days_eq_nil_iff.mpr hcur
    have htotal := ha.totalTime
    have hbank := ha.bank
    simp only [closedDays, daysSinceBalance, hnil] at htotal hbank
    refine ⟨ha.schedule, rfl, by simpa [hnil] using htotal, ?_⟩
    intro date
    simpa [daysSinceBalance, closedDays_concat_day, hnil] using hbank
  | @day d span bankDelta bank totalTime hcur hdelta hbank htotal hspan =>
    have hne : days cs ≠ [] := by simp [ha.days_eq_nil_iff, hcur]
    have htime : d.time.toInt = s.timeOf (today cs) := by
      simpa [Ledger.dayTime, hcur] using ha.dayTime
    have hmoved := Schedule.bankDelta_toInt hdelta
    rw [ha.schedule, htime] at hmoved
    refine ⟨ha.schedule, rfl, ?_, ?_⟩
    · rw [htotal, ha.totalTime, htime, days_eq_concat hne]
      simp
      omega
    · intro date
      rw [hbank, ha.bank, hmoved, daysSinceBalance_concat_day hne]
      simp
      omega

theorem Accounts.inside {s : Schedule} {cs : List Command} {l next : Ledger} {c : Command}
    {d : OpenDay} (ha : l.Accounts s cs) (hcur : l.current = some d)
    (hday : c.opensDay = false) (hbalance : c.setsBalance = false)
    (hschedule : next.schedule = l.schedule) (hop : next.operatingDay = l.operatingDay)
    (hbank : next.bank = l.bank)
    (hclockIn : next.firstClockIn = clockInOf (today cs ++ [c]))
    (htime : next.dayTime.toInt =
      l.dayTime.toInt + c.punched + if c.isEstimate = true then s.full else 0)
    (htotal : next.totalTime.toInt =
      l.totalTime.toInt + if c.isEstimate = true then s.full else 0)
    (hdaysOff : next.daysOff.toNat = l.daysOff.toNat + if c = .dayOff then 1 else 0) :
    next.Accounts s (cs ++ [c]) := by
  have hne : days cs ≠ [] := by simp [ha.days_eq_nil_iff, hcur]
  have htoday : today (cs ++ [c]) = today cs ++ [c] := by rw [today_concat_of_neg hday, if_neg hne]
  have hdate := date?_eq_none hday
  have hnone := balance?_eq_none hbalance
  constructor
  · rw [hschedule, ha.schedule]
  · rw [hop, ha.operatingDay, List.filterMap_append]
    simp [hdate]
  · rw [htoday, hclockIn]
  · rw [htime, ha.dayTime, htoday, Schedule.timeOf_concat]
  · rw [htotal, ha.totalTime, closedDays_concat_of_neg hday, List.countP_append,
      List.countP_singleton]
    split <;> grind
  · rw [hdaysOff, ha.daysOff, List.countP_append, List.countP_singleton]
    simp
  · rw [hbank, ha.bank, daysSinceBalance_concat_of_neg hday hbalance, List.filterMap_append]
    simp [hnone]

theorem Accounts.step {s : Schedule} {cs : List Command} {l next : Ledger} {c : Command}
    {entries : List Entry} (ha : l.Accounts s cs) (htakes : l.Takes c next entries) :
    next.Accounts s (cs ++ [c]) := by
  cases htakes with
  | bank balance =>
    -- A balance may be set before the first day, and then belongs to none.
    have hsame : today (cs ++ [.bank balance]) =
        if days cs = [] then [] else today cs ++ [.bank balance] := today_concat_of_neg rfl cs
    have hnone : days cs = [] → today cs = [] := fun hnil => by simp [today, hnil]
    constructor
    · exact ha.schedule
    · exact ha.operatingDay.trans (by simp [date?])
    · refine ha.firstClockIn.trans ?_
      rw [hsame]
      split
      · rw [hnone ‹_›]
      · rw [clockInOf_concat]
    · refine ha.dayTime.trans ?_
      rw [hsame]
      split
      · rw [hnone ‹_›]
      · simp [Schedule.timeOf_concat, punched, isEstimate]
    · rw [closedDays_concat_of_neg rfl]
      simpa [isEstimate, List.countP_append] using ha.totalTime
    · simpa [List.countP_append] using ha.daysOff
    · simp [daysSinceBalance_concat_bank, balance?]
  | day date hclose =>
    obtain ⟨hschedule, hdaysOff, htotal, hbank⟩ := ha.closed hclose
    constructor
    · exact hschedule
    · simp [date?, Ledger.operatingDay, OpenDay.start]
    · rw [today_concat_day]
      rfl
    · rw [today_concat_day]
      simp [Ledger.dayTime, OpenDay.start, Schedule.timeOf]
    · rw [closedDays_concat_day]
      simpa [isEstimate, List.countP_append] using htotal
    · simpa [hdaysOff, List.countP_append] using ha.daysOff
    · simpa [balance?] using hbank date
  | @punch d worked time clockIn clockOut hcur hworked htime =>
    refine ha.inside hcur rfl rfl rfl ?_ rfl ?_ ?_ (by simp [isEstimate]) (by simp)
    · simp [Ledger.operatingDay, hcur]
    · rw [clockInOf_concat, ← ha.firstClockIn]
      simp [Ledger.firstClockIn, hcur]
    · simp [Ledger.dayTime, hcur, punched, isEstimate]
      omega
  | @estimate d full missing time totalTime clockOut clockIn hcur hfull hmissing htime htotal hout =>
    rw [ha.schedule] at hfull
    refine ha.inside hcur rfl rfl rfl ?_ rfl ?_ ?_ ?_ (by simp)
    · simp [Ledger.operatingDay, hcur]
    · rw [clockInOf_concat]
      rfl
    · simp [Ledger.dayTime, hcur, punched, isEstimate]
      omega
    · simp [isEstimate]
      omega
  | @dayOff d hcur hfits =>
    refine ha.inside hcur rfl rfl rfl rfl rfl ?_ ?_ (by simp [isEstimate]) ?_
    · rw [clockInOf_concat]
      exact ha.firstClockIn
    · simp [Ledger.dayTime, punched, isEstimate]
    · simpa using toNat_add_one hfits
  | @checkpoint d hcur =>
    refine ha.inside hcur rfl rfl rfl rfl rfl ?_ ?_ (by simp [isEstimate]) (by simp)
    · rw [clockInOf_concat]
      exact ha.firstClockIn
    · simp [punched, isEstimate]

/-- After any commands that are all taken, the ledger holds the accounts of those commands. -/
theorem follow_accounts {s : Schedule} {cs : List Command} {l : Ledger} {history : History}
    (h : (start s).follow cs = .ok (l, history)) : l.Accounts s cs := by
  have hall : l.Accounts s history.commands := by
    refine follow_invariant (P := fun past l => l.Accounts s past.commands) h
      (accounts_start s) ?_
    intro past l c next entries ha htakes
    simpa [History.commands] using ha.step htakes
  rwa [follow_commands h] at hall

theorem follow_accounts_three_days :
    ∃ l history,
      (start .standard).follow
        [.bank { toInt := 30 }, .day ⟨2024, 1, 1⟩, .punch { toInt := 540 } { toInt := 1110 },
          .day ⟨2024, 1, 2⟩, .estimate { toInt := 600 }, .bank { toInt := -15 },
          .punch { toInt := 480 } { toInt := 500 }, .day ⟨2024, 1, 3⟩, .dayOff] =
        .ok (l, history) ∧
      l.bank.toInt = 5 ∧ l.totalTime.toInt = 1670 ∧
      l.Accounts .standard
        [.bank { toInt := 30 }, .day ⟨2024, 1, 1⟩, .punch { toInt := 540 } { toInt := 1110 },
          .day ⟨2024, 1, 2⟩, .estimate { toInt := 600 }, .bank { toInt := -15 },
          .punch { toInt := 480 } { toInt := 500 }, .day ⟨2024, 1, 3⟩, .dayOff] :=
  ⟨_, _, rfl, rfl, rfl, follow_accounts rfl⟩

end Ledger

end HourBank
