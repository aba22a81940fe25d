import HourBank.Day
import HourBank.Schedule

/-! The ledger: the schedule it keeps, the open day, what has been added up so far, and what it has
to report. -/

namespace HourBank

structure OpenDay where
  day : Day
  firstClockIn : Option Minutes
  time : Minutes
  deriving DecidableEq

structure Ledger where
  schedule : Schedule
  current : Option OpenDay
  bank : Minutes
  totalTime : Minutes
  daysOff : UInt32
  deriving DecidableEq

/-- What a command has to report. -/
inductive Entry
  | dayOpened (day : Day)
  | punch (clockIn clockOut worked : Minutes)
  | estimate (clockIn expectedClockOut remaining : Minutes)
  | dayOff
  | checkpoint (day : Day) (bank : Minutes)
  /-- The span runs from the first clock-in to the clock-out it would take to work `worked` in one
  go. A day without a clock-in has none. -/
  | dayClosed (span : Option (Minutes × Minutes)) (worked bankDelta bank : Minutes)
  deriving DecidableEq

/-- The totals shown at the end of a report. -/
structure Summary where
  timeInOffice : Minutes
  bank : Minutes
  daysOff : UInt32
  deriving DecidableEq

def OpenDay.start (day : Day) : OpenDay := ⟨day, none, .zero⟩

namespace Ledger

def start (schedule : Schedule) : Ledger :=
  { schedule, current := none, bank := .zero, totalTime := .zero, daysOff := 0 }

instance : Inhabited Ledger := ⟨start .standard⟩

def operatingDay (l : Ledger) : Option Day := l.current.map (·.day)

def firstClockIn (l : Ledger) : Option Minutes := l.current.bind (·.firstClockIn)

/-- The time in the office on the open day, zero when there is none. -/
def dayTime (l : Ledger) : Minutes := l.current.elim .zero (·.time)

def summary (l : Ledger) : Summary := ⟨l.totalTime, l.bank, l.daysOff⟩

end Ledger

end HourBank
