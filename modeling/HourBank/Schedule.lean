import HourBank.Minutes.Basic

/-! What a full day in the office is, and how far from it a day may end without moving the bank. -/

namespace HourBank

structure Schedule where
  workday : Minutes
  lunch : Minutes
  tolerance : Minutes
  deriving DecidableEq

namespace Schedule

/-- Eight hours of work, one of lunch, ten minutes of tolerance. -/
def standard : Schedule :=
  { workday := { toInt := 480 }
    lunch := { toInt := 60 }
    tolerance := { toInt := 10 } }

instance : Inhabited Schedule := ⟨standard⟩

/-- The time expected in the office, lunch included. -/
def fullDay (s : Schedule) : Except Overflow Minutes := s.workday.add s.lunch

/-- The movement of the bank for a day with this time in the office: all that is over or under a
full day, once it is more than the tolerance. -/
def bankDelta (s : Schedule) (time : Minutes) : Except Overflow Minutes := do
  let full ← s.fullDay
  let difference ← full.sub time
  let distance ← difference.abs
  if s.tolerance < distance then time.sub full else return .zero

end Schedule

end HourBank
