import HourBank.Ledger.Step

/-! The ledger with each of its fields on its own. Its type does not tie the first clock-in and the
time of the day to an open day: that they go together is left to the commands, which look for the
day and reset what belongs to it. -/

namespace HourBank

structure FlatLedger where
  schedule : Schedule
  operatingDay : Option Day
  firstClockIn : Option Minutes
  dayTime : Minutes
  bank : Minutes
  totalTime : Minutes
  daysOff : UInt32
  deriving DecidableEq

/-- An operation that overflows ends its command. -/
instance : MonadLift (Except Overflow) (Except Fault) := ⟨fun x => x.mapError .overflow⟩

namespace FlatLedger

def start (schedule : Schedule) : FlatLedger :=
  { schedule
    operatingDay := none
    firstClockIn := none
    dayTime := .zero
    bank := .zero
    totalTime := .zero
    daysOff := 0 }

def requireDay (l : FlatLedger) (keyword : Keyword) : Except Fault Day :=
  match l.operatingDay with
  | some day => .ok day
  | none => .error (.refused (.noOpenDay keyword))

def span (l : FlatLedger) : Except Overflow (Option (Minutes × Minutes)) :=
  match l.firstClockIn with
  | none => .ok none
  | some clockIn => do return some (clockIn, ← clockIn.add l.dayTime)

def close (l : FlatLedger) : Except Overflow (FlatLedger × Option Entry) :=
  if l.operatingDay.isNone then
    .ok (l, none)
  else do
    let bankDelta ← l.schedule.bankDelta l.dayTime
    let bank ← l.bank.add bankDelta
    let totalTime ← l.totalTime.add l.dayTime
    let span ← l.span
    return ({ l with bank, totalTime }, some (.dayClosed span l.dayTime bankDelta bank))

def openDay (l : FlatLedger) (day : Day) : Except Overflow (FlatLedger × List Entry) := do
  let (closed, entry) ← l.close
  return ({ closed with operatingDay := some day, firstClockIn := none, dayTime := .zero },
    entry.toList ++ [.dayOpened day])

def punch (l : FlatLedger) (clockIn clockOut : Minutes) :
    Except Fault (FlatLedger × List Entry) := do
  let _ ← l.requireDay .punch
  let worked ← clockOut.sub clockIn
  let dayTime ← l.dayTime.add worked
  return ({ l with dayTime, firstClockIn := l.firstClockIn.or (some clockIn) },
    [.punch clockIn clockOut worked])

def estimate (l : FlatLedger) (clockIn : Minutes) : Except Fault (FlatLedger × List Entry) := do
  let _ ← l.requireDay .estimate
  let full ← l.schedule.fullDay
  let missing ← full.sub l.dayTime
  let remaining := max missing .zero
  let dayTime ← l.dayTime.add full
  let totalTime ← l.totalTime.add full
  let clockOut ← clockIn.add remaining
  return ({ l with firstClockIn := some clockIn, dayTime, totalTime },
    [.estimate clockIn clockOut remaining])

def dayOff (l : FlatLedger) : Except Fault (FlatLedger × List Entry) := do
  let _ ← l.requireDay .dayOff
  if l.daysOff.toNat + 1 < UInt32.size then
    return ({ l with daysOff := l.daysOff + 1 }, [.dayOff])
  else
    throw (.overflow .add)

def checkpoint (l : FlatLedger) : Except Fault (FlatLedger × List Entry) := do
  let day ← l.requireDay .checkpoint
  return (l, [.checkpoint day l.bank])

def step (l : FlatLedger) : Command → Except Fault (FlatLedger × List Entry)
  | .bank balance => .ok ({ l with bank := balance }, [])
  | .day date => l.openDay date
  | .punch clockIn clockOut => l.punch clockIn clockOut
  | .estimate clockIn => l.estimate clockIn
  | .dayOff => l.dayOff
  | .checkpoint => l.checkpoint

end FlatLedger

end HourBank
