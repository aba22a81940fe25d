import HourBank.Command
import HourBank.Ledger.Basic

/-! What each command does to a ledger and what it reports. A command that is refused, or that
overflows, gives no ledger at all, so nothing of it is kept. -/

namespace HourBank

inductive Fault
  | refused (why : Rejection)
  | overflow (operation : Overflow)
  deriving DecidableEq

/-- First clock-in, and the clock-out it would take to spend the time of the day in one go. -/
def OpenDay.span (d : OpenDay) : Except Overflow (Option (Minutes × Minutes)) :=
  match d.firstClockIn with
  | none => .ok none
  | some clockIn => do return some (clockIn, ← clockIn.add d.time)

namespace Ledger

/-- Moves the open day into the bank and the total. The day itself stays open, so that closing it
again counts it again. -/
def close (l : Ledger) : Except Overflow (Ledger × Option Entry) :=
  match l.current with
  | none => .ok (l, none)
  | some d => do
    let bankDelta ← l.schedule.bankDelta d.time
    let bank ← l.bank.add bankDelta
    let totalTime ← l.totalTime.add d.time
    let span ← d.span
    return ({ l with bank, totalTime }, some (.dayClosed span d.time bankDelta bank))

def openDay (l : Ledger) (day : Day) : Except Overflow (Ledger × List Entry) := do
  let (closed, entry) ← l.close
  return ({ closed with current := some (.start day) }, entry.toList ++ [.dayOpened day])

/-- A clock-out before the clock-in counts as negative time. -/
def punch (l : Ledger) (d : OpenDay) (clockIn clockOut : Minutes) :
    Except Overflow (Ledger × List Entry) := do
  let worked ← clockOut.sub clockIn
  let time ← d.time.add worked
  let firstClockIn := d.firstClockIn.or (some clockIn)
  return ({ l with current := some { d with firstClockIn, time } },
    [.punch clockIn clockOut worked])

/-- Books a full day at once, on the day and on the total. The total gets it a second time when the
day closes. -/
def estimate (l : Ledger) (d : OpenDay) (clockIn : Minutes) :
    Except Overflow (Ledger × List Entry) := do
  let full ← l.schedule.fullDay
  let missing ← full.sub d.time
  let remaining := max missing .zero
  let time ← d.time.add full
  let totalTime ← l.totalTime.add full
  let clockOut ← clockIn.add remaining
  return ({ l with current := some { d with firstClockIn := some clockIn, time }, totalTime },
    [.estimate clockIn clockOut remaining])

def dayOff (l : Ledger) : Except Overflow (Ledger × List Entry) :=
  if l.daysOff.toNat + 1 < UInt32.size then
    .ok ({ l with daysOff := l.daysOff + 1 }, [.dayOff])
  else
    .error .add

def onOpenDay (l : Ledger) (keyword : Keyword)
    (run : OpenDay → Except Overflow (Ledger × List Entry)) : Except Fault (Ledger × List Entry) :=
  match l.current with
  | none => .error (.refused (.noOpenDay keyword))
  | some d => (run d).mapError .overflow

def step (l : Ledger) : Command → Except Fault (Ledger × List Entry)
  | .bank balance => .ok ({ l with bank := balance }, [])
  | .day date => (l.openDay date).mapError .overflow
  | .punch clockIn clockOut => l.onOpenDay .punch (l.punch · clockIn clockOut)
  | .estimate clockIn => l.onOpenDay .estimate (l.estimate · clockIn)
  | .dayOff => l.onOpenDay .dayOff fun _ => l.dayOff
  | .checkpoint => l.onOpenDay .checkpoint fun d => .ok (l, [.checkpoint d.day l.bank])

/-- Takes a command in place and answers with what it reports. At a fault the ledger stays as it
was. -/
def apply (l : Ledger) (c : Command) : Ledger × Except Fault (List Entry) :=
  match l.step c with
  | .ok (next, entries) => (next, .ok entries)
  | .error fault => (l, .error fault)

end Ledger

end HourBank
