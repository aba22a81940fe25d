import HourBank.Ledger.Journal
import HourBank.Ledger.Step
import HourBank.Report

/-! A run takes a text through the ledger line by line and closes the last day. It stops at the
first line that is refused or overflows, and keeps what was reported up to there. -/

namespace HourBank

inductive Stop
  | failure (why : Failure)
  | overflow (operation : Overflow)
  deriving DecidableEq

structure Run where
  entries : List Entry
  journal : List Record
  outcome : Except Stop Ledger

def Fault.stop (number : Nat) (line : Text) : Fault → Stop
  | .refused why => .failure (.refused number line why)
  | .overflow operation => .overflow operation

namespace Run

def stopped (why : Stop) : Run := ⟨[], [], .error why⟩

/-- The run with this before it. -/
def after (entries : List Entry) (journal : List Record) (r : Run) : Run :=
  { r with entries := entries ++ r.entries, journal := journal ++ r.journal }

def closing (l : Ledger) : Run :=
  match l.close with
  | .ok (closed, entry) => ⟨entry.toList, [], .ok closed⟩
  | .error operation => stopped (.overflow operation)

/-- Runs lines, the first of them numbered `number`. -/
def ofLines (l : Ledger) (number : Nat) : List Text → Run
  | [] => closing l
  | line :: rest =>
    match Command.parseLine line with
    | .error why => stopped (.failure (.refused number line why))
    | .ok none => after [] [.skipped number] (ofLines l (number + 1) rest)
    | .ok (some c) =>
      match l.step c with
      | .error fault => after [] (l.records c) (stopped (fault.stop number line))
      | .ok (next, entries) => after entries (l.records c) (ofLines next (number + 1) rest)

def ofText (l : Ledger) (t : Text) : Run := ofLines l 1 t.lines

/-- Runs what was read from a file, or stops at once where it could not be read. -/
def ofFile (l : Ledger) (path : Text) : Except ReadError Text → Run
  | .ok t => ofText l t
  | .error why => stopped (.failure (.unreadable path why))

def printed (styled : Bool) (r : Run) : Text := r.entries.flatMap (·.printed styled)

end Run

end HourBank
