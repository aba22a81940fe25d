import HourBank.Command
import HourBank.Ledger.Basic

/-! The journal tells what was done, one record after another, for those who look for the reason of
a report. A command is recorded before it runs, whatever becomes of it. -/

namespace HourBank

inductive Record
  /-- A line without a command. -/
  | skipped (line : Nat)
  | applying (command : Command)
  | notDate (day : Day)
  | notLater (day previous : Day)
  deriving DecidableEq

/-- What the ledger has to say against opening a day. It opens all the same. -/
def Ledger.warnings (l : Ledger) (day : Day) : List Record :=
  (if day.IsDate then [] else [.notDate day]) ++
    match l.current with
    | some d => if day ≤ d.day then [.notLater day d.day] else []
    | none => []

def Ledger.records (l : Ledger) (c : Command) : List Record :=
  .applying c ::
    match c with
    | .day date => l.warnings date
    | _ => []

namespace Record

/-- A count of minutes as the journal shows it: the bare number. -/
def count (m : Minutes) : Text :=
  "Minutes(".toList ++ (if m.toInt < 0 then ['-'] else []) ++ Text.decimal m.toInt.natAbs ++ [')']

def fields (d : Day) : Text :=
  "Day \x7b year: ".toList ++ Text.decimal d.year.toNat ++ ", month: ".toList ++
    Text.decimal d.month.toNat ++ ", day: ".toList ++ Text.decimal d.day.toNat ++ " \x7d".toList

def command : Command → Text
  | .bank balance => "Banco(".toList ++ count balance ++ [')']
  | .day date => "Data(".toList ++ fields date ++ [')']
  | .punch clockIn clockOut =>
    "Ponto(".toList ++ count clockIn ++ ", ".toList ++ count clockOut ++ [')']
  | .estimate clockIn => "Estimate(".toList ++ count clockIn ++ [')']
  | .dayOff => "DayOff".toList
  | .checkpoint => "BancoZero".toList

def text : Record → Text
  | .skipped line => "TRACE line ".toList ++ Text.decimal line ++ ": skipped".toList
  | .applying c => "DEBUG applying ".toList ++ command c
  | .notDate day => "WARN ".toList ++ day.text ++ " is not a valid calendar date".toList
  | .notLater day previous =>
    "WARN ".toList ++ day.text ++ " does not come after ".toList ++ previous.text

end Record

end HourBank
