import HourBank.Day
import HourBank.Minutes.Written

/-! The commands of a file, one to a line, and how a line is read. Faults are looked for in a fixed
order: the keyword, the number of arguments, then each argument from left to right. -/

namespace HourBank

inductive Command
  /-- Sets the bank. -/
  | bank (balance : Minutes)
  /-- Closes the open day, if there is one, and opens another. -/
  | day (date : Day)
  /-- Time in the office between two readings of the clock. -/
  | punch (clockIn clockOut : Minutes)
  /-- Books a full day from its clock-in and asks when it will be over. -/
  | estimate (clockIn : Minutes)
  | dayOff
  /-- Shows the bank, to be compared with an official one. -/
  | checkpoint
  deriving DecidableEq

namespace Command

def keyword : Command → Keyword
  | .bank _ => .bank
  | .day _ => .day
  | .punch _ _ => .punch
  | .estimate _ => .estimate
  | .dayOff => .dayOff
  | .checkpoint => .checkpoint

/-- An argument that has to be a time. -/
def readTime (keyword : Keyword) (token : Text) : Except Rejection Minutes :=
  (Minutes.parse token).mapError (.malformed keyword)

/-- An argument that has to be a day. -/
def readDay (keyword : Keyword) (token : Text) : Except Rejection Day :=
  (Day.parse token).mapError (.malformed keyword)

/-- The command of a keyword with its arguments. -/
def ofArguments : Keyword → List Text → Except Rejection Command
  | .bank, [a] => (readTime .bank a).map .bank
  | .day, [a] => (readDay .day a).map .day
  | .punch, [a, b] => do
    let clockIn ← readTime .punch a
    let clockOut ← readTime .punch b
    return .punch clockIn clockOut
  | .estimate, [a] => (readTime .estimate a).map .estimate
  | .dayOff, [] => .ok .dayOff
  | .checkpoint, [] => .ok .checkpoint
  | keyword, arguments => .error (.wrongCount keyword arguments.length)

/-- Reads the words of a line as a command. A line without words is an unknown command named by the
whole line. -/
def parse (line : Text) : Except Rejection Command :=
  match line.words with
  | [] => .error (.unknown line)
  | token :: arguments =>
    match Keyword.ofToken? token with
    | none => .error (.unknown token)
    | some keyword => ofArguments keyword arguments

/-- Reads a line of a file, where blank lines and those that start with `#` are skipped. -/
def parseLine (line : Text) : Except Rejection (Option Command) :=
  match line.trim with
  | [] => .ok none
  | '#' :: _ => .ok none
  | trimmed => (parse trimmed).map some

end Command

end HourBank
