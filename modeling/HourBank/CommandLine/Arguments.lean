import HourBank.Minutes.Written
import HourBank.Schedule

/-! The arguments of the command line: an optional file, the three times of the schedule, and a few
flags. They are taken from left to right and the first that is wrong ends the reading, but so does
a request for the version or for help. -/

namespace HourBank

inductive Setting
  | workday
  | lunch
  | tolerance
  deriving DecidableEq

def Setting.name : Setting → Text
  | .workday => "workday".toList
  | .lunch => "lunch".toList
  | .tolerance => "tolerance".toList

def Setting.all : List Setting := [.workday, .lunch, .tolerance]

inductive Misuse
  | unexpected (argument : Text)
  | missingValue (setting : Setting)
  | invalidValue (setting : Setting) (why : Malformed)
  | emptyFile
  | repeated (option : Text)
  deriving DecidableEq

structure Invocation where
  file : Text
  schedule : Schedule
  noColor : Bool
  deriving DecidableEq

inductive Request
  | report (invocation : Invocation)
  | version
  | help
  deriving DecidableEq

inductive Argument
  | value (text : Text)
  /-- Two dashes alone: all arguments after them are values. -/
  | endOfOptions
  /-- An option that takes a time, with the time when it is attached by an equals sign. -/
  | setting (setting : Setting) (attached : Option Text)
  | noColor
  | version
  | help
  | unknown

namespace Argument

/-- An option spelled in full, without its dashes. -/
def ofOption (body : Text) : Argument :=
  let name := body.takeWhile (· ≠ '=')
  match Setting.all.find? (·.name = name), body.dropWhile (· ≠ '=') with
  | some s, [] => .setting s none
  | some s, _ :: time => .setting s (some time)
  | none, [] =>
    if name = "no-color".toList then .noColor
    else if name = "version".toList then .version
    else if name = "help".toList then .help
    else .unknown
  | none, _ :: _ => .unknown

/-- A dash alone is a value. Of letters after one dash only the first counts, as the reading ends
with it. -/
def ofText : Text → Argument
  | ['-', '-'] => .endOfOptions
  | '-' :: '-' :: body => ofOption body
  | '-' :: 'V' :: _ => .version
  | '-' :: 'h' :: _ => .help
  | '-' :: _ :: _ => .unknown
  | t => .value t

end Argument

structure Given where
  file : Option Text
  workday : Option Minutes
  lunch : Option Minutes
  tolerance : Option Minutes
  noColor : Bool

namespace Given

def nothing : Given := ⟨none, none, none, none, false⟩

def time (g : Given) : Setting → Option Minutes
  | .workday => g.workday
  | .lunch => g.lunch
  | .tolerance => g.tolerance

def put (g : Given) (m : Minutes) : Setting → Given
  | .workday => { g with workday := some m }
  | .lunch => { g with lunch := some m }
  | .tolerance => { g with tolerance := some m }

/-- Each time may be set once. -/
def set (g : Given) (s : Setting) (token : Text) : Except Misuse Given :=
  if (g.time s).isSome then
    .error (.repeated s.name)
  else
    match Minutes.parse token with
    | .ok m => .ok (g.put m s)
    | .error why => .error (.invalidValue s why)

/-- There is at most one file, and its path is not empty. -/
def setFile (g : Given) (path : Text) : Except Misuse Given :=
  if g.file.isSome then .error (.unexpected path)
  else if path = [] then .error .emptyFile
  else .ok { g with file := some path }

def setNoColor (g : Given) : Except Misuse Given :=
  if g.noColor then .error (.repeated "no-color".toList) else .ok { g with noColor := true }

/-- What was not given takes its usual value. -/
def invocation (g : Given) : Invocation :=
  { file := g.file.getD "Pontofile".toList
    schedule :=
      { workday := g.workday.getD Schedule.standard.workday
        lunch := g.lunch.getD Schedule.standard.lunch
        tolerance := g.tolerance.getD Schedule.standard.tolerance }
    noColor := g.noColor }

/-- Takes the arguments in turn. A setting without its time attached waits in `pending` for the
next argument. -/
def scan (g : Given) (pending : Option Setting) : List Text → Except Misuse Request
  | [] =>
    match pending with
    | none => .ok (.report g.invocation)
    | some s => .error (.missingValue s)
  | argument :: rest =>
    match pending, Argument.ofText argument with
    | some s, .value token => do scan (← g.set s token) none rest
    | some s, _ => .error (.missingValue s)
    | none, .value path => do scan (← g.setFile path) none rest
    | none, .endOfOptions => do return .report (← rest.foldlM setFile g).invocation
    | none, .setting s none => scan g (some s) rest
    | none, .setting s (some token) => do scan (← g.set s token) none rest
    | none, .noColor => do scan (← g.setNoColor) none rest
    | none, .version => .ok .version
    | none, .help => .ok .help
    | none, .unknown => .error (.unexpected argument)

end Given

def Request.parse (arguments : List Text) : Except Misuse Request :=
  Given.nothing.scan none arguments

end HourBank
