import HourBank.CommandLine.Arguments
import HourBank.Run

/-! What the program answers: its output and its exit code. -/

namespace HourBank

structure Response where
  exitCode : UInt32
  stdout : Text
  stderr : Text
  deriving DecidableEq

def usage : Text := "Usage: ponto [OPTIONS] [FILE]\n".toList

def helpText : Text :=
  "Interpret a Pontofile and report the hour bank\n\n".toList ++ usage ++
  "\nArguments:
  [FILE]  Ledger to interpret [default: Pontofile]

Options:
      --workday <HH:MM>    Expected working time per day [default: 08:00]
      --lunch <HH:MM>      Lunch break, added to the workday [default: 01:00]
      --tolerance <HH:MM>  Days this close to a full day leave the bank untouched [default: 00:10]
      --no-color           Disable colored output
  -h, --help               Print help
  -V, --version            Print version
".toList

def Misuse.message : Misuse → Text
  | .unexpected argument => "unexpected argument '".toList ++ argument ++ "' found".toList
  | .missingValue s => "a value is required for '--".toList ++ s.name ++ " <HH:MM>'".toList
  | .invalidValue s why =>
    "invalid value for '--".toList ++ s.name ++ " <HH:MM>': ".toList ++ why.message
  | .emptyFile => "a value is required for '[FILE]'".toList
  | .repeated option => "the argument '--".toList ++ option ++ "' is given more than once".toList

/-- The failure with its causes below it, which are numbered when there are several. -/
def Failure.report (f : Failure) : Text :=
  let causes :=
    match f.causes with
    | [cause] => "    ".toList ++ cause ++ ['\n']
    | causes => (causes.zipIdx.map fun (cause, i) =>
        (Text.decimal i).leftpad 5 ' ' ++ ": ".toList ++ cause ++ ['\n']).flatten
  "Error: ".toList ++ f.context ++ "\n\nCaused by:\n".toList ++ causes

def Misuse.response (m : Misuse) : Response :=
  ⟨2, [], "error: ".toList ++ m.message ++ "\n\n".toList ++ usage⟩

/-- The answer to an invocation once its file has been read. The summary is left out when the run
did not come to a ledger. -/
def Invocation.response (i : Invocation) (styled : Bool) (contents : Except ReadError Text) :
    Response :=
  let run := Run.ofFile (.start i.schedule) i.file contents
  let shown := banner ++ run.printed (styled && !i.noColor)
  match run.outcome with
  | .ok l => ⟨0, shown ++ l.summary.printed, []⟩
  | .error (.failure why) => ⟨1, shown, why.report⟩
  | .error (.overflow operation) => ⟨101, shown, operation.message.toList ++ ['\n']⟩

def Response.ofArguments {m : Type → Type} [Monad m] (arguments : List Text) (styled : Bool)
    (read : Text → m (Except ReadError Text)) : m Response :=
  match Request.parse arguments with
  | .error misuse => pure misuse.response
  | .ok .version => pure ⟨0, version ++ ['\n'], []⟩
  | .ok .help => pure ⟨0, helpText, []⟩
  | .ok (.report i) => do return i.response styled (← read i.file)

end HourBank
