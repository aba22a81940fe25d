import HourBank.CommandLine.Response

/-! The program: it reads the file that the arguments ask for and prints the answer. -/

namespace HourBank.Program

def isOn (value : Option String) : Bool := value.any (· ≠ "0")

/-- Colors are forced by one variable, refused by another, and otherwise used on a terminal. -/
def wantsColor : IO Bool := do
  let forced ← IO.getEnv "CLICOLOR_FORCE"
  let refused ← IO.getEnv "NO_COLOR"
  let allowed ← IO.getEnv "CLICOLOR"
  let terminal ← (← IO.getStdout).isTty
  return isOn forced || (refused.isNone && terminal && isOn (allowed.orElse fun _ => "1"))

def readFile (path : Text) : IO (Except ReadError Text) := do
  match ← (IO.FS.readBinFile (String.ofList path)).toBaseIO with
  | .ok bytes => return decodeText bytes
  | .error (.noFileOrDirectory ..) => return .error .notFound
  | .error (.inappropriateType _ 21 _) => return .error .isFolder
  | .error (.inappropriateType ..) => return .error .notFolder
  | .error e => return .error (.other (toString e).toList)

def answer (arguments : List String) : IO UInt32 := do
  let response ← Response.ofArguments (arguments.map (·.toList)) (← wantsColor) readFile
  (← IO.getStdout).putStr (String.ofList response.stdout)
  (← IO.getStderr).putStr (String.ofList response.stderr)
  return response.exitCode

end HourBank.Program

def main (arguments : List String) : IO UInt32 := HourBank.Program.answer arguments
