import HourBank.Folder
import HourBank.Keyword

/-! Why something is refused: a token that is not the time or the date it should be, a line that is
no command or comes before its day, a run that ends without a ledger. -/

namespace HourBank

/-- A token that does not parse, as it was written. -/
inductive Malformed
  | time (token : Text)
  | date (token : Text)
  deriving DecidableEq

def Malformed.token : Malformed → Text
  | .time token => token
  | .date token => token

def Malformed.message : Malformed → Text
  | .time token =>
    "unable to parse time `".toList ++ token ++ "' (HH:MM, may be negative)".toList
  | .date token => "unable to parse date `".toList ++ token ++ "' (YYYY-MM-DD)".toList

inductive Rejection
  /-- The first token is no keyword. It is kept as written. -/
  | unknown (token : Text)
  | wrongCount (keyword : Keyword) (found : Nat)
  | malformed (keyword : Keyword) (cause : Malformed)
  /-- The command needs an open day and there is none. -/
  | noOpenDay (keyword : Keyword)
  deriving DecidableEq

namespace Rejection

def countReason (expected found : Nat) : Text :=
  "expected ".toList ++ Text.decimal expected ++
    (if expected = 1 then " argument, got ".toList else " arguments, got ".toList) ++
    Text.decimal found

def message : Rejection → Text
  | .unknown token => "unknown command: ".toList ++ token
  | .wrongCount keyword found =>
    keyword.text ++ ": ".toList ++ countReason keyword.arity found
  | .malformed keyword cause => keyword.text ++ ": ".toList ++ cause.message
  | .noOpenDay keyword => keyword.text ++ " requires an operating day (use DATA)".toList

def cause? : Rejection → Option Malformed
  | .malformed _ cause => some cause
  | _ => none

end Rejection

inductive Failure
  | unreadable (path : Text) (why : ReadError)
  | refused (number : Nat) (line : Text) (why : Rejection)
  deriving DecidableEq

namespace Failure

def context : Failure → Text
  | .unreadable path _ => "unable to read ".toList ++ path
  | .refused number line _ => "line ".toList ++ Text.decimal number ++ ": ".toList ++ line.trim

/-- What happened, each cause before its own. -/
def causes : Failure → List Text
  | .unreadable _ why => [why.message]
  | .refused _ _ why => why.message :: why.cause?.toList.map (·.message)

def message (f : Failure) : Text := ": ".toList.intercalate (f.context :: f.causes)

end Failure

end HourBank
