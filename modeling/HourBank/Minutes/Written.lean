import HourBank.Failure
import HourBank.Minutes.Basic

/-! The written form of minutes, `±HH:MM`. Writing pads hours and minutes to two digits; reading
takes any number of digits on either side of the colon and does not limit minutes to 59. -/

namespace HourBank.Minutes

def clock (magnitude : Nat) : Text :=
  Text.padded 2 (magnitude / 60) ++ ':' :: Text.padded 2 (magnitude % 60)

/-- The sign is always written. -/
def signed (m : Minutes) : Text :=
  (if m.toInt < 0 then '-' else '+') :: clock m.toInt.natAbs

/-- Only a minus sign is written. -/
def unsigned (m : Minutes) : Text :=
  if m.toInt < 0 then '-' :: clock m.toInt.natAbs else clock m.toInt.natAbs

/-- Reads `HH:MM` without a sign: digits, a colon, digits. -/
def magnitude? (t : Text) : Option Nat :=
  match t.dropWhile Char.isDigit with
  | ':' :: minutes =>
    let hours := t.takeWhile Char.isDigit
    if hours ≠ [] ∧ minutes ≠ [] ∧ minutes.all Char.isDigit then
      some (60 * Text.value hours + Text.value minutes)
    else
      none
  | _ => none

/-- Reads a time. The magnitude has to fit before the sign is applied, so the least count, whose
magnitude is one more than the greatest, is never read. -/
def read? : Text → Option Minutes
  | '-' :: t => do
    let m ← ofInt? (← magnitude? t)
    ofInt? (-m.toInt)
  | '+' :: t => do ofInt? (← magnitude? t)
  | t => do ofInt? (← magnitude? t)

def parse (token : Text) : Except Malformed Minutes :=
  match read? token with
  | some m => .ok m
  | none => .error (.time token)

end HourBank.Minutes
