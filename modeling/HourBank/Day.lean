import HourBank.Failure

/-! Days as they are written, `YYYY-MM-DD`: a year, a month and a day that need not name a date of
the calendar, compared year first, then month, then day. The calendar is the proleptic Gregorian
one, which has a year zero. -/

namespace HourBank

@[ext]
structure Day where
  year : UInt16
  month : UInt8
  day : UInt8
  deriving DecidableEq

namespace Day

instance : Ord Day :=
  ⟨fun a b => (compare a.year b.year).then ((compare a.month b.month).then (compare a.day b.day))⟩

instance : LE Day := leOfOrd

instance (a b : Day) : Decidable (a ≤ b) := inferInstanceAs (Decidable ((compare a b).isLE = true))

/-- Wider years, months and days are written in full but not read back. -/
def text (d : Day) : Text :=
  Text.padded 4 d.year.toNat ++ '-' :: Text.padded 2 d.month.toNat ++
    '-' :: Text.padded 2 d.day.toNat

/-- Reads four, two and two digits between dashes. No more than the shape is checked. -/
def read? : Text → Option Day
  | [y₁, y₂, y₃, y₄, '-', m₁, m₂, '-', d₁, d₂] =>
    if [y₁, y₂, y₃, y₄, m₁, m₂, d₁, d₂].all Char.isDigit then
      some
        { year := .ofNat (Text.value [y₁, y₂, y₃, y₄])
          month := .ofNat (Text.value [m₁, m₂])
          day := .ofNat (Text.value [d₁, d₂]) }
    else
      none
  | _ => none

def parse (token : Text) : Except Malformed Day :=
  match read? token with
  | some d => .ok d
  | none => .error (.date token)

end Day

def isLeapYear (year : Nat) : Bool :=
  year % 4 == 0 && (year % 100 != 0 || year % 400 == 0)

/-- The length of a month, zero for a number that names no month. -/
def daysInMonth (year month : Nat) : Nat :=
  if month = 2 then
    if isLeapYear year then 29 else 28
  else if month = 4 ∨ month = 6 ∨ month = 9 ∨ month = 11 then
    30
  else if 1 ≤ month ∧ month ≤ 12 then
    31
  else
    0

def Day.IsDate (d : Day) : Prop :=
  1 ≤ d.day.toNat ∧ d.day.toNat ≤ daysInMonth d.year.toNat d.month.toNat

instance (d : Day) : Decidable d.IsDate := inferInstanceAs (Decidable (_ ∧ _))

end HourBank
