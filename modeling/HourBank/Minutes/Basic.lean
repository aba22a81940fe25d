/-! Minutes are the one unit of time: durations, clock readings and the hour bank. A count is a
signed 64-bit number, and an operation whose exact result does not fit is refused. -/

namespace HourBank

/-- The operation whose exact result did not fit. -/
inductive Overflow
  | add
  | subtract
  | multiply
  | negate
  deriving DecidableEq

def Overflow.message : Overflow → String
  | .add => "attempt to add with overflow"
  | .subtract => "attempt to subtract with overflow"
  | .multiply => "attempt to multiply with overflow"
  | .negate => "attempt to negate with overflow"

/-- A signed count of minutes that fits 64 bits. -/
@[ext]
structure Minutes where
  toInt : Int
  lower : -9223372036854775808 ≤ toInt := by decide
  upper : toInt ≤ 9223372036854775807 := by decide
  deriving DecidableEq

namespace Minutes

def zero : Minutes := { toInt := 0 }

instance : Inhabited Minutes := ⟨zero⟩

instance : LE Minutes := ⟨fun a b => a.toInt ≤ b.toInt⟩

instance : LT Minutes := ⟨fun a b => a.toInt < b.toInt⟩

instance (a b : Minutes) : Decidable (a ≤ b) := inferInstanceAs (Decidable (a.toInt ≤ b.toInt))

instance (a b : Minutes) : Decidable (a < b) := inferInstanceAs (Decidable (a.toInt < b.toInt))

instance : Ord Minutes := ⟨fun a b => compare a.toInt b.toInt⟩

instance : Max Minutes := maxOfLe

theorem le_def {a b : Minutes} : a ≤ b ↔ a.toInt ≤ b.toInt := Iff.rfl

theorem lt_def {a b : Minutes} : a < b ↔ a.toInt < b.toInt := Iff.rfl

def ofInt? (n : Int) : Option Minutes :=
  if h : -9223372036854775808 ≤ n ∧ n ≤ 9223372036854775807 then some ⟨n, h.1, h.2⟩ else none

theorem ofInt?_eq_some_iff {n : Int} {m : Minutes} : ofInt? n = some m ↔ m.toInt = n := by
  unfold ofInt?
  split
  · simp [Minutes.ext_iff, eq_comm]
  · have hl := m.lower
    have hu := m.upper
    simp only [reduceCtorEq, false_iff]
    omega

theorem ofInt?_eq_none_iff {n : Int} :
    ofInt? n = none ↔ n < -9223372036854775808 ∨ 9223372036854775807 < n := by
  unfold ofInt?
  split
  · simp only [reduceCtorEq, false_iff]
    omega
  · simp only [true_iff]
    omega

theorem exists_toInt_eq {n : Int} (h : n.natAbs ≤ 9223372036854775807) :
    ∃ m : Minutes, m.toInt = n :=
  ⟨⟨n, by omega, by omega⟩, rfl⟩

/-- The exact result `n` of an operation, when it fits. -/
def checked (operation : Overflow) (n : Int) : Except Overflow Minutes :=
  match ofInt? n with
  | some m => .ok m
  | none => .error operation

theorem checked_eq_ok_iff {operation : Overflow} {n : Int} {m : Minutes} :
    checked operation n = .ok m ↔ m.toInt = n := by
  rw [← ofInt?_eq_some_iff, checked]
  cases ofInt? n <;> simp

theorem checked_eq_error_iff {operation found : Overflow} {n : Int} :
    checked operation n = .error found ↔
      found = operation ∧ (n < -9223372036854775808 ∨ 9223372036854775807 < n) := by
  rw [← ofInt?_eq_none_iff, checked]
  cases ofInt? n <;> simp [eq_comm]

def add (a b : Minutes) : Except Overflow Minutes := checked .add (a.toInt + b.toInt)

def sub (a b : Minutes) : Except Overflow Minutes := checked .subtract (a.toInt - b.toInt)

def neg (a : Minutes) : Except Overflow Minutes := checked .negate (-a.toInt)

/-- The distance from zero. Only the least count has one that does not fit. -/
def abs (a : Minutes) : Except Overflow Minutes := checked .negate a.toInt.natAbs

/-- So many hours and minutes, the hours converted first. -/
def ofHours (hours minutes : Minutes) : Except Overflow Minutes := do
  let whole ← checked .multiply (hours.toInt * 60)
  whole.add minutes

def isZero (a : Minutes) : Bool := a.toInt == 0

theorem isZero_iff {a : Minutes} : a.isZero = true ↔ a = zero := by
  simp [isZero, zero, Minutes.ext_iff]

end Minutes

end HourBank
