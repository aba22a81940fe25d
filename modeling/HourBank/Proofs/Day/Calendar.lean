import HourBank.Day

/-! The calendar told month by month, and the order of days told by their years, months and days. -/

namespace HourBank

/-- February is longer in years that four divides, but of those that a hundred divides only in those
that four hundred does. -/
def monthLengths (year : Nat) : List Nat :=
  [31, if (year % 4 = 0 ∧ year % 100 ≠ 0) ∨ year % 400 = 0 then 29 else 28, 31, 30, 31, 30, 31, 31,
    30, 31, 30, 31]

theorem isLeapYear_iff {year : Nat} :
    isLeapYear year = true ↔ (year % 4 = 0 ∧ year % 100 ≠ 0) ∨ year % 400 = 0 := by
  simp only [isLeapYear, Bool.and_eq_true, Bool.or_eq_true, beq_iff_eq, bne_iff_ne]
  omega

theorem getD_monthLengths (year : Nat) :
    ∀ index, (monthLengths year).getD index 0 = daysInMonth year (index + 1)
  | 1 => by
    simp only [daysInMonth, isLeapYear_iff]
    rfl
  | 0 | 2 | 3 | 4 | 5 | 6 | 7 | 8 | 9 | 10 | 11 => rfl
  | index + 12 => by
    have hnone : (monthLengths year).getD (index + 12) 0 = 0 := rfl
    rw [hnone, daysInMonth, if_neg (by omega), if_neg (by omega), if_neg (by omega)]

namespace Day

theorem isDate_iff {d : Day} : d.IsDate ↔ 1 ≤ d.month.toNat ∧ 1 ≤ d.day.toNat ∧
    d.day.toNat ≤ (monthLengths d.year.toNat).getD (d.month.toNat - 1) 0 := by
  rw [getD_monthLengths, IsDate]
  by_cases hmonth : d.month.toNat = 0
  · have hnone : daysInMonth d.year.toNat 0 = 0 := rfl
    rw [hmonth, hnone]
    omega
  · have hmonth' : d.month.toNat - 1 + 1 = d.month.toNat := by omega
    rw [hmonth']
    omega

/-- Years count first, then months, then days. -/
def NotAfter (a b : Day) : Prop :=
  a.year.toNat < b.year.toNat ∨ a.year = b.year ∧
    (a.month.toNat < b.month.toNat ∨ a.month = b.month ∧ a.day.toNat ≤ b.day.toNat)

instance (a b : Day) : Decidable (a.NotAfter b) := inferInstanceAs (Decidable (_ ∨ _))

theorem le_iff_notAfter {a b : Day} : a ≤ b ↔ a.NotAfter b := by
  have hle : a ≤ b ↔ ((compare a.year b.year).then
      ((compare a.month b.month).then (compare a.day b.day))).isLE = true := Iff.rfl
  rw [hle, Ordering.isLE_then_iff_or, Ordering.isLE_then_iff_or, Std.isLE_compare,
    Std.compare_eq_lt, Std.compare_eq_lt, Std.compare_eq_iff_eq, Std.compare_eq_iff_eq]
  exact Iff.rfl

end Day

end HourBank
