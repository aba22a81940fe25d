import HourBank.Ledger.Journal
import HourBank.Proofs.Day.Calendar
import Mathlib.Algebra.Order.BigOperators.Group.Finset

/-! Dates numbered one after another, the first of January of the year zero with zero. Dates are in
the order of their numbers. -/

namespace HourBank

/-- The length of the month with this index, January having index zero. -/
def monthLength (year index : Nat) : Nat := (monthLengths year).getD index 0

def yearLength (year : Nat) : Nat := ∑ index ∈ Finset.range 12, monthLength year index

theorem monthLength_bounds (year : Nat) {index : Nat} (h : index < 12) :
    1 ≤ monthLength year index ∧ monthLength year index ≤ 31 := by
  rw [monthLength, getD_monthLengths, daysInMonth]
  split_ifs <;> omega

theorem yearLength_eq (year : Nat) : yearLength year =
    if (year % 4 = 0 ∧ year % 100 ≠ 0) ∨ year % 400 = 0 then 366 else 365 := by
  simp only [yearLength, Finset.sum_range_succ, Finset.sum_range_zero, monthLength, monthLengths,
    List.getD_cons_succ, List.getD_cons_zero]
  split <;> rfl

/-- One year in four has a day more, of those one in twenty-five has not, of these one in four has. -/
theorem sum_yearLength (year : Nat) : ∑ y ∈ Finset.range year, yearLength y =
    365 * year + (year + 3) / 4 - (year + 99) / 100 + (year + 399) / 400 := by
  induction year with
  | zero => rfl
  | succ year ih =>
    rw [Finset.sum_range_succ, ih, yearLength_eq]
    split <;> omega

theorem compare_eq_compare {i j m n : Nat} (hlt : i < j ↔ m < n) (hgt : j < i ↔ n < m) :
    compare i j = compare m n := by
  simp only [Nat.compare_eq_ite_lt, hlt, hgt]

theorem then_congr {o first second : Ordering} (h : o = .eq → first = second) :
    o.then first = o.then second := by
  cases o with
  | lt => rfl
  | eq => rw [h rfl]
  | gt => rfl

section Blocks

-- Blocks lie end to end from zero on, each as long as `width` says.
variable (width : Nat → Nat) {i j r s : Nat}

theorem sum_range_add_le (h : i < j) :
    ∑ k ∈ Finset.range i, width k + width i ≤ ∑ k ∈ Finset.range j, width k := by
  rw [← Finset.sum_range_succ]
  exact Finset.sum_le_sum_of_subset (Finset.range_mono h)

/-- Two places compare as their blocks do, and inside one block as they do there. -/
theorem compare_sum_range_add (hr : r < width i) (hs : s < width j) :
    compare (∑ k ∈ Finset.range i, width k + r) (∑ k ∈ Finset.range j, width k + s) =
      (compare i j).then (compare r s) := by
  rcases Nat.lt_trichotomy i j with hlt | rfl | hgt
  · have hwhole := sum_range_add_le width hlt
    have hplaces : ∑ k ∈ Finset.range i, width k + r < ∑ k ∈ Finset.range j, width k + s := by
      omega
    rw [Nat.compare_eq_lt.mpr hlt, Nat.compare_eq_lt.mpr hplaces, Ordering.lt_then]
  · have hinside : compare (∑ k ∈ Finset.range i, width k + r)
        (∑ k ∈ Finset.range i, width k + s) = compare r s :=
      compare_eq_compare (by omega) (by omega)
    rw [hinside, Nat.compare_eq_eq.mpr rfl, Ordering.eq_then]
  · have hwhole := sum_range_add_le width hgt
    have hplaces : ∑ k ∈ Finset.range j, width k + s < ∑ k ∈ Finset.range i, width k + r := by
      omega
    rw [Nat.compare_eq_gt.mpr hgt, Nat.compare_eq_gt.mpr hplaces, Ordering.gt_then]

end Blocks

namespace Day

/-- How many days of its year come before it. -/
def dayOfYear (d : Day) : Nat :=
  ∑ index ∈ Finset.range (d.month.toNat - 1), monthLength d.year.toNat index + (d.day.toNat - 1)

/-- How many days come before it, from the first of January of the year zero on. -/
def number (d : Day) : Nat :=
  ∑ year ∈ Finset.range d.year.toNat, yearLength year + d.dayOfYear

variable {a b d : Day}

theorem isDate_iff_monthLength : d.IsDate ↔ 1 ≤ d.month.toNat ∧ 1 ≤ d.day.toNat ∧
    d.day.toNat ≤ monthLength d.year.toNat (d.month.toNat - 1) := isDate_iff

theorem IsDate.month_le (h : d.IsDate) : d.month.toNat ≤ 12 := by
  obtain ⟨-, hstart, hend⟩ := isDate_iff_monthLength.mp h
  by_contra hmonth
  obtain ⟨index, hindex⟩ : ∃ index, d.month.toNat - 1 = index + 12 :=
    ⟨d.month.toNat - 13, by omega⟩
  have hnone : monthLength d.year.toNat (index + 12) = 0 := rfl
  rw [hindex] at hend
  omega

theorem IsDate.day_le (h : d.IsDate) : d.day.toNat ≤ 31 := by
  obtain ⟨hmonth, -, hend⟩ := isDate_iff_monthLength.mp h
  have hmonth' := h.month_le
  have hindex : d.month.toNat - 1 < 12 := by omega
  exact Nat.le_trans hend (monthLength_bounds _ hindex).2

theorem IsDate.dayOfYear_lt (h : d.IsDate) : d.dayOfYear < yearLength d.year.toNat := by
  obtain ⟨hmonth, hstart, hend⟩ := isDate_iff_monthLength.mp h
  have hmonth' := h.month_le
  have hindex : d.month.toNat - 1 < 12 := by omega
  have hwhole := sum_range_add_le (monthLength d.year.toNat) hindex
  rw [dayOfYear, yearLength]
  omega

theorem compare_dayOfYear (ha : a.IsDate) (hb : b.IsDate) (hyear : a.year = b.year) :
    compare a.dayOfYear b.dayOfYear = (compare a.month b.month).then (compare a.day b.day) := by
  obtain ⟨hmonth, hstart, hend⟩ := isDate_iff_monthLength.mp ha
  obtain ⟨hmonth', hstart', hend'⟩ := isDate_iff_monthLength.mp hb
  have hmonths : compare (a.month.toNat - 1) (b.month.toNat - 1) =
      compare a.month.toNat b.month.toNat := compare_eq_compare (by omega) (by omega)
  have hdays : compare (a.day.toNat - 1) (b.day.toNat - 1) =
      compare a.day.toNat b.day.toNat := compare_eq_compare (by omega) (by omega)
  rw [← hyear] at hend'
  rw [dayOfYear, dayOfYear, ← hyear, compare_sum_range_add _ (by omega) (by omega), hmonths, hdays,
    UInt8.compare_eq_toNat_compare_toNat, UInt8.compare_eq_toNat_compare_toNat]

theorem compare_eq_compare_number (ha : a.IsDate) (hb : b.IsDate) :
    compare a b = compare a.number b.number := by
  have hblocks : compare a.number b.number =
      (compare a.year.toNat b.year.toNat).then (compare a.dayOfYear b.dayOfYear) :=
    compare_sum_range_add yearLength ha.dayOfYear_lt hb.dayOfYear_lt
  rw [hblocks, ← UInt16.compare_eq_toNat_compare_toNat]
  refine then_congr ?_
  intro hyear
  exact (compare_dayOfYear ha hb (Std.compare_eq_iff_eq.mp hyear)).symm

theorem eq_of_compare_eq (h : compare a b = .eq) : a = b := by
  obtain ⟨hyear, hrest⟩ := Ordering.then_eq_eq.mp h
  obtain ⟨hmonth, hday⟩ := Ordering.then_eq_eq.mp hrest
  exact Day.ext (Std.compare_eq_iff_eq.mp hyear) (Std.compare_eq_iff_eq.mp hmonth)
    (Std.compare_eq_iff_eq.mp hday)

theorem eq_of_number_eq (ha : a.IsDate) (hb : b.IsDate) (h : a.number = b.number) : a = b := by
  apply eq_of_compare_eq
  rw [compare_eq_compare_number ha hb]
  exact Nat.compare_eq_eq.mpr h

theorem le_iff_number_le (ha : a.IsDate) (hb : b.IsDate) : a ≤ b ↔ a.number ≤ b.number := by
  have hle : a ≤ b ↔ (compare a b).isLE = true := Iff.rfl
  rw [hle, compare_eq_compare_number ha hb, Nat.isLE_compare]

def first : Day := ⟨0, 1, 1⟩

/-- The last date that there is room for. -/
def last : Day := ⟨65535, 12, 31⟩

/-- The date after a date: in the same month, else in the same year, else in the next. -/
def next (d : Day) : Day :=
  if d.day.toNat < monthLength d.year.toNat (d.month.toNat - 1) then
    { d with day := d.day + 1 }
  else if d.month.toNat < 12 then
    ⟨d.year, d.month + 1, 1⟩
  else
    ⟨d.year + 1, 1, 1⟩

theorem IsDate.next_in_month (h : d.IsDate)
    (hday : d.day.toNat < monthLength d.year.toNat (d.month.toNat - 1)) :
    d.next.IsDate ∧ d.next.number = d.number + 1 := by
  obtain ⟨hmonth, hstart, -⟩ := isDate_iff_monthLength.mp h
  have hnext : d.next = { d with day := d.day + 1 } := if_pos hday
  have hlast := h.day_le
  have hday' : (d.day + 1).toNat = d.day.toNat + 1 := by
    rw [UInt8.toNat_add, UInt8.toNat_one, Nat.mod_eq_of_lt (by omega)]
  rw [hnext]
  constructor
  · rw [isDate_iff_monthLength, hday']
    exact ⟨hmonth, by omega, hday⟩
  · have hplace : dayOfYear { d with day := d.day + 1 } = d.dayOfYear + 1 := by
      simp only [dayOfYear, hday']
      omega
    exact congrArg (∑ year ∈ Finset.range d.year.toNat, yearLength year + ·) hplace

theorem IsDate.sum_months (h : d.IsDate)
    (hday : d.day.toNat = monthLength d.year.toNat (d.month.toNat - 1)) :
    ∑ index ∈ Finset.range d.month.toNat, monthLength d.year.toNat index = d.dayOfYear + 1 := by
  obtain ⟨hmonth, hstart, -⟩ := isDate_iff_monthLength.mp h
  have hwhole := Finset.sum_range_succ (monthLength d.year.toNat) (d.month.toNat - 1)
  rw [Nat.sub_add_cancel hmonth, ← hday] at hwhole
  rw [hwhole, dayOfYear]
  omega

theorem IsDate.next_in_year (h : d.IsDate)
    (hday : d.day.toNat = monthLength d.year.toNat (d.month.toNat - 1))
    (hmonth : d.month.toNat < 12) : d.next.IsDate ∧ d.next.number = d.number + 1 := by
  have hnext : d.next = ⟨d.year, d.month + 1, 1⟩ :=
    (if_neg (Nat.not_lt.mpr (Nat.le_of_eq hday.symm))).trans (if_pos hmonth)
  have hmonth' : (d.month + 1).toNat = d.month.toNat + 1 := by
    rw [UInt8.toNat_add, UInt8.toNat_one, Nat.mod_eq_of_lt (by omega)]
  rw [hnext]
  constructor
  · rw [isDate_iff_monthLength, hmonth', UInt8.toNat_one, Nat.add_sub_cancel]
    exact ⟨by omega, Nat.le_refl 1, (monthLength_bounds _ hmonth).1⟩
  · have hplace : dayOfYear ⟨d.year, d.month + 1, 1⟩ = d.dayOfYear + 1 := by
      rw [dayOfYear, hmonth', Nat.add_sub_cancel, h.sum_months hday, UInt8.toNat_one]
    exact congrArg (∑ year ∈ Finset.range d.year.toNat, yearLength year + ·) hplace

theorem IsDate.next_in_next_year (h : d.IsDate)
    (hday : d.day.toNat = monthLength d.year.toNat (d.month.toNat - 1))
    (hmonth : d.month.toNat = 12) (hlast : d ≠ last) :
    d.next.IsDate ∧ d.next.number = d.number + 1 := by
  have hnext : d.next = ⟨d.year + 1, 1, 1⟩ :=
    (if_neg (Nat.not_lt.mpr (Nat.le_of_eq hday.symm))).trans (if_neg (by omega))
  have hwhole := h.sum_months hday
  rw [hmonth] at hday hwhole
  have hyear : d.year.toNat ≠ 65535 := by
    intro hyear
    apply hlast
    exact Day.ext (UInt16.toNat_inj.mp hyear) (UInt8.toNat_inj.mp hmonth)
      (UInt8.toNat_inj.mp hday)
  have hyear' : (d.year + 1).toNat = d.year.toNat + 1 := by
    have hlt := d.year.toNat_lt
    rw [UInt16.toNat_add, UInt16.toNat_one, Nat.mod_eq_of_lt (by omega)]
  rw [hnext]
  constructor
  · rw [isDate_iff_monthLength, hyear', UInt8.toNat_one]
    exact ⟨Nat.le_refl 1, Nat.le_refl 1, (monthLength_bounds _ (by decide)).1⟩
  · have hplace : dayOfYear ⟨d.year + 1, 1, 1⟩ = 0 := rfl
    rw [number, number, hyear', hplace, Finset.sum_range_succ, yearLength, hwhole]
    omega

theorem IsDate.next (h : d.IsDate) (hlast : d ≠ last) :
    d.next.IsDate ∧ d.next.number = d.number + 1 := by
  obtain ⟨-, -, hend⟩ := isDate_iff_monthLength.mp h
  by_cases hday : d.day.toNat < monthLength d.year.toNat (d.month.toNat - 1)
  · exact h.next_in_month hday
  · have hday' := Nat.le_antisymm hend (Nat.le_of_not_lt hday)
    by_cases hmonth : d.month.toNat < 12
    · exact h.next_in_year hday' hmonth
    · exact h.next_in_next_year hday' (Nat.le_antisymm h.month_le (Nat.le_of_not_lt hmonth)) hlast

theorem IsDate.le_last (h : d.IsDate) : d ≤ last := by
  have hyear := d.year.toNat_lt
  have hmonth := h.month_le
  rw [le_iff_notAfter]
  by_cases hyear' : d.year.toNat < 65535
  · exact .inl hyear'
  · refine .inr ⟨UInt16.toNat_inj.mp (by omega : d.year.toNat = 65535), ?_⟩
    by_cases hmonth' : d.month.toNat < 12
    · exact .inl hmonth'
    · exact .inr ⟨UInt8.toNat_inj.mp (by omega : d.month.toNat = 12), h.day_le⟩

theorem isDate_iterate_next {n : Nat} (h : n ≤ last.number) :
    (Day.next^[n] first).IsDate ∧ (Day.next^[n] first).number = n := by
  induction n with
  | zero => exact ⟨by decide, rfl⟩
  | succ n ih =>
    obtain ⟨hdate, hnumber⟩ := ih (Nat.le_of_succ_le h)
    have hlast : Day.next^[n] first ≠ last := by
      intro hlast
      rw [hlast] at hnumber
      omega
    obtain ⟨hdate', hnumber'⟩ := hdate.next hlast
    rw [Function.iterate_succ_apply', hnumber', hnumber]
    exact ⟨hdate', rfl⟩

theorem IsDate.iterate_next (h : d.IsDate) : Day.next^[d.number] first = d := by
  have hlast : d.number ≤ last.number := (le_iff_number_le h (by decide)).mp h.le_last
  obtain ⟨hdate, hnumber⟩ := isDate_iterate_next hlast
  exact eq_of_number_eq hdate h hnumber

end Day

theorem Ledger.records_of_dates {l : Ledger} {a b : Day} (ha : a.IsDate) (hb : b.IsDate)
    (hopen : l.operatingDay = some b) :
    l.records (.day a) =
      .applying (.day a) :: if a.number ≤ b.number then [.notLater a b] else [] := by
  obtain ⟨o, hcur, rfl⟩ := Option.map_eq_some_iff.mp hopen
  have hle := Day.le_iff_number_le ha hb
  simp only [records, warnings, if_pos ha, hcur, List.nil_append, hle]

namespace Day

/-- Dates are counted from the first of January of the year zero, and compared as they are counted.
So a date is said not to come after the open one just when it does not, and no number is given
twice. -/
theorem order_is_chronological {a b : Day} (ha : a.IsDate) (hb : b.IsDate) :
    next^[a.number] first = a ∧ next^[b.number] first = b ∧
    compare a b = compare a.number b.number ∧ (a.number = b.number → a = b) ∧
    ∀ l : Ledger, l.operatingDay = some b → l.records (.day a) =
      .applying (.day a) :: if a.number ≤ b.number then [.notLater a b] else [] :=
  ⟨ha.iterate_next, hb.iterate_next, compare_eq_compare_number ha hb, eq_of_number_eq ha hb,
    fun _ => Ledger.records_of_dates ha hb⟩

theorem order_is_chronological_over_leap_day :
    ∃ (a b : Day) (l : Ledger), a.text = "2024-02-29".toList ∧ b.text = "2024-03-01".toList ∧
      a.IsDate ∧ b.IsDate ∧ l.operatingDay = some b ∧ a.number = 739310 ∧ b.number = 739311 ∧
      next^[739310] first = a ∧ compare a b = .lt ∧
      l.records (.day a) = [.applying (.day a), .notLater a b] := by
  let l : Ledger := { Ledger.start .standard with current := some (.start ⟨2024, 3, 1⟩) }
  have ha : IsDate ⟨2024, 2, 29⟩ := by decide
  have hb : IsDate ⟨2024, 3, 1⟩ := by decide
  have hnumber : number ⟨2024, 2, 29⟩ = 739310 := by
    rw [number, sum_yearLength]
    rfl
  have hnumber' : number ⟨2024, 3, 1⟩ = 739311 := by
    rw [number, sum_yearLength]
    rfl
  obtain ⟨hreach, -, hcompare, -, hrecords⟩ := order_is_chronological ha hb
  have hwarned := hrecords l rfl
  rw [hnumber] at hreach hwarned
  rw [hnumber, hnumber'] at hcompare
  rw [hnumber'] at hwarned
  exact ⟨_, _, l, rfl, rfl, ha, hb, rfl, hnumber, hnumber', hreach, hcompare, hwarned⟩

end Day

end HourBank
