import HourBank.Day
import HourBank.Proofs.Text.Decimal
import Mathlib.Data.List.Basic

/-! Reading a date. A token is read when it is four, two and two digits with dashes between them,
and the numbers of the day are just those that its digits write. -/

namespace HourBank.Day

structure Spelling where
  year : Text
  month : Text
  day : Text
  fills_year : Text.Fills 4 year
  fills_month : Text.Fills 2 month
  fills_day : Text.Fills 2 day

namespace Spelling

def token (s : Spelling) : Text := s.year ++ '-' :: s.month ++ '-' :: s.day

def date (s : Spelling) : Day :=
  { year := .ofNat (Text.value s.year)
    month := .ofNat (Text.value s.month)
    day := .ofNat (Text.value s.day) }

theorem toNat_year (s : Spelling) : s.date.year.toNat = Text.value s.year := by
  have hlt : Text.value s.year < 10 ^ 4 := s.fills_year.value_lt (by decide)
  have hsize : (10 : Nat) ^ 4 < UInt16.size := by decide
  exact UInt16.toNat_ofNat_of_lt' (Nat.lt_trans hlt hsize)

theorem toNat_month (s : Spelling) : s.date.month.toNat = Text.value s.month := by
  have hlt : Text.value s.month < 10 ^ 2 := s.fills_month.value_lt (by decide)
  have hsize : (10 : Nat) ^ 2 < UInt8.size := by decide
  exact UInt8.toNat_ofNat_of_lt' (Nat.lt_trans hlt hsize)

theorem toNat_day (s : Spelling) : s.date.day.toNat = Text.value s.day := by
  have hlt : Text.value s.day < 10 ^ 2 := s.fills_day.value_lt (by decide)
  have hsize : (10 : Nat) ^ 2 < UInt8.size := by decide
  exact UInt8.toNat_ofNat_of_lt' (Nat.lt_trans hlt hsize)

theorem read?_token (s : Spelling) : read? s.token = some s.date := by
  obtain ⟨year, month, day, hyear, hmonth, hday⟩ := s
  obtain ⟨y₁, y₂, y₃, y₄, rfl⟩ := List.length_eq_four.mp hyear.length_eq
  obtain ⟨m₁, m₂, rfl⟩ := List.length_eq_two.mp hmonth.length_eq
  obtain ⟨d₁, d₂, rfl⟩ := List.length_eq_two.mp hday.length_eq
  have hdigits : ∀ c ∈ [y₁, y₂, y₃, y₄] ++ [m₁, m₂] ++ [d₁, d₂], c.isDigit = true :=
    List.forall_mem_append.mpr
      ⟨List.forall_mem_append.mpr ⟨hyear.isDigit, hmonth.isDigit⟩, hday.isDigit⟩
  exact if_pos (List.all_eq_true.mpr hdigits)

end Spelling

theorem exists_spelling_of_read? {t : Text} {d : Day} (h : read? t = some d) :
    ∃ s : Spelling, s.token = t := by
  unfold read? at h
  split at h
  · rename_i y₁ y₂ y₃ y₄ m₁ m₂ d₁ d₂
    obtain ⟨hall, -⟩ := Option.ite_none_right_eq_some.mp h
    have hdigits : ∀ c ∈ [y₁, y₂, y₃, y₄] ++ [m₁, m₂] ++ [d₁, d₂], c.isDigit = true :=
      List.all_eq_true.mp hall
    obtain ⟨hfirst, hday⟩ := List.forall_mem_append.mp hdigits
    obtain ⟨hyear, hmonth⟩ := List.forall_mem_append.mp hfirst
    exact ⟨⟨_, _, _, ⟨rfl, hyear⟩, ⟨rfl, hmonth⟩, ⟨rfl, hday⟩⟩, rfl⟩
  · simp at h

theorem read?_eq_some_iff {t : Text} {d : Day} :
    read? t = some d ↔ ∃ s : Spelling, s.token = t ∧ s.date = d := by
  constructor
  · intro h
    obtain ⟨s, rfl⟩ := exists_spelling_of_read? h
    exact ⟨s, rfl, Option.some.inj (s.read?_token.symm.trans h)⟩
  · rintro ⟨s, rfl, rfl⟩
    exact s.read?_token

theorem parse_eq_ok_iff_read? {t : Text} {d : Day} : parse t = .ok d ↔ read? t = some d := by
  unfold parse
  cases read? t <;> simp

theorem parse_eq_error_iff {t : Text} {e : Malformed} :
    parse t = .error e ↔ e = .date t ∧ read? t = none := by
  unfold parse
  cases read? t <;> simp [eq_comm]

end HourBank.Day
