import HourBank.Text
import Mathlib.Algebra.Group.Nat.Defs

/-! Digits written and read: what a padded number is made of, how long it is and what it is worth. -/

namespace HourBank.Text

/-- A run of decimal digits, of any length but zero. -/
def IsNumber (t : Text) : Prop := t ≠ [] ∧ ∀ c ∈ t, c.isDigit = true

theorem isDigit_of_mem_padded {c : Char} {width n : Nat} (h : c ∈ padded width n) :
    c.isDigit = true := by
  rcases List.mem_append.mp h with hzero | hdigit
  · have hc : c = '0' := List.eq_of_mem_replicate hzero
    rw [hc]
    decide
  · exact Nat.isDigit_of_mem_toDigits (by decide) (by decide) hdigit

theorem padded_ne_nil (width n : Nat) : padded width n ≠ [] := by
  have hdecimal : decimal n ≠ [] := Nat.toDigits_ne_nil
  exact List.append_ne_nil_of_right_ne_nil _ hdecimal

theorem isNumber_padded (width n : Nat) : IsNumber (padded width n) :=
  ⟨padded_ne_nil width n, fun _ => isDigit_of_mem_padded⟩

theorem value_padded (width n : Nat) : value (padded width n) = n := by
  have hzeros : Nat.ofDigitChars 10 (List.replicate (width - (decimal n).length) '0') 0 = 0 :=
    Nat.ofDigitChars_replicate_zero
  rw [value, padded, List.leftpad, Nat.ofDigitChars_append, hzeros]
  exact value_decimal n

theorem code_of_isDigit {c : Char} (h : c.isDigit = true) : 48 ≤ c.toNat ∧ c.toNat ≤ 57 := by
  simpa [Char.isDigit, UInt32.le_iff_toNat_le] using h

theorem digitChar_of_isDigit {c : Char} (h : c.isDigit = true) :
    Nat.digitChar (c.toNat - '0'.toNat) = c := by
  have hcode := code_of_isDigit h
  have hzero : '0'.toNat = 48 := rfl
  rw [← Char.toNat_inj, Nat.toNat_digitChar_of_lt_ten (by omega)]
  omega

/-- More digits after those of a number give the digits of the number they all write. -/
theorem decimal_append {n : Nat} (hn : 0 < n) {digits : Text} (h : ∀ c ∈ digits, c.isDigit = true) :
    decimal n ++ digits = decimal (Nat.ofDigitChars 10 digits n) := by
  induction digits generalizing n with
  | nil => rw [List.append_nil, Nat.ofDigitChars_nil]
  | cons c digits ih =>
    obtain ⟨hc, hdigits⟩ := List.forall_mem_cons.mp h
    have hcode := code_of_isDigit hc
    have hzero : '0'.toNat = 48 := rfl
    have hdigit : c.toNat - '0'.toNat < 10 := by omega
    have hnext : decimal n ++ [c] = decimal (10 * n + (c.toNat - '0'.toNat)) := by
      rw [decimal, decimal, ← Nat.toDigits_append_toDigits (by decide) hn hdigit,
        Nat.toDigits_of_lt_base hdigit, digitChar_of_isDigit hc]
    calc decimal n ++ c :: digits = decimal n ++ [c] ++ digits := by
          rw [List.append_assoc, List.singleton_append]
      _ = decimal (10 * n + (c.toNat - '0'.toNat)) ++ digits := by rw [hnext]
      _ = decimal (Nat.ofDigitChars 10 (c :: digits) n) := by
        rw [ih (by omega) hdigits, Nat.ofDigitChars_cons]

theorem decimal_value {c : Char} (hzero : c ≠ '0') {digits : Text}
    (h : ∀ d ∈ c :: digits, d.isDigit = true) : decimal (value (c :: digits)) = c :: digits := by
  obtain ⟨hc, hdigits⟩ := List.forall_mem_cons.mp h
  have hcode := code_of_isDigit hc
  have hzeroCode : '0'.toNat = 48 := rfl
  have hpos : 0 < c.toNat - '0'.toNat := by
    have hne : c.toNat ≠ '0'.toNat := mt Char.toNat_inj.mp hzero
    omega
  have hfirst : decimal (c.toNat - '0'.toNat) = [c] := by
    rw [decimal, Nat.toDigits_of_lt_base (by omega), digitChar_of_isDigit hc]
  rw [value, Nat.ofDigitChars_cons, Nat.mul_zero, Nat.zero_add, ← decimal_append hpos hdigits,
    hfirst, List.singleton_append]

theorem eq_zero_of_head?_decimal {n : Nat} (h : (decimal n).head? = some '0') : n = 0 := by
  induction n using Nat.strongRecOn with
  | ind n ih =>
    by_cases hn : n < 10
    · have hone : decimal n = [n.digitChar] := Nat.toDigits_of_lt_base hn
      rw [hone, List.head?_cons, Option.some.injEq, Nat.digitChar_eq_zero] at h
      exact h
    · have hmore : decimal n = decimal (n / 10) ++ [(n % 10).digitChar] :=
        Nat.toDigits_of_base_le (by decide) (Nat.le_of_not_lt hn)
      have hne : decimal (n / 10) ≠ [] := Nat.toDigits_ne_nil
      rw [hmore, List.head?_append, List.head?_eq_some_head hne, Option.some_or,
        ← List.head?_eq_some_head hne] at h
      have hrest := ih (n / 10) (by omega) h
      omega

theorem padded_of_length_le {width n : Nat} (h : width ≤ (decimal n).length) :
    padded width n = decimal n := by
  rw [padded, List.leftpad, Nat.sub_eq_zero_of_le h, List.replicate_zero, List.nil_append]

theorem padded_succ {width n : Nat} (h : (decimal n).length ≤ width) :
    padded (width + 1) n = '0' :: padded width n := by
  rw [padded, padded, List.leftpad, List.leftpad, Nat.succ_sub h, List.replicate_succ,
    List.cons_append]

theorem le_length_padded (width n : Nat) : width ≤ (padded width n).length := by
  rw [padded, List.length_leftpad]
  exact Nat.le_max_left _ _

/-- A zero stands in front only where the places would not be filled without it. -/
theorem length_padded_of_head? {width n : Nat} (hwidth : 0 < width)
    (h : (padded width n).head? = some '0') : (padded width n).length = width := by
  by_cases hfits : (decimal n).length ≤ width
  · rw [padded, List.length_leftpad, Nat.max_eq_left hfits]
  · have hfull : padded width n = decimal n := padded_of_length_le (by omega)
    rw [hfull] at h
    have hzero : n = 0 := eq_zero_of_head?_decimal h
    subst hzero
    exact absurd hwidth hfits

/-- Digits are what their value is written as, unless they begin with a zero too many. -/
theorem padded_value {t : Text} (h : IsNumber t) {width : Nat} (hwidth : width ≤ t.length)
    (hlead : t.head? = some '0' → t.length = width) : padded width (value t) = t := by
  induction t generalizing width with
  | nil => exact absurd rfl h.1
  | cons c digits ih =>
    by_cases hzero : c = '0'
    · subst hzero
      obtain rfl : (digits.length + 1) = width := hlead rfl
      cases digits with
      | nil => rfl
      | cons d digits =>
        have hdigits : IsNumber (d :: digits) :=
          ⟨List.cons_ne_nil d digits, (List.forall_mem_cons.mp h.2).2⟩
        have hrest : padded (d :: digits).length (value (d :: digits)) = d :: digits :=
          ih hdigits (Nat.le_refl _) fun _ => rfl
        have hfits : (decimal (value (d :: digits))).length ≤ (d :: digits).length := by
          have hlength := congrArg List.length hrest
          rw [padded, List.length_leftpad] at hlength
          omega
        have hvalue : value ('0' :: d :: digits) = value (d :: digits) := rfl
        rw [hvalue, padded_succ hfits, hrest]
    · have hdecimal := decimal_value hzero h.2
      rw [padded_of_length_le (by rw [hdecimal]; exact hwidth), hdecimal]

theorem padded_injective (width : Nat) : Function.Injective (padded width) := by
  intro m n h
  rw [← value_padded width m, h, value_padded]

theorem length_padded {width n : Nat} (hwidth : 0 < width) (h : n < 10 ^ width) :
    (padded width n).length = width := by
  have hdecimal : (decimal n).length ≤ width :=
    (Nat.length_toDigits_le_iff (by decide) hwidth).mpr h
  rw [padded, List.length_leftpad]
  omega

/-- Digits that take up just so many places. -/
structure Fills (width : Nat) (t : Text) : Prop where
  length_eq : t.length = width
  isDigit : ∀ c ∈ t, c.isDigit = true

theorem Fills.isNumber {width : Nat} {t : Text} (h : Fills width t) (hwidth : 0 < width) :
    IsNumber t := by
  have hlength := h.length_eq
  refine ⟨?_, h.isDigit⟩
  rintro rfl
  exact absurd hlength (Nat.ne_of_lt hwidth)

theorem fills_padded {width n : Nat} (hwidth : 0 < width) (h : n < 10 ^ width) :
    Fills width (padded width n) :=
  ⟨length_padded hwidth h, fun _ => isDigit_of_mem_padded⟩

theorem Fills.padded_value {width : Nat} {t : Text} (h : Fills width t) (hwidth : 0 < width) :
    padded width (value t) = t :=
  Text.padded_value (h.isNumber hwidth) (Nat.le_of_eq h.length_eq.symm) fun _ => h.length_eq

theorem Fills.value_lt {width : Nat} {t : Text} (h : Fills width t) (hwidth : 0 < width) :
    value t < 10 ^ width := by
  have hlength : (padded width (value t)).length = width := by
    rw [h.padded_value hwidth, h.length_eq]
  have hdecimal : (decimal (value t)).length ≤ width := by
    rw [padded, List.length_leftpad] at hlength
    omega
  exact (Nat.length_toDigits_le_iff (by decide) hwidth).mp hdecimal

theorem not_blank_of_isDigit {c : Char} (h : c.isDigit = true) : isBlank c = false := by
  have hcode := code_of_isDigit h
  simp only [isBlank, Bool.or_eq_false_iff, Bool.and_eq_false_iff, decide_eq_false_iff_not,
    beq_eq_false_iff_ne]
  omega

end HourBank.Text
