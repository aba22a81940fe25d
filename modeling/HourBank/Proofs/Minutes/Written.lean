import HourBank.Proofs.Minutes.Read
import HourBank.Proofs.Text.Words

/-! Times written and read back. -/

namespace HourBank.Minutes

def forms (m : Minutes) : List Text := [m.signed, m.unsigned]

namespace Spelling

/-- The clock of a magnitude with this sign in front. -/
def ofMagnitude (sign : Text) (hsign : sign ∈ [[], ['+'], ['-']]) (n : Nat) : Spelling where
  sign := sign
  hours := Text.padded 2 (n / 60)
  minutes := Text.padded 2 (n % 60)
  sign_mem := hsign
  isNumber_hours := Text.isNumber_padded _ _
  isNumber_minutes := Text.isNumber_padded _ _

theorem magnitude_ofMagnitude {sign : Text} (hsign : sign ∈ [[], ['+'], ['-']]) (n : Nat) :
    (ofMagnitude sign hsign n).magnitude = n := by
  rw [magnitude, ofMagnitude, Text.value_padded, Text.value_padded]
  exact Nat.div_add_mod n 60

theorem toInt_ofMagnitude {sign : Text} (hsign : sign ∈ [[], ['+'], ['-']]) {m : Minutes}
    (hneg : sign = ['-'] ↔ m.toInt < 0) :
    (ofMagnitude sign hsign m.toInt.natAbs).toInt = m.toInt := by
  rw [toInt, magnitude_ofMagnitude]
  simp only [ofMagnitude, hneg]
  split <;> omega

end Spelling

/-- Each form of a time spells it. -/
theorem exists_spelling_of_mem_forms {m : Minutes} {a : Text} (ha : a ∈ m.forms) :
    ∃ s : Spelling, s.token = a ∧ s.magnitude = m.toInt.natAbs ∧ s.toInt = m.toInt := by
  have hspelled : ∀ sign, sign ∈ [[], ['+'], ['-']] → (sign = ['-'] ↔ m.toInt < 0) →
      sign ++ clock m.toInt.natAbs = a →
      ∃ s : Spelling, s.token = a ∧ s.magnitude = m.toInt.natAbs ∧ s.toInt = m.toInt := by
    intro sign hsign hneg htoken
    exact ⟨.ofMagnitude sign hsign m.toInt.natAbs, htoken, Spelling.magnitude_ofMagnitude _ _,
      Spelling.toInt_ofMagnitude hsign hneg⟩
  simp only [forms, List.mem_cons, List.not_mem_nil, or_false] at ha
  by_cases hneg : m.toInt < 0
  · refine hspelled ['-'] (by simp) (by simp [hneg]) ?_
    rcases ha with rfl | rfl
    · rw [signed, if_pos hneg, List.singleton_append]
    · rw [unsigned, if_pos hneg, List.singleton_append]
  · rcases ha with rfl | rfl
    · refine hspelled ['+'] (by simp) (by simp [hneg]) ?_
      rw [signed, if_neg hneg, List.singleton_append]
    · refine hspelled [] (by simp) (by simp [hneg]) ?_
      rw [unsigned, if_neg hneg, List.nil_append]

/-- Only the least count, whose magnitude does not fit, is not read back. -/
theorem parse_eq_of_mem_forms {m : Minutes} {a : Text} (ha : a ∈ m.forms) :
    parse a = if m.toInt = -9223372036854775808 then .error (.time a) else .ok m := by
  have hlower := m.lower
  have hupper := m.upper
  obtain ⟨s, rfl, hmagnitude, hvalue⟩ := exists_spelling_of_mem_forms ha
  split
  · rw [parse_eq_error_iff, s.read?_token_eq_none_iff]
    exact ⟨rfl, by omega⟩
  · rw [parse_eq_ok_iff, s.read?_token_eq_some_iff]
    exact ⟨by omega, hvalue.symm⟩

theorem parse_of_mem_forms {m : Minutes} (h : m.toInt ≠ -9223372036854775808) {a : Text}
    (ha : a ∈ m.forms) : parse a = .ok m := by
  rw [parse_eq_of_mem_forms ha, if_neg h]

/-- A time is read back from either of its forms unless it is the least count, which is refused. -/
theorem parse_written (m : Minutes) :
    parse m.signed =
      (if m.toInt = -9223372036854775808 then .error (.time m.signed) else .ok m) ∧
    parse m.unsigned =
      (if m.toInt = -9223372036854775808 then .error (.time m.unsigned) else .ok m) :=
  ⟨parse_eq_of_mem_forms List.mem_cons_self,
    parse_eq_of_mem_forms (List.mem_cons_of_mem _ List.mem_cons_self)⟩

/-- The least count is written like any other and not read back. -/
theorem exists_written_not_read : ∃ m : Minutes, m.signed = "-153722867280912930:08".toList ∧
    m.unsigned = m.signed ∧ parse m.signed ≠ .ok m ∧ parse m.unsigned ≠ .ok m :=
  ⟨{ toInt := -9223372036854775808 }, by decide +kernel, by decide +kernel, by decide +kernel,
    by decide +kernel⟩

theorem eq_of_mem_forms {m n : Minutes} {a : Text} (hm : a ∈ m.forms) (hn : a ∈ n.forms) :
    m = n := by
  have hread := (parse_eq_of_mem_forms hm).symm.trans (parse_eq_of_mem_forms hn)
  by_cases hleast : m.toInt = -9223372036854775808 <;>
    by_cases hleast' : n.toInt = -9223372036854775808
  · exact Minutes.ext (hleast.trans hleast'.symm)
  · simp [hleast, hleast'] at hread
  · simp [hleast, hleast'] at hread
  · simpa [hleast, hleast'] using hread

theorem signed_mem_forms (m : Minutes) : m.signed ∈ m.forms := List.mem_cons_self

theorem unsigned_mem_forms (m : Minutes) : m.unsigned ∈ m.forms :=
  List.mem_cons_of_mem _ List.mem_cons_self

theorem signed_injective : Function.Injective signed := by
  intro m n h
  exact eq_of_mem_forms (h ▸ m.signed_mem_forms) n.signed_mem_forms

theorem unsigned_injective : Function.Injective unsigned := by
  intro m n h
  exact eq_of_mem_forms (h ▸ m.unsigned_mem_forms) n.unsigned_mem_forms

/-- A hundred hours are the first that need a third digit. -/
theorem length_clock {n : Nat} (h : n ≤ 5999) : (clock n).length = 5 := by
  have hhours : (Text.padded 2 (n / 60)).length = 2 := Text.length_padded (by decide) (by omega)
  have hminutes : (Text.padded 2 (n % 60)).length = 2 := Text.length_padded (by decide) (by omega)
  rw [clock, List.length_append, List.length_cons, hhours, hminutes]

theorem length_signed {m : Minutes} (h : m.toInt.natAbs ≤ 5999) : m.signed.length = 6 := by
  rw [signed, List.length_cons, length_clock h]

theorem length_unsigned {m : Minutes} (hpos : 0 ≤ m.toInt) (h : m.toInt ≤ 5999) :
    m.unsigned.length = 5 := by
  rw [unsigned, if_neg (Int.not_lt.mpr hpos), length_clock (by omega)]

theorem mem_of_mem_forms {m : Minutes} {a : Text} (ha : a ∈ m.forms) {c : Char} (hc : c ∈ a) :
    c.isDigit = true ∨ c ∈ [':', '+', '-'] := by
  obtain ⟨s, rfl, -⟩ := exists_spelling_of_mem_forms ha
  simp only [Spelling.token, Spelling.clock, List.mem_append, List.mem_cons] at hc
  rcases hc with hsign | hhours | rfl | hminutes
  · have hmem := s.sign_mem
    simp only [List.mem_cons, List.not_mem_nil, or_false] at hmem
    rcases hmem with h | h | h <;> rw [h] at hsign <;> simp_all
  · exact .inl (s.isNumber_hours.2 c hhours)
  · exact .inr List.mem_cons_self
  · exact .inl (s.isNumber_minutes.2 c hminutes)

/-- What is true of digits and marks is true of all that a time is written with. -/
theorem forall_mem_form {p : Char → Prop} (hdigits : ∀ c : Char, c.isDigit = true → p c)
    (hmarks : ∀ c ∈ [':', '+', '-'], p c) {m : Minutes} {a : Text} (ha : a ∈ m.forms) :
    ∀ c ∈ a, p c := by
  intro c hc
  rcases mem_of_mem_forms ha hc with hdigit | hmark
  · exact hdigits c hdigit
  · exact hmarks c hmark

theorem isWord_of_mem_forms {m : Minutes} {a : Text} (ha : a ∈ m.forms) : Text.IsWord a := by
  constructor
  · rintro rfl
    obtain ⟨s, htoken, -⟩ := exists_spelling_of_mem_forms ha
    simp [Spelling.token, Spelling.clock] at htoken
  · exact forall_mem_form (fun _ => Text.not_blank_of_isDigit) (by simp [Text.isBlank]) ha

end HourBank.Minutes
