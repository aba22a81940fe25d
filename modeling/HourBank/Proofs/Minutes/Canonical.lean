import HourBank.Proofs.Minutes.Written

/-! The one way in which each time is written. Among the spellings of a time, writing chooses the
one with a sign, without needless zeros, and with fewer than sixty minutes. -/

namespace HourBank.Minutes

namespace Spelling

/-- Signed, at least two digits of hours of which the first is a zero only where there are just
two, two digits of minutes below sixty, and no minus before zero. -/
structure IsCanonical (s : Spelling) : Prop where
  sign : s.sign ≠ []
  hours : 2 ≤ s.hours.length
  leadingZero : s.hours.head? = some '0' → s.hours.length = 2
  minutes : s.minutes.length = 2
  minutes_lt : Text.value s.minutes < 60
  ne_minusZero : s.token ≠ "-00:00".toList

theorem ofMagnitude_token_ne_minusZero {sign : Text} (hsign : sign ∈ [[], ['+'], ['-']])
    (hsigned : sign ≠ []) {n : Nat} (hzero : sign = ['-'] → 0 < n) :
    (ofMagnitude sign hsign n).token ≠ "-00:00".toList := by
  intro hminus
  have hparts : sign ++ (ofMagnitude sign hsign n).clock = "-00:00".toList := hminus
  have hsign' := hsign
  simp only [List.mem_cons, List.not_mem_nil, or_false] at hsign'
  rcases hsign' with rfl | rfl | rfl
  · exact hsigned rfl
  · exact absurd (List.cons.inj hparts).1 (by decide)
  · have hclock : (ofMagnitude ['-'] hsign n).clock = "00:00".toList := (List.cons.inj hparts).2
    have hread := (ofMagnitude ['-'] hsign n).magnitude?_clock
    rw [hclock, magnitude_ofMagnitude] at hread
    have hn : 0 = n := Option.some.inj hread
    exact absurd hn (Nat.ne_of_lt (hzero rfl))

theorem isCanonical_ofMagnitude {sign : Text} (hsign : sign ∈ [[], ['+'], ['-']])
    (hsigned : sign ≠ []) {n : Nat} (hzero : sign = ['-'] → 0 < n) :
    (ofMagnitude sign hsign n).IsCanonical where
  sign := hsigned
  hours := Text.le_length_padded _ _
  leadingZero := Text.length_padded_of_head? (by decide)
  minutes := Text.length_padded (by decide) (by omega)
  minutes_lt := by
    have hminutes : Text.value (ofMagnitude sign hsign n).minutes = n % 60 := Text.value_padded _ _
    omega
  ne_minusZero := ofMagnitude_token_ne_minusZero hsign hsigned hzero

theorem IsCanonical.clock_eq {s : Spelling} (h : s.IsCanonical) :
    Minutes.clock s.magnitude = s.clock := by
  have hlt := h.minutes_lt
  have hhours : s.magnitude / 60 = Text.value s.hours := by
    rw [magnitude]
    omega
  have hminutes : s.magnitude % 60 = Text.value s.minutes := by
    rw [magnitude]
    omega
  rw [Minutes.clock, hhours, hminutes, Text.padded_value s.isNumber_hours h.hours h.leadingZero,
    Text.padded_value s.isNumber_minutes (Nat.le_of_eq h.minutes.symm) fun _ => h.minutes, clock]

/-- A minus is kept, as no canonical spelling has one before zero. -/
theorem IsCanonical.signed_eq {s : Spelling} (h : s.IsCanonical) {m : Minutes}
    (hm : m.toInt = s.toInt) : m.signed = s.token := by
  have hmagnitude : m.toInt.natAbs = s.magnitude := by rw [hm, s.natAbs_toInt]
  have hsign := s.sign_mem
  simp only [List.mem_cons, List.not_mem_nil, or_false] at hsign
  rcases hsign with hs | hs | hs
  · exact absurd hs h.sign
  · have hpos : ¬ m.toInt < 0 := by
      rw [hm, toInt, hs, if_neg (by decide)]
      omega
    rw [signed, if_neg hpos, hmagnitude, h.clock_eq, token, hs, List.singleton_append]
  · have hneg : m.toInt < 0 := by
      have hnonzero : s.magnitude ≠ 0 := by
        intro hzero
        apply h.ne_minusZero
        rw [token, hs, ← h.clock_eq, hzero]
        rfl
      rw [hm, toInt, if_pos hs]
      omega
    rw [signed, if_pos hneg, hmagnitude, h.clock_eq, token, hs, List.singleton_append]

end Spelling

theorem exists_canonical (m : Minutes) : ∃ s : Spelling, s.token = m.signed ∧ s.IsCanonical ∧
    s.magnitude = m.toInt.natAbs ∧ (s.sign = ['-'] ↔ m.toInt < 0) := by
  by_cases hneg : m.toInt < 0
  · refine ⟨.ofMagnitude ['-'] (by simp) m.toInt.natAbs, ?_,
      Spelling.isCanonical_ofMagnitude _ (by simp) (by omega),
      Spelling.magnitude_ofMagnitude _ _, iff_of_true rfl hneg⟩
    rw [signed, if_pos hneg]
    rfl
  · refine ⟨.ofMagnitude ['+'] (by simp) m.toInt.natAbs, ?_,
      Spelling.isCanonical_ofMagnitude _ (by simp) (by simp),
      Spelling.magnitude_ofMagnitude _ _, iff_of_false (by simp [Spelling.ofMagnitude]) hneg⟩
    rw [signed, if_neg hneg]
    rfl

theorem Spelling.IsCanonical.exists_signed {s : Spelling} (h : s.IsCanonical)
    (hfits : s.magnitude ≤ if s.sign = ['-'] then 9223372036854775808 else 9223372036854775807) :
    ∃ m : Minutes, m.signed = s.token := by
  have hbounds : -9223372036854775808 ≤ s.toInt ∧ s.toInt ≤ 9223372036854775807 := by
    by_cases hminus : s.sign = ['-']
    · rw [if_pos hminus] at hfits
      rw [Spelling.toInt, if_pos hminus]
      omega
    · rw [if_neg hminus] at hfits
      rw [Spelling.toInt, if_neg hminus]
      omega
  exact ⟨⟨s.toInt, hbounds.1, hbounds.2⟩, h.signed_eq rfl⟩

/-- Different times are written differently, just the canonical spellings that fit 64 bits are
written, and what is read is written back as it stood exactly where it was canonical. -/
theorem signed_canonical :
    Function.Injective signed ∧
    (∀ t : Text, (∃ m : Minutes, m.signed = t) ↔ ∃ s : Spelling, s.token = t ∧ s.IsCanonical ∧
      s.magnitude ≤ if s.sign = ['-'] then 9223372036854775808 else 9223372036854775807) ∧
    ∀ (t : Text) (m : Minutes), parse t = .ok m →
      parse m.signed = .ok m ∧ (m.signed = t ↔ ∃ s : Spelling, s.token = t ∧ s.IsCanonical) := by
  refine ⟨signed_injective, ?_, ?_⟩
  · intro t
    constructor
    · rintro ⟨m, rfl⟩
      have hlower := m.lower
      have hupper := m.upper
      obtain ⟨s, htoken, hcanonical, hmagnitude, hneg⟩ := m.exists_canonical
      refine ⟨s, htoken, hcanonical, ?_⟩
      simp only [hneg]
      split <;> omega
    · rintro ⟨s, rfl, hcanonical, hfits⟩
      exact hcanonical.exists_signed hfits
  · intro t m hread
    obtain ⟨spelled, htoken, hfits, hvalue⟩ := read?_eq_some_iff.mp (parse_eq_ok_iff.mp hread)
    have hleast : m.toInt ≠ -9223372036854775808 := by
      have hmagnitude := spelled.natAbs_toInt
      omega
    refine ⟨parse_of_mem_forms hleast m.signed_mem_forms, ?_⟩
    constructor
    · rintro rfl
      obtain ⟨s, hs, hcanonical, -⟩ := m.exists_canonical
      exact ⟨s, hs, hcanonical⟩
    · rintro ⟨s, rfl, hcanonical⟩
      have hm := (s.read?_token_eq_some_iff.mp (parse_eq_ok_iff.mp hread)).2
      exact hcanonical.signed_eq hm

/-- Ninety minutes are written as an hour and a half, and three digits of hours stay. -/
theorem signed_canonical_more_than_an_hour :
    ∃ m n : Minutes, parse "8:90".toList = .ok m ∧ m.signed = "+09:30".toList ∧
      parse m.signed = .ok m ∧ parse "-100:05".toList = .ok n ∧ n.signed = "-100:05".toList ∧
      ∃ s : Spelling, s.token = "-100:05".toList ∧ s.IsCanonical := by
  have hm : parse "8:90".toList = .ok { toInt := 570 } := by decide +kernel
  have hn : parse "-100:05".toList = .ok { toInt := -6005 } := by decide +kernel
  have hwritten : signed { toInt := -6005 } = "-100:05".toList := by decide +kernel
  have hread := signed_canonical.2.2 _ _ hm
  have hkept := signed_canonical.2.2 _ _ hn
  exact ⟨_, _, hm, by decide +kernel, hread.1, hn, hwritten, hkept.2.mp hwritten⟩

end HourBank.Minutes
