import HourBank.Proofs.Ledger.Step

/-! The tolerance around a full day. Within it a day moves the bank by nothing, beyond it by all
that the day is over or under, so the movement never falls as the time grows and is the same on both
sides of a full day. It overflows only where a full day, or the distance from it, does not fit. -/

namespace HourBank

namespace Minutes

def Fits (n : Int) : Prop := -9223372036854775808 ≤ n ∧ n ≤ 9223372036854775807

theorem fits_toInt (m : Minutes) : Fits m.toInt := ⟨m.lower, m.upper⟩

theorem checked_eq_error_iff_not_fits {operation found : Overflow} {n : Int} :
    checked operation n = .error found ↔ found = operation ∧ ¬ Fits n := by
  have hout : ¬ Fits n ↔ n < -9223372036854775808 ∨ 9223372036854775807 < n := by
    unfold Fits
    omega
  rw [checked_eq_error_iff, hout]

theorem sub_eq_error_iff {a b : Minutes} {found : Overflow} :
    a.sub b = .error found ↔ found = .subtract ∧ ¬ Fits (a.toInt - b.toInt) :=
  checked_eq_error_iff_not_fits

theorem abs_eq_error_iff {a : Minutes} {found : Overflow} :
    a.abs = .error found ↔ found = .negate ∧ a.toInt = -9223372036854775808 := by
  have hlower := a.lower
  have hupper := a.upper
  rw [abs, checked_eq_error_iff]
  refine and_congr_right fun _ => ?_
  omega

/-- A difference with a distance from zero can be taken the other way round. -/
theorem exists_sub_comm {a b difference distance : Minutes} (hdiff : a.sub b = .ok difference)
    (hdist : difference.abs = .ok distance) : ∃ opposite, b.sub a = .ok opposite := by
  rw [sub_eq_ok_iff] at hdiff
  rw [abs_eq_ok_iff] at hdist
  have hupper := distance.upper
  obtain ⟨opposite, hopposite⟩ := exists_toInt_eq (n := b.toInt - a.toInt) (by omega)
  exact ⟨opposite, sub_eq_ok_iff.mpr hopposite⟩

end Minutes

namespace Schedule

variable {s : Schedule} {time : Minutes}

theorem fullDay_eq_error_iff {found : Overflow} :
    s.fullDay = .error found ↔ found = .add ∧ ¬ Minutes.Fits s.full :=
  Minutes.checked_eq_error_iff_not_fits

/-- The operations overflow in their order, and the last never does after the others. -/
theorem bankDelta_eq_error_iff {found : Overflow} : s.bankDelta time = .error found ↔
    (found = .add ∧ ¬ Minutes.Fits s.full) ∨
    (found = .subtract ∧ Minutes.Fits s.full ∧ ¬ Minutes.Fits (s.full - time.toInt)) ∨
    (found = .negate ∧ Minutes.Fits s.full ∧ s.full - time.toInt = -9223372036854775808) := by
  simp only [bankDelta, bind_eq_error_iff, fullDay_eq_error_iff, Minutes.sub_eq_error_iff,
    Minutes.abs_eq_error_iff]
  constructor
  · rintro (hadd | ⟨full, hfull, ⟨rfl, hover⟩ | ⟨difference, hdiff, ⟨rfl, hleast⟩ |
      ⟨distance, hdist, hlast⟩⟩⟩)
    · exact Or.inl hadd
    · have hvalue := fullDay_eq_ok_iff.mp hfull
      exact Or.inr (Or.inl ⟨rfl, hvalue ▸ full.fits_toInt, hvalue ▸ hover⟩)
    · have hvalue := fullDay_eq_ok_iff.mp hfull
      rw [Minutes.sub_eq_ok_iff, hvalue] at hdiff
      exact Or.inr (Or.inr ⟨rfl, hvalue ▸ full.fits_toInt, hdiff ▸ hleast⟩)
    · obtain ⟨opposite, hopposite⟩ := Minutes.exists_sub_comm hdiff hdist
      rw [hopposite] at hlast
      split at hlast <;> contradiction
  · rintro (hadd | ⟨rfl, hfits, hover⟩ | ⟨rfl, hfits, hleast⟩)
    · exact Or.inl hadd
    · have hfull : s.fullDay = .ok ⟨s.full, hfits.1, hfits.2⟩ := fullDay_eq_ok_iff.mpr rfl
      exact Or.inr ⟨_, hfull, Or.inl ⟨rfl, hover⟩⟩
    · have hfull : s.fullDay = .ok ⟨s.full, hfits.1, hfits.2⟩ := fullDay_eq_ok_iff.mpr rfl
      have hdiff : Minutes.sub ⟨s.full, hfits.1, hfits.2⟩ time =
          .ok { toInt := -9223372036854775808 } := Minutes.sub_eq_ok_iff.mpr hleast.symm
      exact Or.inr ⟨_, hfull, Or.inr ⟨_, hdiff, Or.inl ⟨rfl, rfl⟩⟩⟩

/-- The distance overflows on one side of a full day where the time on the other does not fit. -/
example : bankDelta ⟨{ toInt := -1 }, .zero, .zero⟩ { toInt := 9223372036854775807 } =
    .error .negate := rfl

theorem exists_bankDelta_iff : (∃ d, s.bankDelta time = .ok d) ↔
    Minutes.Fits s.full ∧ Minutes.Fits (s.full - time.toInt) ∧
      s.full - time.toInt ≠ -9223372036854775808 := by
  constructor
  · rintro ⟨d, hd⟩
    simp only [bankDelta, bind_eq_ok_iff] at hd
    obtain ⟨full, hfull, difference, hdiff, distance, hdist, -⟩ := hd
    rw [fullDay_eq_ok_iff] at hfull
    rw [Minutes.sub_eq_ok_iff, hfull] at hdiff
    rw [Minutes.abs_eq_ok_iff, hdiff] at hdist
    have hupper := distance.upper
    exact ⟨hfull ▸ full.fits_toInt, hdiff ▸ difference.fits_toInt, by omega⟩
  · rintro ⟨hfull, hdiff, hleast⟩
    cases hmoved : s.bankDelta time with
    | ok d => exact ⟨d, rfl⟩
    | error found =>
      rcases bankDelta_eq_error_iff.mp hmoved with ⟨-, hover⟩ | ⟨-, -, hover⟩ | ⟨-, -, heq⟩
      · exact absurd hfull hover
      · exact absurd hdiff hover
      · exact absurd heq hleast

theorem delta_eq_zero_iff (s : Schedule) (time : Int) :
    s.delta time = 0 ↔ (time - s.full).natAbs ≤ max s.tolerance.toInt 0 := by
  unfold delta
  split <;> omega

theorem delta_of_beyond {s : Schedule} {time : Int}
    (h : ¬ (time - s.full).natAbs ≤ max s.tolerance.toInt 0) : s.delta time = time - s.full := by
  have hbeyond : s.tolerance.toInt < (s.full - time).natAbs := by omega
  rw [delta, if_pos hbeyond]

theorem delta_le_delta (s : Schedule) {time time' : Int} (h : time ≤ time') :
    s.delta time ≤ s.delta time' := by
  unfold delta
  split <;> split <;> omega

theorem delta_reflect {s : Schedule} {time time' : Int} (h : time + time' = 2 * s.full) :
    s.delta time' = -s.delta time := by
  unfold delta
  split <;> split <;> omega

/-- A day moves the bank unless the first of three operations that does not fit overflows. It moves
it by nothing just within the tolerance, which is none where it is negative, and else by what the
time is over or under a full day; more time never moves it less, and as much over as under is the
same. -/
theorem bankDelta_beyond_tolerance (s : Schedule) (time time' : Minutes) :
    ((∃ d, s.bankDelta time = .ok d) ↔
      Minutes.Fits s.full ∧ Minutes.Fits (s.full - time.toInt) ∧
        s.full - time.toInt ≠ -9223372036854775808) ∧
    (∀ found, s.bankDelta time = .error found ↔
      (found = .add ∧ ¬ Minutes.Fits s.full) ∨
      (found = .subtract ∧ Minutes.Fits s.full ∧ ¬ Minutes.Fits (s.full - time.toInt)) ∨
      (found = .negate ∧ Minutes.Fits s.full ∧ s.full - time.toInt = -9223372036854775808)) ∧
    (∀ full difference distance, s.fullDay = .ok full → full.sub time = .ok difference →
      difference.abs = .ok distance → ∃ beyond, time.sub full = .ok beyond) ∧
    (∀ d, s.bankDelta time = .ok d →
      (d = .zero ↔ (time.toInt - s.full).natAbs ≤ max s.tolerance.toInt 0) ∧
      (¬ (time.toInt - s.full).natAbs ≤ max s.tolerance.toInt 0 →
        d.toInt = time.toInt - s.full)) ∧
    (∀ d d', s.bankDelta time = .ok d → s.bankDelta time' = .ok d' → time ≤ time' → d ≤ d') ∧
    (∀ d, s.bankDelta time = .ok d → time.toInt + time'.toInt = 2 * s.full →
      ∃ d', s.bankDelta time' = .ok d' ∧ d'.toInt = -d.toInt) := by
  refine ⟨exists_bankDelta_iff, fun found => bankDelta_eq_error_iff,
    fun full difference distance hfull => Minutes.exists_sub_comm, ?_, ?_, ?_⟩
  · intro d hd
    have hmoved := bankDelta_toInt hd
    constructor
    · rw [← delta_eq_zero_iff, ← hmoved, Minutes.ext_iff, Minutes.zero_toInt]
    · intro hbeyond
      rw [hmoved, delta_of_beyond hbeyond]
  · intro d d' hd hd' hle
    rw [Minutes.le_def, bankDelta_toInt hd, bankDelta_toInt hd']
    exact s.delta_le_delta hle
  · intro d hd hmirror
    obtain ⟨hfull, ⟨hlower, hupper⟩, hleast⟩ := exists_bankDelta_iff.mp ⟨d, hd⟩
    have hdefined : ∃ d', s.bankDelta time' = .ok d' :=
      exists_bankDelta_iff.mpr ⟨hfull, ⟨by omega, by omega⟩, by omega⟩
    obtain ⟨d', hd'⟩ := hdefined
    refine ⟨d', hd', ?_⟩
    rw [bankDelta_toInt hd, bankDelta_toInt hd', delta_reflect hmirror]

theorem bankDelta_beyond_tolerance_eleven_minutes :
    ∃ longer shorter d d' : Minutes, longer.toInt = 551 ∧ shorter.toInt = 529 ∧
      standard.bankDelta shorter = .ok d ∧ standard.bankDelta longer = .ok d' ∧ d ≤ d' ∧
      d'.toInt = 11 ∧ d'.toInt = -d.toInt := by
  have hshorter : standard.bankDelta { toInt := 529 } = .ok { toInt := -11 } := rfl
  have hlonger : standard.bankDelta { toInt := 551 } = .ok { toInt := 11 } := rfl
  obtain ⟨-, -, -, -, hmonotone, hmirror⟩ :=
    bankDelta_beyond_tolerance standard { toInt := 529 } { toInt := 551 }
  obtain ⟨d', hd', hopposite⟩ := hmirror _ hshorter rfl
  obtain rfl : { toInt := 11 } = d' := Except.ok.inj (hlonger.symm.trans hd')
  exact ⟨_, _, _, _, rfl, rfl, hshorter, hlonger, hmonotone _ _ hshorter hlonger (by decide), rfl,
    hopposite⟩

end Schedule

end HourBank
