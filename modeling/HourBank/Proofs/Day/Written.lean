import HourBank.Proofs.Day.Read
import HourBank.Proofs.Text.Words

/-! Days written and read back. Just the texts of days whose numbers fit their places are read, each
as the day it was written for. -/

namespace HourBank.Day

/-- Days whose numbers fit the places they are written in. -/
def Fits (d : Day) : Prop := d.year.toNat ≤ 9999 ∧ d.month.toNat ≤ 99 ∧ d.day.toNat ≤ 99

namespace Spelling

theorem text_date (s : Spelling) : s.date.text = s.token := by
  have hyear : Text.padded 4 (Text.value s.year) = s.year := s.fills_year.padded_value (by decide)
  have hmonth : Text.padded 2 (Text.value s.month) = s.month :=
    s.fills_month.padded_value (by decide)
  have hday : Text.padded 2 (Text.value s.day) = s.day := s.fills_day.padded_value (by decide)
  rw [Day.text, toNat_year, toNat_month, toNat_day, hyear, hmonth, hday, token]

theorem fits_date (s : Spelling) : s.date.Fits := by
  have hyear : Text.value s.year < 10 ^ 4 := s.fills_year.value_lt (by decide)
  have hmonth : Text.value s.month < 10 ^ 2 := s.fills_month.value_lt (by decide)
  have hday : Text.value s.day < 10 ^ 2 := s.fills_day.value_lt (by decide)
  rw [Day.Fits, toNat_year, toNat_month, toNat_day]
  omega

/-- A day that fits has the digits of its text for a spelling. -/
def ofFits (d : Day) (h : d.Fits) : Spelling where
  year := Text.padded 4 d.year.toNat
  month := Text.padded 2 d.month.toNat
  day := Text.padded 2 d.day.toNat
  fills_year := Text.fills_padded (by decide) (Nat.lt_succ_of_le h.1)
  fills_month := Text.fills_padded (by decide) (Nat.lt_succ_of_le h.2.1)
  fills_day := Text.fills_padded (by decide) (Nat.lt_succ_of_le h.2.2)

theorem date_ofFits {d : Day} (h : d.Fits) : (ofFits d h).date = d := by
  have hyear : (ofFits d h).date.year = d.year :=
    UInt16.toNat_inj.mp ((toNat_year _).trans (Text.value_padded _ _))
  have hmonth : (ofFits d h).date.month = d.month :=
    UInt8.toNat_inj.mp ((toNat_month _).trans (Text.value_padded _ _))
  have hday : (ofFits d h).date.day = d.day :=
    UInt8.toNat_inj.mp ((toNat_day _).trans (Text.value_padded _ _))
  exact Day.ext hyear hmonth hday

end Spelling

theorem read?_eq_some_iff_text {t : Text} {d : Day} :
    read? t = some d ↔ t = d.text ∧ d.Fits := by
  rw [read?_eq_some_iff]
  constructor
  · rintro ⟨s, rfl, rfl⟩
    exact ⟨s.text_date.symm, s.fits_date⟩
  · rintro ⟨rfl, hfits⟩
    exact ⟨.ofFits d hfits, rfl, Spelling.date_ofFits hfits⟩

theorem read?_text {d : Day} (h : d.Fits) : read? d.text = some d :=
  read?_eq_some_iff_text.mpr ⟨rfl, h⟩

theorem parse_text {d : Day} (h : d.Fits) : parse d.text = .ok d := by
  simp [parse, read?_text h]

theorem length_text {d : Day} (h : d.Fits) : d.text.length = 10 := by
  obtain ⟨hyear, hmonth, hday⟩ := h
  have hyear' := Text.length_padded (by decide : 0 < 4) (Nat.lt_succ_of_le hyear)
  have hmonth' := Text.length_padded (by decide : 0 < 2) (Nat.lt_succ_of_le hmonth)
  have hday' := Text.length_padded (by decide : 0 < 2) (Nat.lt_succ_of_le hday)
  simp only [text, List.length_append, List.length_cons, hyear', hmonth', hday']

theorem text_injective : Function.Injective text := by
  intro d e h
  have hdigits : ∀ width n, ∀ c ∈ Text.padded width n, (!c.isDigit) = false := by
    intro width n c hc
    rw [Text.isDigit_of_mem_padded hc, Bool.not_true]
  simp only [text, List.append_assoc, List.cons_append] at h
  obtain ⟨hyear, hrest⟩ :=
    Text.append_inj_of_stop (hdigits _ _) (hdigits _ _) (by simp) (by simp) h
  obtain ⟨hmonth, hrest⟩ :=
    Text.append_inj_of_stop (hdigits _ _) (hdigits _ _) (by simp) (by simp) (List.cons.inj hrest).2
  have hday := (List.cons.inj hrest).2
  rw [Day.ext_iff]
  exact ⟨UInt16.toNat_inj.mp (Text.padded_injective 4 hyear),
    UInt8.toNat_inj.mp (Text.padded_injective 2 hmonth),
    UInt8.toNat_inj.mp (Text.padded_injective 2 hday)⟩

theorem mem_of_mem_text {d : Day} {c : Char} (hc : c ∈ d.text) : c.isDigit = true ∨ c = '-' := by
  simp only [text, List.mem_append, List.mem_cons] at hc
  rcases hc with (hyear | rfl | hmonth) | rfl | hday
  · exact .inl (Text.isDigit_of_mem_padded hyear)
  · exact .inr rfl
  · exact .inl (Text.isDigit_of_mem_padded hmonth)
  · exact .inr rfl
  · exact .inl (Text.isDigit_of_mem_padded hday)

theorem forall_mem_text {p : Char → Prop} (hdigits : ∀ c : Char, c.isDigit = true → p c)
    (hdash : p '-') (d : Day) : ∀ c ∈ d.text, p c := by
  intro c hc
  rcases mem_of_mem_text hc with hdigit | rfl
  · exact hdigits c hdigit
  · exact hdash

theorem isWord_text (d : Day) : Text.IsWord d.text := by
  constructor
  · exact List.append_ne_nil_of_left_ne_nil
      (List.append_ne_nil_of_left_ne_nil (Text.padded_ne_nil _ _) _) _
  · exact forall_mem_text (fun _ => Text.not_blank_of_isDigit) (by decide) d

theorem read?_eq_none_iff {t : Text} : read? t = none ↔ ∀ d : Day, d.Fits → d.text ≠ t := by
  constructor
  · rintro hnone d hfits rfl
    simp [read?_text hfits] at hnone
  · intro hother
    cases hread : read? t with
    | none => rfl
    | some d =>
      obtain ⟨rfl, hfits⟩ := read?_eq_some_iff_text.mp hread
      exact absurd rfl (hother d hfits)

/-- Wider numbers are written with more digits than are read, so what they are written as is the
text of no other day either. -/
theorem read?_text_of_not_fits {d : Day} (h : ¬ d.Fits) : read? d.text = none := by
  refine read?_eq_none_iff.mpr ?_
  intro e hfits htext
  obtain rfl : e = d := text_injective htext
  exact h hfits

/-- Reading undoes writing on the days that fit, and refuses every text but theirs as it stands. The
numbers of a day are those that the digits of its token write, none of them cut short. -/
theorem parse_inverts_text (t : Text) :
    (∀ d, parse t = .ok d ↔ t = d.text ∧ d.Fits) ∧
    (∀ e, parse t = .error e ↔ e = .date t ∧ ∀ d : Day, d.Fits → d.text ≠ t) ∧
    (∀ d : Day, ¬ d.Fits → parse d.text = .error (.date d.text)) ∧
    (∀ d, parse t = .ok d → ∃ s : Spelling, s.token = t) ∧
    ∀ s : Spelling, s.token = t → ∃ d, parse t = .ok d ∧ d.year.toNat = Text.value s.year ∧
      d.month.toNat = Text.value s.month ∧ d.day.toNat = Text.value s.day := by
  refine ⟨?_, ?_, ?_, ?_, ?_⟩
  · intro d
    rw [parse_eq_ok_iff_read?, read?_eq_some_iff_text]
  · intro e
    rw [parse_eq_error_iff, read?_eq_none_iff]
  · intro d hwide
    exact parse_eq_error_iff.mpr ⟨rfl, read?_text_of_not_fits hwide⟩
  · intro d hread
    exact exists_spelling_of_read? (parse_eq_ok_iff_read?.mp hread)
  · rintro s rfl
    exact ⟨s.date, parse_eq_ok_iff_read?.mpr s.read?_token, s.toNat_year, s.toNat_month,
      s.toNat_day⟩

/-- A month of three digits, and one that no year has. -/
theorem parse_inverts_text_odd_months :
    ∃ d e : Day, d.text = "2024-100-01".toList ∧ ¬ d.Fits ∧
      parse d.text = .error (.date d.text) ∧ e.Fits ∧ e.text = "0000-13-45".toList ∧
      parse "0000-13-45".toList = .ok e ∧ ∃ s : Spelling, s.token = "0000-13-45".toList := by
  have hwide : ¬ Fits ⟨2024, 100, 1⟩ := fun h => absurd h.2.1 (by decide)
  have hfits : Fits ⟨0, 13, 45⟩ := ⟨by decide, by decide, by decide⟩
  have hread : parse "0000-13-45".toList = .ok ⟨0, 13, 45⟩ :=
    ((parse_inverts_text "0000-13-45".toList).1 _).mpr ⟨rfl, hfits⟩
  obtain ⟨-, -, hrefused, -, -⟩ := parse_inverts_text (text ⟨2024, 100, 1⟩)
  obtain ⟨-, -, -, hspelled, -⟩ := parse_inverts_text "0000-13-45".toList
  exact ⟨_, _, rfl, hwide, hrefused _ hwide, hfits, rfl, hread, hspelled _ hread⟩

end HourBank.Day
