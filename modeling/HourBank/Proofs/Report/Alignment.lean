import HourBank.Proofs.Report.Columns

/-! Report lines under one another. While what they show fits the places kept for it, their bars
stand below each other whatever the entries are, and so do the banks of closed days. -/

namespace HourBank

/-- Readings below a hundred hours, which take two digits of hours and no sign. -/
def Minutes.FitsClock (m : Minutes) : Prop := 0 ≤ m.toInt ∧ m.toInt ≤ 5999

namespace Text

/-- After the first of its occurrences a character stands where it does in what follows. -/
theorem getElem?_append_cons_iff {s t : Text} {c : Char} (hs : c ∉ s) (i : Nat) :
    (s ++ c :: t)[i]? = some c ↔
      i = s.length ∨ s.length < i ∧ t[i - (s.length + 1)]? = some c := by
  rcases Nat.lt_trichotomy i s.length with hlt | rfl | hgt
  · have hbefore : s[i]? ≠ some c := fun hc => hs (List.mem_of_getElem? hc)
    rw [List.getElem?_append_left hlt]
    exact iff_of_false hbefore (by omega)
  · rw [List.getElem?_append_right (Nat.le_refl _), Nat.sub_self, List.getElem?_cons_zero]
    exact iff_of_true rfl (.inl rfl)
  · have hindex : i - s.length = i - (s.length + 1) + 1 := by omega
    rw [List.getElem?_append_right (Nat.le_of_lt hgt), hindex, List.getElem?_cons_succ]
    exact ⟨fun h => .inr ⟨hgt, h⟩, fun h => (h.resolve_left (Nat.ne_of_gt hgt)).2⟩

end Text

namespace Entry

/-- What the first two columns show fits the places kept for it. -/
def FitsColumns : Entry → Prop
  | .dayOpened day => day.Fits
  | .punch clockIn clockOut worked => clockIn.FitsClock ∧ clockOut.FitsClock ∧ worked.FitsClock
  | .estimate clockIn expectedClockOut remaining =>
    clockIn.FitsClock ∧ expectedClockOut.FitsClock ∧ remaining.FitsClock
  | .dayOff => True
  | .checkpoint day _ => day.Fits
  | .dayClosed (some (clockIn, clockOut)) worked _ _ =>
    clockIn.FitsClock ∧ clockOut.FitsClock ∧ worked.FitsClock
  | .dayClosed none _ _ _ => True

theorem length_stretch {clockIn clockOut time : Minutes} (hclockIn : clockIn.FitsClock)
    (hclockOut : clockOut.FitsClock) (htime : time.FitsClock) :
    (stretch clockIn clockOut time).length = 24 := by
  have hin := Minutes.length_unsigned hclockIn.1 hclockIn.2
  have hout := Minutes.length_unsigned hclockOut.1 hclockOut.2
  have hlong := Minutes.length_unsigned htime.1 htime.2
  have harrow : arrow.length = 4 := rfl
  have hopening : " (T ".toList.length = 4 := rfl
  simp only [stretch, reached, List.length_append, List.length_singleton, hin, hout, hlong, harrow,
    hopening]

theorem length_dayLabel {day : Day} (h : day.Fits) : ("Dia ".toList ++ day.text).length = 14 := by
  rw [List.length_append, Day.length_text h]
  rfl

theorem lengths_of_cells_eq {e : Entry} (h : e.FitsColumns) {what clock bank : Text}
    (hrow : e.cells = row what clock bank) : what.length = 14 ∧ clock.length = 24 := by
  cases e with
  | dayOpened day =>
    obtain ⟨rfl, rfl, -⟩ := row_inj.mp hrow
    exact ⟨length_dayLabel h, rfl⟩
  | punch clockIn clockOut worked =>
    obtain ⟨rfl, rfl, -⟩ := row_inj.mp hrow
    exact ⟨rfl, length_stretch h.1 h.2.1 h.2.2⟩
  | estimate clockIn expectedClockOut remaining =>
    obtain ⟨rfl, rfl, -⟩ := row_inj.mp hrow
    exact ⟨rfl, length_stretch h.1 h.2.1 h.2.2⟩
  | dayOff =>
    obtain ⟨rfl, rfl, -⟩ := row_inj.mp hrow
    exact ⟨rfl, rfl⟩
  | checkpoint day bank =>
    obtain ⟨rfl, rfl, -⟩ := row_inj.mp hrow
    exact ⟨length_dayLabel h, rfl⟩
  | dayClosed span worked bankDelta bank =>
    obtain ⟨rfl, rfl, -⟩ := row_inj.mp hrow
    cases span with
    | none => exact ⟨rfl, rfl⟩
    | some span => exact ⟨rfl, length_stretch h.1 h.2.1 h.2.2⟩

theorem getElem?_text_eq_bar_iff {e : Entry} (h : e.FitsColumns) (i : Nat) :
    (e.text false)[i]? = some '|' ↔ i = 16 ∨ i = 45 := by
  obtain ⟨what, clock, bank, hrow, hwhat, hclock, hbank⟩ := e.exists_row
  obtain ⟨hlength, hlength'⟩ := lengths_of_cells_eq h hrow
  have hcolumn : column = "  ".toList ++ '|' :: "  ".toList := rfl
  have htext : e.text false = what ++ "  ".toList ++
      '|' :: ("  ".toList ++ clock ++ "  ".toList ++ '|' :: ("  ".toList ++ bank)) := by
    rw [text_of_cells_eq hrow, hcolumn]
    simp only [List.append_assoc, List.cons_append]
  have hblanks : IsCell "  ".toList := by decide
  have hbefore : IsCell (what ++ "  ".toList) := isCell_append.mpr ⟨hwhat, hblanks⟩
  have hbetween : IsCell ("  ".toList ++ clock ++ "  ".toList) :=
    isCell_append.mpr ⟨isCell_append.mpr ⟨hblanks, hclock⟩, hblanks⟩
  have hafter : IsCell ("  ".toList ++ bank) := isCell_append.mpr ⟨hblanks, hbank⟩
  have hnone : ∀ j : Nat, ("  ".toList ++ bank)[j]? ≠ some '|' :=
    fun j hj => hafter.bar_notMem (List.mem_of_getElem? hj)
  have hplace : (what ++ "  ".toList).length = 16 := by
    rw [List.length_append, hlength]
    rfl
  have hplace' : ("  ".toList ++ clock ++ "  ".toList).length = 28 := by
    rw [List.length_append, List.length_append, hlength']
    rfl
  rw [htext, Text.getElem?_append_cons_iff hbefore.bar_notMem,
    Text.getElem?_append_cons_iff hbetween.bar_notMem, hplace, hplace']
  simp only [hnone, and_false, or_false]
  omega

theorem drop_text_of_cells_eq {e : Entry} (h : e.FitsColumns) {what clock bank : Text}
    (hrow : e.cells = row what clock bank) : (e.text false).drop 48 = bank := by
  obtain ⟨hlength, hlength'⟩ := lengths_of_cells_eq h hrow
  have hcolumn : column.length = 5 := rfl
  have hplace : (what ++ column ++ (clock ++ column)).length = 48 := by
    simp only [List.length_append, hlength, hlength', hcolumn]
  rw [text_of_cells_eq hrow, ← List.append_assoc, List.drop_left' hplace]

/-- A movement takes the place of twelve blanks. -/
theorem drop_balance {blanks : Text} {bankDelta : Minutes} (h : bankDelta.toInt.natAbs ≤ 5999)
    (hblanks : bankDelta = .zero → blanks.length = 12) (bank : Minutes) :
    (balance blanks bankDelta bank).drop 12 = bankLabel ++ bank.signed := by
  by_cases hzero : bankDelta = .zero
  · subst hzero
    rw [balance_zero, List.drop_left' (hblanks rfl)]
  · have hlength : (deltaLabel ++ bankDelta.signed ++ "  ".toList).length = 12 := by
      rw [List.length_append, List.length_append, Minutes.length_signed h]
      rfl
    have hmoved : ¬ bankDelta.isZero = true := mt Minutes.isZero_iff.mp hzero
    rw [balance, if_neg hmoved, List.drop_left' hlength]

/-- The bars of a line stand at its places 16 and 45 and nowhere else. The bank of a closed day is
named at place 60, but for days that neither have a span nor move the bank. -/
theorem columns_line_up {e : Entry} (h : e.FitsColumns) :
    (∀ i, (e.text false)[i]? = some '|' ↔ i = 16 ∨ i = 45) ∧
    ∀ span worked bankDelta bank, e = .dayClosed span worked bankDelta bank →
      bankDelta.toInt.natAbs ≤ 5999 → (span = none → bankDelta ≠ .zero) →
      (e.text false).drop 60 = "Bh Tot. ".toList ++ bank.signed := by
  refine ⟨getElem?_text_eq_bar_iff h, ?_⟩
  rintro span worked bankDelta bank rfl hdelta hspan
  have hblanks : bankDelta = .zero → (still span).length = 12 := by
    intro hzero
    cases span with
    | none => exact absurd hzero (hspan rfl)
    | some _ => rfl
  have hplace : 60 = 48 + 12 := rfl
  rw [hplace, ← List.drop_drop, drop_text_of_cells_eq h rfl]
  exact drop_balance hdelta hblanks bank

theorem columns_line_up_at_the_widest :
    ∃ e : Entry, e.text false =
        "   Ponto Final  |  00:00 -> 99:59 (T 99:59)  |  BhΔ -99:59  Bh Tot. -100:00".toList ∧
      e.FitsColumns ∧ (∀ i, (e.text false)[i]? = some '|' ↔ i = 16 ∨ i = 45) ∧
      (e.text false).drop 60 = "Bh Tot. -100:00".toList := by
  let midnight : Minutes := { toInt := 0 }
  let limit : Minutes := { toInt := 5999 }
  have hmidnight : midnight.FitsClock := ⟨by decide, by decide⟩
  have hlimit : limit.FitsClock := ⟨by decide, by decide⟩
  have hfits : FitsColumns (.dayClosed (some (midnight, limit)) limit { toInt := -5999 }
      { toInt := -6000 }) := ⟨hmidnight, hlimit, hlimit⟩
  obtain ⟨hbars, hbank⟩ := columns_line_up hfits
  exact ⟨_, by decide +kernel, hfits, hbars, hbank _ _ _ _ rfl (by decide) (by simp)⟩

end Entry

end HourBank
