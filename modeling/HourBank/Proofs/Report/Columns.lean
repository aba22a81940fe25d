import HourBank.Proofs.Day.Written
import HourBank.Proofs.Minutes.Written
import HourBank.Report

/-! The three columns of a report line. Split at its bars, a line gives back its columns, and they
determine the entry but for the time worked on a day without a span, which no line shows. -/

namespace HourBank

theorem Piece.render_false (p : Piece) : p.render false = p.text := by
  unfold render
  cases p.style <;> rfl

namespace Entry

/-- What stands before, between and after the bars of a line with these columns. -/
def row (what clock bank : Text) : List Text :=
  [what ++ "  ".toList, "  ".toList ++ clock ++ "  ".toList, "  ".toList ++ bank]

/-- From a clock reading to another, and the time it took. -/
def stretch (clockIn clockOut time : Minutes) : Text :=
  clockIn.unsigned ++ arrow ++ reached clockOut time

def spanned (span : Option (Minutes × Minutes)) (worked : Minutes) : Text :=
  match span with
  | some (clockIn, clockOut) => stretch clockIn clockOut worked
  | none => noSpan

/-- The bank after it moved, or after these blanks where it did not. -/
def balance (blanks : Text) (bankDelta bank : Minutes) : Text :=
  (if bankDelta.isZero then blanks else deltaLabel ++ bankDelta.signed ++ "  ".toList) ++
    (bankLabel ++ bank.signed)

/-- The blanks for a movement. Only beside a span do they take its place. -/
def still (span : Option (Minutes × Minutes)) : Text :=
  match span with
  | some _ => List.replicate 12 ' '
  | none => "  ".toList

def cells : Entry → List Text
  | .dayOpened day => row ("Dia ".toList ++ day.text) noSpan []
  | .punch clockIn clockOut worked =>
    row "         Ponto".toList (stretch clockIn clockOut worked) []
  | .estimate clockIn expectedClockOut remaining =>
    row "    Estimativa".toList (stretch clockIn expectedClockOut remaining) []
  | .dayOff => row "              ".toList "Dia off                 ".toList []
  | .checkpoint day bank =>
    row ("Dia ".toList ++ day.text) "----- Zerar Banco! -----".toList (bankLabel ++ bank.signed)
  | .dayClosed span worked bankDelta bank =>
    row ("   ".toList ++ "Ponto Final".toList) (spanned span worked)
      (balance (still span) bankDelta bank)

theorem intercalate_row (what clock bank : Text) :
    ['|'].intercalate (row what clock bank) = what ++ column ++ (clock ++ column ++ bank) := by
  have hcolumn : column = "  ".toList ++ ['|'] ++ "  ".toList := rfl
  simp only [row, List.intercalate_cons_cons, List.intercalate_singleton, hcolumn,
    List.append_assoc]

theorem bareMovement_append (bankDelta bank : Minutes) :
    bareMovement bankDelta ++ (bankLabel ++ bank.signed) = balance "  ".toList bankDelta bank := by
  unfold bareMovement balance
  cases bankDelta.isZero with
  | false => rfl
  | true => rw [if_pos rfl, if_pos rfl, List.nil_append]

theorem text_eq_intercalate (e : Entry) : e.text false = ['|'].intercalate e.cells := by
  simp only [text, renderAll, Piece.render_false]
  cases e with
  | dayClosed span worked bankDelta bank =>
    cases span with
    | none =>
      simp only [pieces, List.flatMap_cons, List.flatMap_nil, Piece.plain, Piece.inStyle, cells,
        spanned, still, intercalate_row, bareMovement_append, List.append_assoc, List.append_nil]
    | some span =>
      simp only [pieces, List.flatMap_cons, List.flatMap_nil, Piece.plain, Piece.inStyle, cells,
        spanned, still, intercalate_row, balance, movement, stretch, List.append_assoc,
        List.append_nil]
  | _ =>
    simp only [pieces, List.flatMap_cons, List.flatMap_nil, Piece.plain, Piece.inStyle, cells,
      intercalate_row, stretch, List.append_assoc, List.append_nil]

theorem text_of_cells_eq {e : Entry} {what clock bank : Text} (h : e.cells = row what clock bank) :
    e.text false = what ++ column ++ (clock ++ column ++ bank) := by
  rw [text_eq_intercalate, h, intercalate_row]

/-- Fit to stand in a column. -/
def IsCell (t : Text) : Prop := ∀ c ∈ t, c ≠ '|' ∧ c ≠ '\n'

instance (t : Text) : Decidable (IsCell t) := List.decidableBAll (fun c => c ≠ '|' ∧ c ≠ '\n') t

theorem isCell_append {a b : Text} : IsCell (a ++ b) ↔ IsCell a ∧ IsCell b :=
  List.forall_mem_append

theorem IsCell.bar_notMem {t : Text} (h : IsCell t) : '|' ∉ t := fun hbar => (h '|' hbar).1 rfl

theorem IsCell.newline_notMem {t : Text} (h : IsCell t) : '\n' ∉ t :=
  fun hend => (h '\n' hend).2 rfl

theorem ne_of_isDigit {c : Char} (h : c.isDigit = true) : c ≠ '|' ∧ c ≠ '\n' :=
  ⟨by rintro rfl; simp at h, by rintro rfl; simp at h⟩

theorem isCell_form {m : Minutes} {a : Text} (ha : a ∈ m.forms) : IsCell a :=
  Minutes.forall_mem_form (fun _ => ne_of_isDigit) (by simp) ha

theorem isCell_day (d : Day) : IsCell d.text :=
  Day.forall_mem_text (fun _ => ne_of_isDigit) (by decide) d

theorem isCell_stretch (clockIn clockOut time : Minutes) : IsCell (stretch clockIn clockOut time) := by
  simp only [stretch, reached, isCell_append]
  exact ⟨⟨isCell_form clockIn.unsigned_mem_forms, by decide⟩,
    ⟨⟨isCell_form clockOut.unsigned_mem_forms, by decide⟩,
      isCell_form time.unsigned_mem_forms⟩, by decide⟩

theorem isCell_bank (bank : Minutes) : IsCell (bankLabel ++ bank.signed) :=
  isCell_append.mpr ⟨by decide, isCell_form bank.signed_mem_forms⟩

theorem isCell_balance {blanks : Text} (hblanks : IsCell blanks) (bankDelta bank : Minutes) :
    IsCell (balance blanks bankDelta bank) := by
  refine isCell_append.mpr ⟨?_, isCell_bank bank⟩
  split
  · exact hblanks
  · exact isCell_append.mpr
      ⟨isCell_append.mpr ⟨by decide, isCell_form bankDelta.signed_mem_forms⟩, by decide⟩

theorem exists_row (e : Entry) : ∃ what clock bank, e.cells = row what clock bank ∧ IsCell what ∧
    IsCell clock ∧ IsCell bank := by
  have hday : ∀ day : Day, IsCell ("Dia ".toList ++ day.text) :=
    fun day => isCell_append.mpr ⟨by decide, isCell_day day⟩
  cases e with
  | dayOpened day => exact ⟨_, _, _, rfl, hday day, by decide, by decide⟩
  | punch clockIn clockOut worked =>
    exact ⟨_, _, _, rfl, by decide, isCell_stretch _ _ _, by decide⟩
  | estimate clockIn expectedClockOut remaining =>
    exact ⟨_, _, _, rfl, by decide, isCell_stretch _ _ _, by decide⟩
  | dayOff => exact ⟨_, _, _, rfl, by decide, by decide, by decide⟩
  | checkpoint day bank => exact ⟨_, _, _, rfl, hday day, by decide, isCell_bank bank⟩
  | dayClosed span worked bankDelta bank =>
    refine ⟨_, _, _, rfl, by decide, ?_, isCell_balance ?_ _ _⟩
    · cases span with
      | none => exact (by decide : IsCell noSpan)
      | some span => exact isCell_stretch _ _ _
    · cases span with
      | none => exact (by decide : IsCell "  ".toList)
      | some span => exact (by decide : IsCell (List.replicate 12 ' '))

theorem splitOn_text (e : Entry) : (e.text false).splitOn '|' = e.cells := by
  obtain ⟨what, clock, bank, hrow, hwhat, hclock, hbank⟩ := e.exists_row
  rw [text_eq_intercalate, hrow]
  refine List.splitOn_intercalate '|' ?_ (List.cons_ne_nil _ _)
  have hblanks : IsCell "  ".toList := by decide
  have hcells : ∀ t ∈ row what clock bank, IsCell t := by
    simp only [row, List.forall_mem_cons, isCell_append]
    exact ⟨⟨hwhat, hblanks⟩, ⟨⟨hblanks, hclock⟩, hblanks⟩, ⟨hblanks, hbank⟩, by simp⟩
  exact fun t ht => (hcells t ht).bar_notMem

theorem newline_notMem_text (e : Entry) : '\n' ∉ e.text false := by
  obtain ⟨what, clock, bank, hrow, hwhat, hclock, hbank⟩ := e.exists_row
  have hcolumn : '\n' ∉ column := by decide
  rw [text_of_cells_eq hrow]
  simp only [List.mem_append, not_or]
  exact ⟨⟨hwhat.newline_notMem, hcolumn⟩, ⟨hclock.newline_notMem, hcolumn⟩, hbank.newline_notMem⟩

theorem row_inj {what clock bank what' clock' bank' : Text} :
    row what clock bank = row what' clock' bank' ↔
      what = what' ∧ clock = clock' ∧ bank = bank' := by
  simp only [row, List.cons.injEq, List.append_cancel_left_eq, List.append_cancel_right_eq,
    and_true]

theorem form_append_inj {m n : Minutes} {a b s t : Text} (ha : a ∈ m.forms) (hb : b ∈ n.forms)
    (hs : ∀ c ∈ s.head?, Text.isBlank c = true) (ht : ∀ c ∈ t.head?, Text.isBlank c = true)
    (h : a ++ s = b ++ t) : a = b ∧ s = t :=
  Text.append_inj_of_stop (Minutes.isWord_of_mem_forms ha).2 (Minutes.isWord_of_mem_forms hb).2
    hs ht h

theorem stretch_inj {clockIn clockOut time clockIn' clockOut' time' : Minutes}
    (h : stretch clockIn clockOut time = stretch clockIn' clockOut' time') :
    clockIn = clockIn' ∧ clockOut = clockOut' ∧ time = time' := by
  have harrow : ∀ t, ∀ c ∈ (arrow ++ t).head?, Text.isBlank c = true := by
    simp [arrow, Text.isBlank]
  have hopening : ∀ t, ∀ c ∈ (" (T ".toList ++ t).head?, Text.isBlank c = true := by
    simp [Text.isBlank]
  simp only [stretch, reached, List.append_assoc] at h
  obtain ⟨hclockIn, h⟩ := form_append_inj clockIn.unsigned_mem_forms clockIn'.unsigned_mem_forms
    (harrow _) (harrow _) h
  obtain ⟨hclockOut, h⟩ := form_append_inj clockOut.unsigned_mem_forms
    clockOut'.unsigned_mem_forms (hopening _) (hopening _) (List.append_cancel_left h)
  have htime := List.append_cancel_right (List.append_cancel_left h)
  exact ⟨Minutes.unsigned_injective hclockIn, Minutes.unsigned_injective hclockOut,
    Minutes.unsigned_injective htime⟩

theorem bank_inj {bank bank' : Minutes} (h : bankLabel ++ bank.signed = bankLabel ++ bank'.signed) :
    bank = bank' :=
  Minutes.signed_injective (List.append_cancel_left h)

theorem balance_zero (blanks : Text) (bank : Minutes) :
    balance blanks .zero bank = blanks ++ (bankLabel ++ bank.signed) := rfl

theorem balance_of_ne_zero {bankDelta : Minutes} (h : bankDelta ≠ .zero) (blanks : Text)
    (bank : Minutes) : balance blanks bankDelta bank =
      deltaLabel ++ (bankDelta.signed ++ ("  ".toList ++ (bankLabel ++ bank.signed))) := by
  have hmoved : ¬ bankDelta.isZero = true := mt Minutes.isZero_iff.mp h
  simp only [balance, if_neg hmoved, List.append_assoc]

/-- Blanks are not taken for a movement, whose label is no blank. -/
theorem balance_zero_ne {blanks : Text} (hblanks : blanks.head? = some ' ') {bankDelta : Minutes}
    (h : bankDelta ≠ .zero) (bank bank' : Minutes) :
    balance blanks .zero bank ≠ balance blanks bankDelta bank' := by
  intro heq
  rw [balance_zero, balance_of_ne_zero h] at heq
  have hhead := congrArg List.head? heq
  simp [hblanks, deltaLabel] at hhead

theorem balance_inj {blanks : Text} (hblanks : blanks.head? = some ' ')
    {bankDelta bank bankDelta' bank' : Minutes}
    (h : balance blanks bankDelta bank = balance blanks bankDelta' bank') :
    bankDelta = bankDelta' ∧ bank = bank' := by
  by_cases hdelta : bankDelta = .zero
  · subst hdelta
    by_cases hdelta' : bankDelta' = .zero
    · subst hdelta'
      rw [balance_zero, balance_zero] at h
      exact ⟨rfl, bank_inj (List.append_cancel_left h)⟩
    · exact absurd h (balance_zero_ne hblanks hdelta' _ _)
  · by_cases hdelta' : bankDelta' = .zero
    · subst hdelta'
      exact absurd h.symm (balance_zero_ne hblanks hdelta _ _)
    · have hgap : ∀ t, ∀ c ∈ ("  ".toList ++ t).head?, Text.isBlank c = true := by
        simp [Text.isBlank]
      rw [balance_of_ne_zero hdelta, balance_of_ne_zero hdelta'] at h
      obtain ⟨hmoved, hrest⟩ := form_append_inj bankDelta.signed_mem_forms
        bankDelta'.signed_mem_forms (hgap _) (hgap _) (List.append_cancel_left h)
      exact ⟨Minutes.signed_injective hmoved, bank_inj (List.append_cancel_left hrest)⟩

/-- All that the entry tells stands in its line. -/
def HidesNothing (e : Entry) : Prop :=
  ∀ worked bankDelta bank, e = .dayClosed none worked bankDelta bank → worked = .zero

theorem stretch_ne_noSpan (clockIn clockOut time : Minutes) :
    stretch clockIn clockOut time ≠ noSpan := by
  intro h
  have harrow : '>' ∈ stretch clockIn clockOut time := by simp [stretch, arrow]
  rw [h] at harrow
  exact absurd harrow (by decide)

theorem spanned_inj {span span' : Option (Minutes × Minutes)} {worked worked' : Minutes}
    (h : spanned span worked = spanned span' worked') :
    span = span' ∧ (span ≠ none → worked = worked') := by
  cases span with
  | none =>
    cases span' with
    | none => exact ⟨rfl, fun hspan => absurd rfl hspan⟩
    | some _ => exact absurd h.symm (stretch_ne_noSpan _ _ _)
  | some _ =>
    cases span' with
    | none => exact absurd h (stretch_ne_noSpan _ _ _)
    | some _ =>
      obtain ⟨hclockIn, hclockOut, hworked⟩ := stretch_inj h
      exact ⟨congrArg some (Prod.ext hclockIn hclockOut), fun _ => hworked⟩

theorem head?_still (span : Option (Minutes × Minutes)) : (still span).head? = some ' ' := by
  cases span <;> rfl

theorem dayClosed_eq_of_cells_eq {span span' : Option (Minutes × Minutes)}
    {worked bankDelta bank worked' bankDelta' bank' : Minutes}
    (he : HidesNothing (.dayClosed span worked bankDelta bank))
    (he' : HidesNothing (.dayClosed span' worked' bankDelta' bank'))
    (h : cells (.dayClosed span worked bankDelta bank) =
      cells (.dayClosed span' worked' bankDelta' bank')) :
    Entry.dayClosed span worked bankDelta bank = .dayClosed span' worked' bankDelta' bank' := by
  obtain ⟨-, hclock, hbank⟩ := row_inj.mp h
  obtain ⟨rfl, hworked⟩ := spanned_inj hclock
  obtain ⟨rfl, rfl⟩ := balance_inj (head?_still span) hbank
  suffices worked = worked' by rw [this]
  cases span with
  | none => exact (he _ _ _ rfl).trans (he' _ _ _ rfl).symm
  | some _ => exact hworked (Option.some_ne_none _)

theorem eq_of_cells_eq {e e' : Entry} (he : e.HidesNothing) (he' : e'.HidesNothing)
    (h : e.cells = e'.cells) : e = e' := by
  -- Two rows that begin alike are of one kind, but for the opening and the check of a day.
  cases e with
  | dayOpened day =>
    cases e' with
    | dayOpened day' =>
      obtain ⟨hwhat, -, -⟩ := row_inj.mp h
      rw [Day.text_injective (List.append_cancel_left hwhat)]
    | checkpoint day' bank' =>
      obtain ⟨-, hclock, -⟩ := row_inj.mp h
      exact absurd hclock (by decide)
    | _ => exact absurd (row_inj.mp h).1 (by simp)
  | punch clockIn clockOut worked =>
    cases e' with
    | punch clockIn' clockOut' worked' =>
      obtain ⟨-, hclock, -⟩ := row_inj.mp h
      obtain ⟨rfl, rfl, rfl⟩ := stretch_inj hclock
      rfl
    | _ => exact absurd (row_inj.mp h).1 (by simp)
  | estimate clockIn expectedClockOut remaining =>
    cases e' with
    | estimate clockIn' expectedClockOut' remaining' =>
      obtain ⟨-, hclock, -⟩ := row_inj.mp h
      obtain ⟨rfl, rfl, rfl⟩ := stretch_inj hclock
      rfl
    | _ => exact absurd (row_inj.mp h).1 (by simp)
  | dayOff =>
    cases e' with
    | dayOff => rfl
    | _ => exact absurd (row_inj.mp h).1 (by simp)
  | checkpoint day bank =>
    cases e' with
    | checkpoint day' bank' =>
      obtain ⟨hwhat, -, hbank⟩ := row_inj.mp h
      rw [Day.text_injective (List.append_cancel_left hwhat), bank_inj hbank]
    | dayOpened day' =>
      obtain ⟨-, hclock, -⟩ := row_inj.mp h
      exact absurd hclock (by decide)
    | _ => exact absurd (row_inj.mp h).1 (by simp)
  | dayClosed span worked bankDelta bank =>
    cases e' with
    | dayClosed span' worked' bankDelta' bank' => exact dayClosed_eq_of_cells_eq he he' h
    | _ => exact absurd (row_inj.mp h).1 (by simp)

theorem eq_of_text_eq {e e' : Entry} (he : e.HidesNothing) (he' : e'.HidesNothing)
    (h : e.text false = e'.text false) : e = e' := by
  apply eq_of_cells_eq he he'
  rw [← splitOn_text, h, splitOn_text]

end Entry

end HourBank
