import HourBank.Proofs.Day.Calendar
import HourBank.Proofs.Run.Stopping
import Mathlib.Data.List.Induction

/-! The journal of a run, read off its lines. Of the ledger that the run starts with it shows no
more than the open day, and after that the days are those that the lines themselves open. -/

namespace HourBank

/-- The day that is open after lines that were all taken. -/
def dayAfter (carried : Option Day) (lines : List Text) : Option Day :=
  ((Ledger.written lines).filterMap Command.date?).getLast?.or carried

/-- What the journal holds against opening a day after the one that is open, if one is. -/
def objections (previous : Option Day) (d : Day) : List Text :=
  (if 1 ≤ d.month.toNat ∧ 1 ≤ d.day.toNat ∧
      d.day.toNat ≤ (monthLengths d.year.toNat).getD (d.month.toNat - 1) 0 then []
    else ["WARN ".toList ++ d.text ++ " is not a valid calendar date".toList]) ++
  (previous.filter (d.NotAfter ·)).toList.map fun p =>
    "WARN ".toList ++ d.text ++ " does not come after ".toList ++ p.text

/-- A time in the journal is a bare count. -/
def counted (m : Minutes) : Text :=
  if m.toInt < 0 then "Minutes(-".toList ++ Text.decimal m.toInt.natAbs ++ ")".toList
  else "Minutes(".toList ++ Text.decimal m.toInt.natAbs ++ ")".toList

/-- A command with all it was given, under the names that the journal has for them. -/
def Command.named : Command → Text
  | .bank balance => "Banco(".toList ++ counted balance ++ ")".toList
  | .day date =>
    "Data(".toList ++
      ("Day \x7b year: ".toList ++ Text.decimal date.year.toNat ++
        ", month: ".toList ++ Text.decimal date.month.toNat ++
        ", day: ".toList ++ Text.decimal date.day.toNat ++ " \x7d".toList) ++ ")".toList
  | .punch clockIn clockOut =>
    "Ponto(".toList ++ counted clockIn ++ ", ".toList ++ counted clockOut ++ ")".toList
  | .estimate clockIn => "Estimate(".toList ++ counted clockIn ++ ")".toList
  | .dayOff => "DayOff".toList
  | .checkpoint => "BancoZero".toList

/-- A command is told of before it runs, so it makes no difference whether it is taken. -/
def told (previous : Option Day) (number : Nat) (line : Text) : List Text :=
  match Command.parseLine line with
  | .error _ => []
  | .ok none => ["TRACE line ".toList ++ Text.decimal number ++ ": skipped".toList]
  | .ok (some c) =>
    ("DEBUG applying ".toList ++ c.named) :: c.date?.toList.flatMap (objections previous)

/-- What the journal tells of lines numbered from one, each met with the day open before it. -/
def toldLines (carried : Option Day) (lines : List Text) : List Text :=
  lines.zipIdx.flatMap fun (line, i) => told (dayAfter carried (lines.take i)) (i + 1) line

theorem toldLines_concat (carried : Option Day) (lines : List Text) (line : Text) :
    toldLines carried (lines ++ [line]) =
      toldLines carried lines ++ told (dayAfter carried lines) (lines.length + 1) line := by
  have hearlier : (lines.zipIdx.map fun (earlier, i) =>
        told (dayAfter carried ((lines ++ [line]).take i)) (i + 1) earlier) =
      lines.zipIdx.map fun (earlier, i) =>
        told (dayAfter carried (lines.take i)) (i + 1) earlier := by
    refine List.map_congr_left ?_
    rintro ⟨earlier, i⟩ hentry
    have hi : i < lines.length := by
      simpa using List.snd_lt_of_mem_zipIdx hentry
    simp only [List.take_append_of_le_length (Nat.le_of_lt hi)]
  have hlast : (lines ++ [line]).take lines.length = lines := List.take_left
  rw [toldLines, List.zipIdx_append, List.flatMap_append, List.flatMap_def, hearlier,
    ← List.flatMap_def, toldLines]
  simp [hlast]

theorem count_eq_counted (m : Minutes) : Record.count m = counted m := by
  unfold Record.count counted
  split <;> rfl

theorem command_eq_named (c : Command) : Record.command c = c.named := by
  cases c with
  | bank balance => exact congrArg ("Banco(".toList ++ · ++ [')']) (count_eq_counted balance)
  | day date => rfl
  | punch clockIn clockOut =>
    exact congrArg₂ ("Ponto(".toList ++ · ++ ", ".toList ++ · ++ [')']) (count_eq_counted clockIn)
      (count_eq_counted clockOut)
  | estimate clockIn =>
    exact congrArg ("Estimate(".toList ++ · ++ [')']) (count_eq_counted clockIn)
  | dayOff => rfl
  | checkpoint => rfl

namespace Ledger

variable {l next : Ledger} {c : Command} {entries : List Entry}

theorem map_text_warnings (l : Ledger) (d : Day) :
    (l.warnings d).map Record.text = objections l.operatingDay d := by
  rw [warnings, List.map_append, objections, operatingDay]
  congr 1
  · by_cases hdate : d.IsDate
    · rw [if_pos hdate, if_pos (Day.isDate_iff.mp hdate), List.map_nil]
    · rw [if_neg hdate, if_neg (mt Day.isDate_iff.mpr hdate)]
      rfl
  · cases hcur : l.current with
    | none => rfl
    | some o =>
      have hlate : d ≤ o.day ↔ d.NotAfter o.day := Day.le_iff_notAfter
      rw [Option.map_some, Option.filter_some]
      by_cases hnotAfter : d.NotAfter o.day
      · simp only [hlate, hnotAfter]
        rfl
      · simp only [hlate, hnotAfter]
        rfl

theorem map_text_lineRecords (l : Ledger) (number : Nat) (line : Text) :
    (l.lineRecords number line).map Record.text = told l.operatingDay number line := by
  unfold lineRecords told
  cases Command.parseLine line with
  | error why => rfl
  | ok read =>
    cases read with
    | none => rfl
    | some c =>
      have happlying : (Record.applying c).text = "DEBUG applying ".toList ++ c.named :=
        congrArg (_ ++ ·) (command_eq_named c)
      cases c with
      | day date =>
        simp only [records, List.map_cons, map_text_warnings, Command.date?, Option.toList_some,
          List.flatMap_singleton]
        exact congrArg (· :: _) happlying
      | _ => exact congrArg (· :: []) happlying

theorem Takes.operatingDay_eq (h : l.Takes c next entries) :
    next.operatingDay = c.date?.or l.operatingDay := by
  cases h with
  | bank balance => rfl
  | day date hclose => rfl
  | punch clockIn clockOut hcur hworked htime => simp [operatingDay, hcur, Command.date?]
  | estimate clockIn hcur hfull hmissing htime htotal hout =>
    simp [operatingDay, hcur, Command.date?]
  | dayOff hcur hfits => rfl
  | checkpoint hcur => rfl

theorem operatingDay_of_readLines {lines : List Text} {past : History}
    (h : l.readLines lines = .ok (next, past)) :
    next.operatingDay = dayAfter l.operatingDay lines := by
  obtain ⟨hwritten, hfollow⟩ := readLines_eq_ok h
  have hday : next.operatingDay =
      (past.commands.filterMap Command.date?).getLast?.or l.operatingDay := by
    refine follow_invariant (P := fun past now => now.operatingDay =
      (past.commands.filterMap Command.date?).getLast?.or l.operatingDay) hfollow rfl ?_
    intro past now c next entries hnow htakes
    have hcommands : History.commands (past ++ [(c, entries)]) = History.commands past ++ [c] :=
      List.map_append
    have hlast : ([c].filterMap Command.date?).getLast? = c.date? := by
      cases hdate : c.date? <;> simp [hdate]
    rw [htakes.operatingDay_eq, hnow, hcommands, List.filterMap_append, List.getLast?_append,
      hlast, Option.or_assoc]
  rw [hday, hwritten, dayAfter]

end Ledger

namespace Run

theorem journal_append {l mid : Ledger} {before : List Text} {past : History}
    (h : l.readLines before = .ok (mid, past)) (rest : List Text) :
    (ofLines l 1 (before ++ rest)).journal.map Record.text =
      toldLines l.operatingDay before ++
        (ofLines mid (before.length + 1) rest).journal.map Record.text := by
  -- What is told of a line depends on all lines before it, so the lines are taken off at the end.
  induction before using List.reverseRecOn generalizing mid past rest with
  | nil =>
    obtain ⟨rfl, rfl⟩ := feed_nil_eq_ok_iff.mp h
    rfl
  | append_singleton before line ih =>
    obtain ⟨now, first, second, hbefore, hline, rfl⟩ := feed_append_eq_ok_iff.mp h
    rw [feed_singleton_eq_ok_iff] at hline
    rw [List.append_assoc, ih hbefore, List.singleton_append, ofLines_cons_of_ok hline,
      toldLines_concat, ← Ledger.operatingDay_of_readLines hbefore]
    simp [after, Ledger.map_text_lineRecords]

theorem journal_closing (l : Ledger) : (closing l).journal = [] := by
  unfold closing
  split <;> rfl

theorem journal_of_stopsAt {l : Ledger} {t : Text} {n : Nat} {line : Text} {past : History}
    {fault : Fault} (h : l.StopsAt t.lines n line past fault) :
    (ofText l t).journal.map Record.text = toldLines l.operatingDay (t.lines.take (n + 1)) := by
  obtain ⟨hline, mid, hpast, hfault⟩ := h
  obtain ⟨hn, rfl⟩ := List.getElem?_eq_some_iff.mp hline
  have hsplit : t.lines = t.lines.take n ++ t.lines[n] :: t.lines.drop (n + 1) := by
    rw [← List.drop_eq_getElem_cons hn, List.take_append_drop]
  have hday : mid.operatingDay = dayAfter l.operatingDay (t.lines.take n) :=
    Ledger.operatingDay_of_readLines hpast
  have hjournal := journal_append hpast (t.lines[n] :: t.lines.drop (n + 1))
  rw [← hsplit, ofLines_cons_of_error hfault, Ledger.map_text_lineRecords, hday] at hjournal
  rw [ofText, hjournal, List.take_succ_eq_append_getElem hn, toldLines_concat]

theorem journal_of_readLines {l last : Ledger} {t : Text} {past : History}
    (h : l.readLines t.lines = .ok (last, past)) :
    (ofText l t).journal.map Record.text = toldLines l.operatingDay t.lines := by
  have hjournal := journal_append h []
  rw [List.append_nil, ofLines, journal_closing, List.map_nil, List.append_nil] at hjournal
  exact hjournal

/-- The journal tells of the lines in order, the one that ends the run included, and of nothing
else: what comes after that line, or the last closing, leaves no record. -/
theorem journal_tells_lines (l : Ledger) (t : Text) :
    (∀ n line past fault, l.StopsAt t.lines n line past fault →
      (ofText l t).journal.map Record.text = toldLines l.operatingDay (t.lines.take (n + 1))) ∧
    ((∀ n line past fault, ¬ l.StopsAt t.lines n line past fault) →
      (ofText l t).journal.map Record.text = toldLines l.operatingDay t.lines) := by
  constructor
  · intro n line past fault hstop
    exact journal_of_stopsAt hstop
  · intro hnone
    cases hread : l.readLines t.lines with
    | error fault =>
      obtain ⟨n, line, past, hstop⟩ := exists_stopsAt_of_readLines_eq_error hread
      exact absurd hstop (hnone n line past fault)
    | ok result =>
      obtain ⟨last, past⟩ := result
      exact journal_of_readLines hread

/-- A full bank overflows when the open day is closed, after all has been said against the next. -/
theorem journal_tells_lines_overflow :
    ∃ l : Ledger, l.operatingDay = some ⟨2024, 3, 1⟩ ∧
      l.StopsAt (Text.lines "# note\nDATA 2024-02-30\nDAYOFF".toList) 1 "DATA 2024-02-30".toList []
        (.overflow .add) ∧
      (ofText l "# note\nDATA 2024-02-30\nDAYOFF".toList).journal.map Record.text =
        ["TRACE line 1: skipped",
          "DEBUG applying Data(Day \x7b year: 2024, month: 2, day: 30 \x7d)",
          "WARN 2024-02-30 is not a valid calendar date",
          "WARN 2024-02-30 does not come after 2024-03-01"].map String.toList ∧
      (ofText l "BANCO 0:30\nPONTO -0:30 9:00\nESTIMATE 10:00\nDAYOFF\nBANCOZERO\n".toList).journal.map
          Record.text =
        ["DEBUG applying Banco(Minutes(30))", "DEBUG applying Ponto(Minutes(-30), Minutes(540))",
          "DEBUG applying Estimate(Minutes(600))", "DEBUG applying DayOff",
          "DEBUG applying BancoZero", "TRACE line 6: skipped"].map String.toList := by
  let l : Ledger := { Ledger.start .standard with
    current := some ⟨⟨2024, 3, 1⟩, none, { toInt := 1000 }⟩
    bank := { toInt := 9223372036854775807 } }
  have hstop : l.StopsAt (Text.lines "# note\nDATA 2024-02-30\nDAYOFF".toList) 1
      "DATA 2024-02-30".toList [] (.overflow .add) := ⟨rfl, _, rfl, rfl⟩
  refine ⟨l, rfl, hstop, ?_, ?_⟩
  · rw [(journal_tells_lines l _).1 _ _ _ _ hstop]
    decide +kernel
  · rw [(journal_tells_lines l _).2 (not_stopsAt_of_readLines_eq_ok rfl)]
    decide +kernel

end Run

end HourBank
