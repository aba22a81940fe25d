import HourBank.Proofs.Command.Grammar
import HourBank.Proofs.Run.Lines

/-! Where a run stops. The first line that is not taken ends the run, whatever comes after it. -/

namespace HourBank

/-- The ledger takes the first `n` lines, reporting `past`, and meets the next one with a fault. -/
def Ledger.StopsAt (l : Ledger) (lines : List Text) (n : Nat) (line : Text) (past : History)
    (fault : Fault) : Prop :=
  lines[n]? = some line ∧
    ∃ mid, l.readLines (lines.take n) = .ok (mid, past) ∧ mid.readLine line = .error fault

namespace Run

theorem ofText_of_stopsAt {l : Ledger} {lines : List Text} {n : Nat} {line : Text}
    {past : History} {fault : Fault} (h : l.StopsAt lines n line past fault) :
    ∃ journal, ∀ t : Text, t.lines.take (n + 1) = lines.take (n + 1) →
      ofText l t = ⟨past.entries, journal, .error (fault.stop (n + 1) line)⟩ := by
  obtain ⟨hline, mid, hpast, hfault⟩ := h
  obtain ⟨hn, rfl⟩ := List.getElem?_eq_some_iff.mp hline
  obtain ⟨journal, hj⟩ := ofLines_append hpast 1
  refine ⟨journal ++ mid.lineRecords (n + 1) lines[n], ?_⟩
  intro t ht
  have hsplit : t.lines = lines.take n ++ lines[n] :: t.lines.drop (n + 1) := by
    calc t.lines = t.lines.take (n + 1) ++ t.lines.drop (n + 1) := by rw [List.take_append_drop]
      _ = lines.take n ++ lines[n] :: t.lines.drop (n + 1) := by
        rw [ht, List.take_succ_eq_append_getElem hn, List.append_assoc, List.singleton_append]
  have hlen : 1 + (lines.take n).length = n + 1 := by
    rw [List.length_take_of_le (Nat.le_of_lt hn), Nat.add_comm]
  rw [ofText, hsplit, hj, hlen, ofLines_cons_of_error hfault]
  simp [after]

theorem exists_stopsAt_of_readLines_eq_error {l : Ledger} {lines : List Text} {fault : Fault}
    (h : l.readLines lines = .error fault) :
    ∃ n line past, l.StopsAt lines n line past fault := by
  obtain ⟨before, line, rest, mid, past, rfl, hpast, hfault⟩ := feed_split_of_error h
  refine ⟨before.length, line, past, by simp, mid, ?_, hfault⟩
  rw [List.take_left]
  exact hpast

theorem not_stopsAt_of_readLines_eq_ok {l last : Ledger} {lines : List Text} {all : History}
    (h : l.readLines lines = .ok (last, all)) (n : Nat) (line : Text) (past : History)
    (fault : Fault) : ¬ l.StopsAt lines n line past fault := by
  rintro ⟨hline, mid, hpast, hfault⟩
  obtain ⟨hn, rfl⟩ := List.getElem?_eq_some_iff.mp hline
  have hsplit : lines = lines.take n ++ lines[n] :: lines.drop (n + 1) := by
    rw [← List.drop_eq_getElem_cons hn, List.take_append_drop]
  rw [hsplit, Ledger.readLines, feed_append_eq_ok_iff] at h
  obtain ⟨mid', _, _, htake, hrest, -⟩ := h
  obtain ⟨rfl, -⟩ : mid = mid' ∧ past = _ := by
    simpa using hpast.symm.trans htake
  obtain ⟨_, _, _, hok, -⟩ := feed_cons_eq_ok_iff.mp hrest
  simp [hfault] at hok

/-- A run ends at the first line that its ledger does not take, with just the entries of the lines
before it, and nothing that follows that line matters. Where the line is refused, its number and
text come first and then what is said of it. When there is no such line, only the closing of the
last day can still overflow. -/
theorem stops_at_first_bad_line (l : Ledger) (t : Text) :
    (∀ n line past fault, l.StopsAt t.lines n line past fault →
      (ofText l t).entries = past.entries ∧
      (ofText l t).outcome = .error (fault.stop (n + 1) line) ∧
      (∀ why, fault = .refused why → ∃ f, fault.stop (n + 1) line = .failure f ∧
        f.context :: f.causes =
          ("line ".toList ++ Text.decimal (n + 1) ++ ": ".toList ++ line.trim) :: why.told) ∧
      ∀ t' : Text, t'.lines.take (n + 1) = t.lines.take (n + 1) → ofText l t' = ofText l t) ∧
    ((∀ n line past fault, ¬ l.StopsAt t.lines n line past fault) →
      ∃ last past, l.readLines t.lines = .ok (last, past) ∧
        ((∃ closed entry, last.close = .ok (closed, entry) ∧
            (ofText l t).entries = past.entries ++ entry.toList ∧
            (ofText l t).outcome = .ok closed) ∨
          ∃ operation, last.close = .error operation ∧
            (ofText l t).entries = past.entries ∧
            (ofText l t).outcome = .error (.overflow operation))) := by
  constructor
  · intro n line past fault h
    obtain ⟨journal, hrun⟩ := ofText_of_stopsAt h
    have ht := hrun t rfl
    refine ⟨by rw [ht], by rw [ht], ?_, ?_⟩
    · rintro why rfl
      exact ⟨_, rfl, congrArg (_ :: ·) why.message_cons_cause⟩
    · intro t' ht'
      rw [hrun t' ht', ht]
  · intro hnone
    cases hread : l.readLines t.lines with
    | error fault =>
      obtain ⟨n, line, past, hstop⟩ := exists_stopsAt_of_readLines_eq_error hread
      exact absurd hstop (hnone n line past fault)
    | ok result =>
      obtain ⟨last, past⟩ := result
      obtain ⟨journal, hrun⟩ := ofText_of_readLines hread
      refine ⟨last, past, rfl, ?_⟩
      cases hclose : last.close with
      | ok ending =>
        obtain ⟨closed, entry⟩ := ending
        rw [closing_of_ok hclose] at hrun
        exact Or.inl ⟨closed, entry, rfl, by rw [hrun]; rfl, by rw [hrun]; rfl⟩
      | error operation =>
        rw [closing_of_error hclose] at hrun
        exact Or.inr ⟨operation, rfl, by simp [hrun, after], by rw [hrun]; rfl⟩

theorem stops_at_first_bad_line_of_three :
    ∃ f, (Ledger.start .standard).StopsAt
        (Text.lines "DATA 2024-01-01\n\tPONTO 09:00 18h\nDAYOFF".toList) 1 "\tPONTO 09:00 18h".toList
        [(.day ⟨2024, 1, 1⟩, [.dayOpened ⟨2024, 1, 1⟩])]
        (.refused (.malformed .punch (.time "18h".toList))) ∧
      (ofText (.start .standard) "DATA 2024-01-01\n\tPONTO 09:00 18h\nDAYOFF".toList).entries =
        [.dayOpened ⟨2024, 1, 1⟩] ∧
      (ofText (.start .standard) "DATA 2024-01-01\n\tPONTO 09:00 18h\nDAYOFF".toList).outcome =
        .error (.failure f) ∧
      f.context :: f.causes =
        ["line 2: PONTO 09:00 18h",
          "PONTO: unable to parse time `18h' (HH:MM, may be negative)",
          "unable to parse time `18h' (HH:MM, may be negative)"].map String.toList ∧
      (ofText (.start .standard)
        "BANCO 153722867280912930:07\nDATA 2024-01-01\nPONTO 08:00 19:00".toList).outcome =
        .error (.overflow .add) := by
  have hstop : (Ledger.start .standard).StopsAt
      (Text.lines "DATA 2024-01-01\n\tPONTO 09:00 18h\nDAYOFF".toList) 1 "\tPONTO 09:00 18h".toList
      [(.day ⟨2024, 1, 1⟩, [.dayOpened ⟨2024, 1, 1⟩])]
      (.refused (.malformed .punch (.time "18h".toList))) :=
    ⟨rfl, _, rfl, rfl⟩
  obtain ⟨hentries, houtcome, htold, -⟩ := (stops_at_first_bad_line _ _).1 _ _ _ _ hstop
  obtain ⟨f, hf, hchain⟩ := htold _ rfl
  rw [hf] at houtcome
  refine ⟨f, hstop, hentries, houtcome, ?_, ?_⟩
  · rw [hchain]
    decide +kernel
  · obtain ⟨last, past, hread, hend⟩ := (stops_at_first_bad_line (.start .standard)
      "BANCO 153722867280912930:07\nDATA 2024-01-01\nPONTO 08:00 19:00".toList).2
      (not_stopsAt_of_readLines_eq_ok rfl)
    rcases hend with ⟨closed, entry, hclose, -, -⟩ | ⟨operation, hclose, -, hout⟩
    · cases hread
      cases hclose
    · cases hread
      cases hclose
      exact hout

end Run

end HourBank
