import HourBank.Proofs.Ledger.History
import HourBank.Run

/-! The lines of a run, each met by the ledger that the lines before it led to. -/

namespace HourBank

namespace Ledger

/-- Takes a line. One without a command changes nothing. -/
def readLine (l : Ledger) (line : Text) : Except Fault (Ledger × History) :=
  match Command.parseLine line with
  | .error why => .error (.refused why)
  | .ok none => .ok (l, [])
  | .ok (some c) => l.perform c

def readLines (l : Ledger) (lines : List Text) : Except Fault (Ledger × History) :=
  feed readLine l lines

/-- The commands written in lines. A line that is refused holds none. -/
def written (lines : List Text) : List Command :=
  lines.filterMap fun line => (Command.parseLine line).toOption.join

theorem readLine_eq_ok {l next : Ledger} {line : Text} {report : History}
    (h : l.readLine line = .ok (next, report)) :
    report.commands = written [line] ∧ l.follow report.commands = .ok (next, report) := by
  unfold readLine at h
  split at h
  · simp at h
  · rename_i hparse
    obtain ⟨rfl, rfl⟩ : l = next ∧ [] = report := by simpa using h
    exact ⟨by simp [History.commands, written, hparse, Except.toOption],
      feed_nil_eq_ok_iff.mpr ⟨rfl, rfl⟩⟩
  · rename_i c hparse
    obtain ⟨entries, htakes, rfl⟩ := perform_eq_ok_iff.mp h
    exact ⟨by simp [History.commands, written, hparse, Except.toOption],
      feed_singleton_eq_ok_iff.mpr h⟩

theorem readLines_eq_ok {l last : Ledger} {lines : List Text} {past : History}
    (h : l.readLines lines = .ok (last, past)) :
    past.commands = written lines ∧ l.follow past.commands = .ok (last, past) := by
  induction lines generalizing l past with
  | nil =>
    obtain ⟨rfl, rfl⟩ := feed_nil_eq_ok_iff.mp h
    exact ⟨rfl, feed_nil_eq_ok_iff.mpr ⟨rfl, rfl⟩⟩
  | cons line lines ih =>
    obtain ⟨mid, report, reports, hline, hlines, rfl⟩ := feed_cons_eq_ok_iff.mp h
    obtain ⟨hwritten, hfollow⟩ := readLine_eq_ok hline
    obtain ⟨hwritten', hfollow'⟩ := ih hlines
    have hcommands : History.commands (report ++ reports) =
        History.commands report ++ History.commands reports := List.map_append
    refine ⟨?_, ?_⟩
    · rw [hcommands, hwritten, hwritten', written, written, written, ← List.filterMap_append,
        List.singleton_append]
    · rw [hcommands]
      exact feed_append_eq_ok_iff.mpr ⟨mid, report, reports, hfollow, hfollow', rfl⟩

/-- What the journal has on one line, whether it is taken or not. -/
def lineRecords (l : Ledger) (number : Nat) (line : Text) : List Record :=
  match Command.parseLine line with
  | .error _ => []
  | .ok none => [.skipped number]
  | .ok (some c) => l.records c

end Ledger

namespace Run

theorem ofLines_cons_of_ok {l next : Ledger} {line : Text} {history : History}
    (h : l.readLine line = .ok (next, history)) (n : Nat) (rest : List Text) :
    ofLines l n (line :: rest) =
      after history.entries (l.lineRecords n line) (ofLines next (n + 1) rest) := by
  unfold Ledger.readLine at h
  rw [ofLines]
  split at h
  · simp at h
  · rename_i hparse
    obtain ⟨rfl, rfl⟩ : l = next ∧ [] = history := by simpa using h
    simp only [hparse, Ledger.lineRecords]
    rfl
  · rename_i c hparse
    obtain ⟨entries, htakes, rfl⟩ := Ledger.perform_eq_ok_iff.mp h
    simp only [hparse, Ledger.lineRecords, Ledger.step_eq_ok_iff.mpr htakes]
    simp [History.entries]

theorem ofLines_cons_of_error {l : Ledger} {line : Text} {fault : Fault}
    (h : l.readLine line = .error fault) (n : Nat) (rest : List Text) :
    ofLines l n (line :: rest) =
      ⟨[], l.lineRecords n line, .error (fault.stop n line)⟩ := by
  unfold Ledger.readLine at h
  rw [ofLines]
  split at h
  · rename_i why hparse
    obtain rfl : Fault.refused why = fault := by simpa using h
    simp only [hparse, Ledger.lineRecords]
    rfl
  · simp at h
  · rename_i c hparse
    have hstep : l.step c = .error fault := by
      unfold Ledger.perform at h
      cases hs : l.step c <;> simp_all [Except.map]
    simp [hparse, Ledger.lineRecords, hstep, after, stopped]

theorem closing_of_ok {l closed : Ledger} {entry : Option Entry}
    (h : l.close = .ok (closed, entry)) : closing l = ⟨entry.toList, [], .ok closed⟩ := by
  simp [closing, h]

theorem closing_of_error {l : Ledger} {operation : Overflow} (h : l.close = .error operation) :
    closing l = ⟨[], [], .error (.overflow operation)⟩ := by
  simp [closing, h, stopped]

theorem ofLines_append {l mid : Ledger} {before : List Text} {past : History}
    (h : l.readLines before = .ok (mid, past)) (n : Nat) :
    ∃ journal, ∀ rest, ofLines l n (before ++ rest) =
      after past.entries journal (ofLines mid (n + before.length) rest) := by
  induction before generalizing l n past with
  | nil =>
    obtain ⟨rfl, rfl⟩ := feed_nil_eq_ok_iff.mp h
    exact ⟨[], fun rest => by simp [after, History.entries]⟩
  | cons line before ih =>
    obtain ⟨next, report, reports, hline, hbefore, rfl⟩ := feed_cons_eq_ok_iff.mp h
    obtain ⟨journal, hj⟩ := ih hbefore (n + 1)
    refine ⟨l.lineRecords n line ++ journal, ?_⟩
    intro rest
    have hlen : n + 1 + before.length = n + (line :: before).length := by simp; omega
    rw [List.cons_append, ofLines_cons_of_ok hline, hj rest, hlen]
    simp [after, History.entries]

theorem ofText_of_readLines {l last : Ledger} {t : Text} {past : History}
    (h : l.readLines t.lines = .ok (last, past)) :
    ∃ journal, ofText l t = after past.entries journal (closing last) := by
  obtain ⟨journal, hj⟩ := ofLines_append h 1
  have hrun := hj []
  rw [List.append_nil, ofLines] at hrun
  exact ⟨journal, hrun⟩

theorem ofText_outcome_of_error {l : Ledger} {t : Text} {fault : Fault}
    (h : l.readLines t.lines = .error fault) : ∃ why, (ofText l t).outcome = .error why := by
  obtain ⟨before, line, rest, mid, past, hsplit, hpast, hfault⟩ := feed_split_of_error h
  obtain ⟨journal, hj⟩ := ofLines_append hpast 1
  refine ⟨fault.stop (1 + before.length) line, ?_⟩
  rw [ofText, hsplit, hj, ofLines_cons_of_error hfault]
  rfl

/-- A run that comes to a ledger takes all its lines and closes the last day. -/
theorem ofText_outcome_eq_ok {l closed : Ledger} {t : Text}
    (h : (ofText l t).outcome = .ok closed) :
    ∃ last past entry, l.readLines t.lines = .ok (last, past) ∧ last.Closes closed entry ∧
      (ofText l t).entries = past.entries ++ entry.toList := by
  cases hread : l.readLines t.lines with
  | error fault =>
    obtain ⟨why, hwhy⟩ := ofText_outcome_of_error hread
    simp [hwhy] at h
  | ok result =>
    obtain ⟨last, past⟩ := result
    obtain ⟨journal, hrun⟩ := ofText_of_readLines hread
    cases hclose : last.close with
    | error operation => simp [hrun, closing_of_error hclose, after] at h
    | ok ending =>
      obtain ⟨closed', entry⟩ := ending
      rw [closing_of_ok hclose] at hrun
      obtain rfl : closed' = closed := by simpa [hrun, after] using h
      exact ⟨last, past, entry, rfl, Ledger.close_eq_ok_iff.mp hclose, by rw [hrun]; rfl⟩

end Run

end HourBank
