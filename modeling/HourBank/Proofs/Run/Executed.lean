import HourBank.Proofs.Run.Lines

/-! The commands that a run executes. However the run ends, it shows what these report and, at most,
the end of the last day. -/

namespace HourBank

namespace Ledger

/-- The commands of the lines before the first that is not taken. -/
def executed (l : Ledger) : List Text → List Command
  | [] => []
  | line :: rest =>
    match l.readLine line with
    | .ok (next, report) => report.commands ++ next.executed rest
    | .error _ => []

theorem executed_cons_of_ok {l next : Ledger} {line : Text} {report : History}
    (h : l.readLine line = .ok (next, report)) (rest : List Text) :
    l.executed (line :: rest) = report.commands ++ next.executed rest := by
  rw [executed, h]

theorem executed_cons_of_error {l : Ledger} {line : Text} {fault : Fault}
    (h : l.readLine line = .error fault) (rest : List Text) : l.executed (line :: rest) = [] := by
  rw [executed, h]

end Ledger

namespace Run

/-- The run shows what the commands of `past` reported, and closes the last day if it comes to a
ledger. -/
inductive Tells (last : Ledger) (past : History) (r : Run) : Prop
  | stopped {why : Stop} (hentries : r.entries = past.entries) (houtcome : r.outcome = .error why)
  | closed {closed : Ledger} {entry : Option Entry} (hclose : last.Closes closed entry)
      (hentries : r.entries = past.entries ++ entry.toList) (houtcome : r.outcome = .ok closed)

theorem closing_tells (l : Ledger) : (closing l).Tells l [] := by
  cases hclose : l.close with
  | ok ending =>
    obtain ⟨closed, entry⟩ := ending
    rw [closing_of_ok hclose]
    exact .closed (Ledger.close_eq_ok_iff.mp hclose) rfl rfl
  | error operation =>
    rw [closing_of_error hclose]
    exact .stopped rfl rfl

theorem Tells.after {last : Ledger} {past : History} {r : Run} (h : r.Tells last past)
    (report : History) (journal : List Record) :
    (after report.entries journal r).Tells last (report ++ past) := by
  have hentries : History.entries (report ++ past) = report.entries ++ past.entries :=
    List.flatMap_append
  cases h with
  | stopped hshown houtcome =>
    exact .stopped (by rw [hentries, ← hshown]; rfl) houtcome
  | closed hclose hshown houtcome =>
    exact .closed hclose (by rw [hentries, List.append_assoc, ← hshown]; rfl) houtcome

theorem ofLines_tells (l : Ledger) (n : Nat) (lines : List Text) :
    ∃ last past, l.follow (l.executed lines) = .ok (last, past) ∧
      (ofLines l n lines).Tells last past := by
  induction lines generalizing l n with
  | nil => exact ⟨l, [], feed_nil_eq_ok_iff.mpr ⟨rfl, rfl⟩, closing_tells l⟩
  | cons line rest ih =>
    cases hread : l.readLine line with
    | error fault =>
      rw [Ledger.executed_cons_of_error hread, ofLines_cons_of_error hread]
      exact ⟨l, [], feed_nil_eq_ok_iff.mpr ⟨rfl, rfl⟩, .stopped rfl rfl⟩
    | ok result =>
      obtain ⟨next, report⟩ := result
      obtain ⟨last, past, hfollow, htells⟩ := ih next (n + 1)
      obtain ⟨-, htaken⟩ := Ledger.readLine_eq_ok hread
      rw [Ledger.executed_cons_of_ok hread, ofLines_cons_of_ok hread]
      exact ⟨last, report ++ past,
        feed_append_eq_ok_iff.mpr ⟨next, report, past, htaken, hfollow, rfl⟩,
        htells.after report _⟩

end Run

end HourBank
