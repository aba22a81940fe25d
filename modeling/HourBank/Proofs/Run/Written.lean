import HourBank.Proofs.Command.Written
import HourBank.Run

/-! The run of a text in which commands are written, and what the commands come to without a text. -/

namespace HourBank

/-- Takes commands in turn and closes the day after the last. At a fault the number of commands
taken before it is told with it. -/
def Ledger.settle (l : Ledger) : List Command → List Entry × Except (Nat × Fault) Ledger
  | [] =>
    match l.close with
    | .ok (closed, entry) => (entry.toList, .ok closed)
    | .error operation => ([], .error (0, .overflow operation))
  | c :: cs =>
    match l.step c with
    | .ok (next, entries) =>
      let (later, ending) := next.settle cs
      (entries ++ later, ending.mapError fun (n, fault) => (n + 1, fault))
    | .error fault => ([], .error (0, fault))

/-- The commands that were tried, the one that met a fault included. -/
def tried (cs : List Command) : Except (Nat × Fault) Ledger → List Command
  | .ok _ => cs
  | .error (n, _) => cs.take (n + 1)

theorem tried_cons (c : Command) (cs : List Command) (ending : Except (Nat × Fault) Ledger) :
    tried (c :: cs) (ending.mapError fun (n, fault) => (n + 1, fault)) = c :: tried cs ending := by
  cases ending <;> rfl

def Record.applied? : Record → Option Command
  | .applying c => some c
  | _ => none

theorem Ledger.filterMap_applied?_records (l : Ledger) (c : Command) :
    (l.records c).filterMap Record.applied? = [c] := by
  have hwarnings : ∀ date, (l.warnings date).filterMap Record.applied? = [] := by
    intro date
    have hdate : (if date.IsDate then [] else [Record.notDate date]).filterMap
        Record.applied? = [] := by
      split <;> rfl
    rw [Ledger.warnings, List.filterMap_append, hdate, List.nil_append]
    cases l.current with
    | none => rfl
    | some d =>
      simp only
      split <;> rfl
  cases c with
  | day date => simp [Ledger.records, Record.applied?, hwarnings]
  | _ => rfl

namespace Run

/-- A run of lines, the first of them with this number, shows what the commands on them came to:
what was reported, where it ended and which command it met last. -/
structure Shows (r : Run) (number : Nat) (ls : List Text) (cs : List Command)
    (result : List Entry × Except (Nat × Fault) Ledger) : Prop where
  entries : r.entries = result.1
  outcome : r.outcome = result.2.mapError fun (n, fault) => fault.stop (number + n) (ls.getD n [])
  applied : r.journal.filterMap Record.applied? = tried cs result.2

theorem closing_shows (l : Ledger) (number : Nat) : (closing l).Shows number [] [] (l.settle []) := by
  cases hclose : l.close with
  | ok result =>
    simp only [closing, Ledger.settle, hclose]
    exact ⟨rfl, rfl, rfl⟩
  | error operation =>
    simp only [closing, Ledger.settle, hclose]
    exact ⟨rfl, rfl, rfl⟩

theorem Shows.after_skipped {r : Run} {number : Nat} {ls : List Text} {cs : List Command}
    {result : List Entry × Except (Nat × Fault) Ledger} (h : r.Shows number ls cs result)
    (line : Nat) : (after [] [.skipped line] r).Shows number ls cs result :=
  ⟨h.entries, h.outcome, h.applied⟩

theorem Shows.after_taken {r : Run} {number : Nat} {ls : List Text} {cs : List Command}
    {later : List Entry} {ending : Except (Nat × Fault) Ledger}
    (h : r.Shows (number + 1) ls cs (later, ending)) (l : Ledger) (c : Command) (line : Text)
    (entries : List Entry) :
    (after entries (l.records c) r).Shows number (line :: ls) (c :: cs)
      (entries ++ later, ending.mapError fun (n, fault) => (n + 1, fault)) := by
  constructor
  · exact congrArg (entries ++ ·) h.entries
  · refine h.outcome.trans ?_
    cases ending with
    | ok closed => rfl
    | error stop =>
      obtain ⟨n, fault⟩ := stop
      have hnumber : number + 1 + n = number + (n + 1) := by omega
      simp [Except.mapError, hnumber]
  · have hlater : r.journal.filterMap Record.applied? = tried cs ending := h.applied
    simp only [after, List.filterMap_append, l.filterMap_applied?_records, hlater, tried_cons,
      List.singleton_append]

/-- The lines may have an empty one behind them. -/
theorem ofLines_shows {cs : List Command} {ls tail : List Text}
    (h : List.Forall₂ (fun c line => Command.parseLine line = .ok (some c)) cs ls)
    (htail : tail = [] ∨ tail = [[]]) (l : Ledger) (number : Nat) :
    (ofLines l number (ls ++ tail)).Shows number ls cs (l.settle cs) := by
  -- The number moves on with the lines, so it is general in the induction as the ledger is.
  induction h generalizing l number with
  | nil =>
    rcases htail with rfl | rfl
    · exact closing_shows l number
    · exact (closing_shows l number).after_skipped number
  | @cons c line cs ls hparse hrest ih =>
    rw [List.cons_append, ofLines, hparse]
    cases hstep : l.step c with
    | error fault =>
      have happlied := l.filterMap_applied?_records c
      simp only [Ledger.settle, hstep]
      exact ⟨rfl, rfl, by simpa [after, stopped, tried] using happlied⟩
    | ok result =>
      obtain ⟨next, entries⟩ := result
      simp only [Ledger.settle, hstep]
      exact (ih next (number + 1)).after_taken l c line entries

/-- A text with a command on each line comes to what the commands come to without it, however they
are written and laid out. -/
theorem ofText_shows_settle {l : Ledger} {cs : List Command} {ls : List Text} {t : Text}
    (hcs : ∀ c ∈ cs, c.Writable) (hls : List.Forall₂ Command.WrittenOn cs ls)
    (ht : Text.Joined ls t) : (ofText l t).Shows 1 ls cs (l.settle cs) := by
  have hwriting : List.Forall₂ (fun line (c : Command) => c.WrittenOn line) ls cs := hls.flip
  have hlines : ∀ line ∈ ls, Text.IsLine line :=
    ((List.forall₂_and_left ls cs).mp (hwriting.imp fun _ _ h => ⟨h.isLine, h⟩)).1
  have hparse : List.Forall₂ (fun c line => Command.parseLine line = .ok (some c)) cs ls :=
    ((List.forall₂_and_left cs ls).mpr ⟨hcs, hls⟩).imp fun _ _ h => h.2.parseLine_eq h.1
  obtain ⟨tail, htail, ht⟩ := ht.lines_eq hlines
  rw [ofText, ht]
  exact ofLines_shows hparse htail l 1

theorem ofText_shows_settle_without_day :
    ∃ cs ls t, cs = [Command.bank { toInt := -15 }, .punch { toInt := 540 } { toInt := 1110 }] ∧
      t = " BANCO\t-00:15".toList ++ ['\r', '\n'] ++ "PONTO +09:00  18:30".toList ∧
      (∀ c ∈ cs, c.Writable) ∧ List.Forall₂ Command.WrittenOn cs ls ∧ Text.Joined ls t ∧
      (ofText (.start .standard) t).Shows 1 ls cs ((Ledger.start .standard).settle cs) ∧
      (ofText (.start .standard) t).outcome =
        .error (.failure (.refused 2 "PONTO +09:00  18:30".toList (.noOpenDay .punch))) := by
  have hcs : ∀ c ∈ [Command.bank { toInt := -15 }, .punch { toInt := 540 } { toInt := 1110 }],
      c.Writable := by
    simp [Command.Writable, Command.times, Command.date?]
  have hbank : (Command.bank { toInt := -15 }).WrittenOn " BANCO\t-00:15".toList :=
    ⟨["-00:15".toList], by decide +kernel, And.left (Text.words_eq_iff.mp rfl),
      Text.eq_false_of_any_eq_false (by decide)⟩
  have hpunch : (Command.punch { toInt := 540 } { toInt := 1110 }).WrittenOn
      "PONTO +09:00  18:30".toList :=
    ⟨["+09:00".toList, "18:30".toList], by decide +kernel, And.left (Text.words_eq_iff.mp rfl),
      Text.eq_false_of_any_eq_false (by decide)⟩
  have hls := List.Forall₂.cons hbank (.cons hpunch .nil)
  have ht : Text.Joined [" BANCO\t-00:15".toList, "PONTO +09:00  18:30".toList]
      (" BANCO\t-00:15".toList ++ ['\r', '\n'] ++ "PONTO +09:00  18:30".toList) :=
    .cons (by decide) (.last _)
  have hshows := ofText_shows_settle (l := .start .standard) hcs hls ht
  exact ⟨_, _, _, rfl, rfl, hcs, hls, ht, hshows, hshows.outcome⟩

end Run

end HourBank
