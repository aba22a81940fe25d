import HourBank.Proofs.Ledger.OpenDay

/-! Commands applied in turn to one ledger, faults included. A fault changes nothing, so that what
is left of the commands without those that met one answers the same. -/

namespace HourBank.Ledger

abbrev Answer := Except Fault (List Entry)

def answers (l : Ledger) : List Command → List Answer
  | [] => []
  | c :: cs => (l.apply c).2 :: (l.apply c).1.answers cs

/-- The ledger after all of the commands. -/
def applyAll (l : Ledger) (cs : List Command) : Ledger := cs.foldl (fun l c => (l.apply c).1) l

/-- What a list of answers reports, in order. A fault reports nothing. -/
def reported (as : List Answer) : List Entry :=
  as.flatMap fun
    | .ok entries => entries
    | .error _ => []

/-- The commands without those that were refused or overflowed. -/
def taken (l : Ledger) (cs : List Command) : List Command :=
  ((cs.zip (l.answers cs)).filter (·.2.isOk)).map (·.1)

variable {l : Ledger} {c : Command}

theorem apply_of_takes {next : Ledger} {entries : List Entry} (h : l.Takes c next entries) :
    l.apply c = (next, .ok entries) := by
  rw [apply, step_eq_ok_iff.mpr h]

theorem apply_of_error {fault : Fault} (h : l.step c = .error fault) :
    l.apply c = (l, .error fault) := by
  rw [apply, h]

theorem apply_snd_eq_error_iff {fault : Fault} :
    (l.apply c).2 = .error fault ↔ l.step c = .error fault := by
  unfold apply
  cases l.step c <;> simp

/-- Also when the command meets a fault: with no open day, the one that opens a day cannot. -/
theorem apply_current_eq_none_iff :
    (l.apply c).1.current = none ↔ l.current = none ∧ c.opensDay = false := by
  cases hstep : l.step c with
  | ok result =>
    obtain ⟨next, entries⟩ := result
    have htakes := step_eq_ok_iff.mp hstep
    rw [apply_of_takes htakes, htakes.current_eq_none_iff]
  | error fault =>
    rw [apply_of_error hstep]
    constructor
    · intro hcur
      refine ⟨hcur, ?_⟩
      cases c with
      | day date => simp [step_eq_ok_iff.mpr (takes_first_day hcur date)] at hstep
      | _ => rfl
    · exact And.left

theorem applyAll_cons (cs : List Command) : l.applyAll (c :: cs) = (l.apply c).1.applyAll cs := rfl

theorem applyAll_current_eq_none_iff (cs : List Command) :
    (l.applyAll cs).current = none ↔ l.current = none ∧ ∀ c ∈ cs, c.opensDay = false := by
  induction cs generalizing l with
  | nil => simp [applyAll]
  | cons c cs ih =>
    rw [applyAll_cons, ih, apply_current_eq_none_iff, List.forall_mem_cons, and_assoc]

theorem answers_getElem? (cs : List Command) (i : Nat) :
    (l.answers cs)[i]? = cs[i]?.map fun c => ((l.applyAll (cs.take i)).apply c).2 := by
  induction cs generalizing l i with
  | nil => simp [answers]
  | cons c cs ih =>
    cases i with
    | zero => simp [answers, applyAll]
    | succ i => simpa [answers, applyAll] using ih i

theorem taken_cons_of_takes {next : Ledger} {entries : List Entry} (h : l.Takes c next entries)
    (cs : List Command) : l.taken (c :: cs) = c :: next.taken cs := by
  rw [taken, answers, apply_of_takes h]
  rfl

theorem taken_cons_of_error {fault : Fault} (h : l.step c = .error fault) (cs : List Command) :
    l.taken (c :: cs) = l.taken cs := by
  rw [taken, answers, apply_of_error h]
  rfl

/-- Without the commands that met a fault, the others lead to the same ledger and give the same
answers. -/
theorem applyAll_taken (l : Ledger) (cs : List Command) :
    l.applyAll (l.taken cs) = l.applyAll cs ∧
      l.answers (l.taken cs) = (l.answers cs).filter Except.isOk := by
  induction cs generalizing l with
  | nil => exact ⟨rfl, rfl⟩
  | cons c cs ih =>
    cases hstep : l.step c with
    | ok result =>
      obtain ⟨next, entries⟩ := result
      have htakes := step_eq_ok_iff.mp hstep
      obtain ⟨hlast, hanswers⟩ := ih next
      rw [taken_cons_of_takes htakes, applyAll_cons, applyAll_cons, answers, answers,
        apply_of_takes htakes, List.filter_cons_of_pos rfl, hanswers]
      exact ⟨hlast, rfl⟩
    | error fault =>
      obtain ⟨hlast, hanswers⟩ := ih l
      rw [taken_cons_of_error hstep, applyAll_cons, answers, apply_of_error hstep,
        List.filter_cons_of_neg Bool.false_ne_true, hanswers]
      exact ⟨hlast, rfl⟩

theorem reported_filter_isOk (as : List Answer) :
    reported (as.filter Except.isOk) = reported as := by
  induction as with
  | nil => rfl
  | cons a as ih =>
    cases a with
    | ok entries =>
      rw [List.filter_cons_of_pos rfl]
      exact congrArg (entries ++ ·) ih
    | error fault =>
      rw [List.filter_cons_of_neg Bool.false_ne_true]
      exact ih

/-- A command is refused exactly when it needs a day and no command before it opens one, whatever
became of the commands before it; and a command that meets a fault leaves no trace. -/
theorem refused_before_first_day (s : Schedule) (cs : List Command) :
    (∀ i why, ((start s).answers cs)[i]? = some (.error (.refused why)) ↔
      ∃ c, cs[i]? = some c ∧ why = .noOpenDay c.keyword ∧ c.needsDay = true ∧
        ∀ b ∈ cs.take i, b.opensDay = false) ∧
    (start s).applyAll ((start s).taken cs) = (start s).applyAll cs ∧
    (start s).answers ((start s).taken cs) = ((start s).answers cs).filter Except.isOk ∧
    reported ((start s).answers ((start s).taken cs)) = reported ((start s).answers cs) := by
  obtain ⟨hlast, hanswers⟩ := applyAll_taken (start s) cs
  refine ⟨?_, hlast, hanswers, ?_⟩
  · intro i why
    have hstart : (start s).current = none := rfl
    rw [answers_getElem?, Option.map_eq_some_iff]
    refine exists_congr fun c => and_congr_right fun hc => ?_
    rw [apply_snd_eq_error_iff, step_eq_refused_iff, applyAll_current_eq_none_iff]
    simp only [hstart, true_and]
    exact ⟨fun ⟨hnone, hneeds, hwhy⟩ => ⟨hwhy, hneeds, hnone⟩,
      fun ⟨hwhy, hneeds, hnone⟩ => ⟨hnone, hneeds, hwhy⟩⟩
  · rw [hanswers, reported_filter_isOk]

example : (start .standard).answers
    [.dayOff, .bank { toInt := 9223372036854775807 }, .day ⟨2024, 1, 1⟩,
      .punch { toInt := 0 } { toInt := 600 }, .day ⟨2024, 1, 2⟩, .dayOff] =
    [.error (.refused (.noOpenDay .dayOff)), .ok [], .ok [.dayOpened ⟨2024, 1, 1⟩],
      .ok [.punch { toInt := 0 } { toInt := 600 } { toInt := 600 }], .error (.overflow .add),
      .ok [.dayOff]] := rfl

end HourBank.Ledger
