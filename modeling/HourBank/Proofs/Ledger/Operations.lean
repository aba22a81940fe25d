import HourBank.Proofs.Ledger.Flat
import HourBank.Proofs.Ledger.History

/-! Ledgers in any order of use: commands taken, and days closed without another being opened. What
holds of a ledger at the start is kept by either, though nothing in the type of its fields says so. -/

namespace HourBank

inductive Operation
  | take (c : Command)
  | close

namespace Operation

def opensDay : Operation → Bool
  | .take c => c.opensDay
  | .close => false

/-- What an operation does to a ledger that takes its commands and closes its day in these ways. -/
def run {σ : Type} (step : σ → Command → Except Fault (σ × List Entry))
    (close : σ → Except Overflow (σ × Option Entry)) (l : σ) :
    Operation → Except Fault (σ × List Entry)
  | .take c => step l c
  | .close => ((close l).map fun (closed, entry) => (closed, entry.toList)).mapError .overflow

theorem run_close_eq_ok_iff {σ : Type} {step : σ → Command → Except Fault (σ × List Entry)}
    {close : σ → Except Overflow (σ × Option Entry)} {l closed : σ} {entries : List Entry} :
    run step close l .close = .ok (closed, entries) ↔
      ∃ entry, close l = .ok (closed, entry) ∧ entry.toList = entries := by
  rw [run, mapError_eq_ok_iff]
  cases hclose : close l with
  | error operation => simp [Except.map]
  | ok ending =>
    obtain ⟨closed', entry⟩ := ending
    constructor
    · rintro ⟨⟩
      exact ⟨entry, rfl, rfl⟩
    · rintro ⟨_, ⟨⟩, rfl⟩
      rfl

end Operation

def Ledger.operateAll (l : Ledger) (ops : List Operation) : Except Fault (Ledger × List Entry) :=
  feed (Operation.run step close) l ops

namespace FlatLedger

def operate (l : FlatLedger) (op : Operation) : Except Fault (FlatLedger × List Entry) :=
  op.run step close l

def operateAll (l : FlatLedger) (ops : List Operation) :
    Except Fault (FlatLedger × List Entry) :=
  feed operate l ops

theorem fuse_operate (l : FlatLedger) (op : Operation) :
    op.run Ledger.step Ledger.close l.fuse = Prod.map fuse id <$> l.operate op := by
  cases op with
  | take c => exact l.fuse_step c
  | close =>
    rw [operate, Operation.run, Operation.run, fuse_close]
    cases l.close <;> rfl

/-- The ledger that keeps its open day together goes wherever this one goes. -/
theorem fuse_operateAll (l : FlatLedger) (ops : List Operation) :
    l.fuse.operateAll ops = Prod.map fuse id <$> l.operateAll ops :=
  feed_map fuse_operate l ops

/-- What holds of a ledger under `s` however it came about. -/
structure Coherent (s : Schedule) (l : FlatLedger) : Prop where
  schedule : l.schedule = s
  beforeFirstDay : l.operatingDay = none → l.firstClockIn = none ∧ l.dayTime = .zero ∧
    l.totalTime = .zero ∧ l.daysOff = 0
  beforeClockIn : l.firstClockIn = none → l.dayTime = .zero

theorem coherent_start (s : Schedule) : (start s).Coherent s where
  schedule := rfl
  beforeFirstDay _ := ⟨rfl, rfl, rfl, rfl⟩
  beforeClockIn _ := rfl

variable {s : Schedule} {l next : FlatLedger} {entries : List Entry}

/-- With a day open, nothing is asked for before the first. -/
theorem coherent_of_day {day : Day} (hschedule : l.schedule = s) (hday : l.operatingDay = some day)
    (hclock : l.firstClockIn = none → l.dayTime = .zero) : l.Coherent s where
  schedule := hschedule
  beforeFirstDay hnone := by simp [hday] at hnone
  beforeClockIn := hclock

theorem Closes.coherent {entry : Option Entry} (h : l.Coherent s) (hclose : l.Closes next entry) :
    next.Coherent s := by
  cases hclose with
  | idle hday => exact h
  | day hday hspan => exact coherent_of_day h.schedule hday h.beforeClockIn

theorem Takes.coherent {c : Command} (h : l.Coherent s) (htakes : l.Takes c next entries) :
    next.Coherent s := by
  cases htakes with
  | bank balance => exact ⟨h.schedule, h.beforeFirstDay, h.beforeClockIn⟩
  | day date hclose => exact coherent_of_day (hclose.coherent h).schedule rfl fun _ => rfl
  | punch clockIn clockOut hday => exact coherent_of_day h.schedule hday (by simp)
  | estimate clockIn hday => exact coherent_of_day h.schedule hday (by simp)
  | dayOff hday => exact coherent_of_day h.schedule hday h.beforeClockIn
  | checkpoint hday => exact h

theorem operate_coherent {op : Operation} (h : l.Coherent s)
    (hoperate : l.operate op = .ok (next, entries)) : next.Coherent s := by
  cases op with
  | take c => exact (takes_of_step hoperate).coherent h
  | close =>
    obtain ⟨entry, hclose, -⟩ := Operation.run_close_eq_ok_iff.mp hoperate
    exact (closes_of_close hclose).coherent h

theorem Closes.worked_eq_zero {entry : Option Entry} (h : l.Coherent s)
    (hclose : l.Closes next entry) {worked bankDelta bank : Minutes}
    (he : .dayClosed none worked bankDelta bank ∈ entry.toList) : worked = .zero := by
  cases hclose with
  | idle hday => simp at he
  | @day _ span _ _ _ hday hspan =>
    obtain ⟨rfl, rfl, -⟩ : none = span ∧ worked = l.dayTime ∧ _ := by simpa using he
    have hclock : l.firstClockIn = none := by
      unfold span at hspan
      split at hspan
      · assumption
      · simp [bind_eq_ok_iff, pure, Except.pure] at hspan
    exact h.beforeClockIn hclock

theorem Takes.worked_eq_zero {c : Command} (h : l.Coherent s) (htakes : l.Takes c next entries)
    {worked bankDelta bank : Minutes} (he : .dayClosed none worked bankDelta bank ∈ entries) :
    worked = .zero := by
  -- Of the commands, only the one that opens a day closes one.
  cases htakes with
  | day date hclose =>
    rcases List.mem_append.mp he with hclosed | hopened
    · exact hclose.worked_eq_zero h hclosed
    · simp at hopened
  | _ => simp at he

theorem operate_worked_eq_zero {op : Operation} (h : l.Coherent s)
    (hoperate : l.operate op = .ok (next, entries)) {worked bankDelta bank : Minutes}
    (he : .dayClosed none worked bankDelta bank ∈ entries) : worked = .zero := by
  cases op with
  | take c => exact (takes_of_step hoperate).worked_eq_zero h he
  | close =>
    obtain ⟨entry, hclose, rfl⟩ := Operation.run_close_eq_ok_iff.mp hoperate
    exact (closes_of_close hclose).worked_eq_zero h he

theorem Takes.operatingDay_eq_none_iff {c : Command} (h : l.Takes c next entries) :
    next.operatingDay = none ↔ l.operatingDay = none ∧ c.opensDay = false := by
  cases h with
  | bank balance => simp [Command.opensDay]
  | day date hclose => simp [Command.opensDay]
  | punch clockIn clockOut hday => simp [hday]
  | estimate clockIn hday => simp [hday]
  | dayOff hday => simp [hday]
  | checkpoint hday => simp [hday]

theorem operate_operatingDay_eq_none_iff {op : Operation}
    (h : l.operate op = .ok (next, entries)) :
    next.operatingDay = none ↔ l.operatingDay = none ∧ op.opensDay = false := by
  cases op with
  | take c => exact (takes_of_step h).operatingDay_eq_none_iff
  | close =>
    obtain ⟨entry, hclose, -⟩ := Operation.run_close_eq_ok_iff.mp h
    have hsame : next.operatingDay = l.operatingDay := by
      cases closes_of_close hclose <;> rfl
    simp [hsame, Operation.opensDay]

theorem operateAll_coherent {ops : List Operation} {out : List Entry} (hl : l.Coherent s)
    (h : l.operateAll ops = .ok (next, out)) : next.Coherent s := by
  refine feed_invariant (P := fun _ l _ => l.Coherent s) h hl ?_
  intro _ l _ op next report hl hoperate
  exact operate_coherent hl hoperate

theorem operateAll_operatingDay_eq_none_iff {ops : List Operation} {out : List Entry}
    (h : l.operateAll ops = .ok (next, out)) :
    next.operatingDay = none ↔ l.operatingDay = none ∧ ∀ op ∈ ops, op.opensDay = false := by
  refine feed_invariant (P := fun done m _ =>
    m.operatingDay = none ↔ l.operatingDay = none ∧ ∀ op ∈ done, op.opensDay = false) h
    (by simp) ?_
  intro done m _ op next report hm hoperate
  rw [operate_operatingDay_eq_none_iff hoperate, hm, List.forall_mem_append,
    List.forall_mem_singleton, and_assoc]

theorem step_first_day (hday : l.operatingDay = none) (date : Day) :
    l.step (.day date) =
      .ok ({ l with operatingDay := some date, firstClockIn := none, dayTime := .zero },
        [.dayOpened date]) := by
  have hclose : l.close = .ok (l, none) := by simp [close, hday]
  simp only [step, openDay, hclose]
  rfl

/-- Where a coherent ledger has no open day, fusing drops nothing. -/
theorem Coherent.fuse_fields (h : l.Coherent s) :
    l.fuse.operatingDay = l.operatingDay ∧ l.fuse.firstClockIn = l.firstClockIn ∧
      l.fuse.dayTime = l.dayTime := by
  cases hday : l.operatingDay with
  | none =>
    obtain ⟨hclock, htime, -, -⟩ := h.beforeFirstDay hday
    simp [Ledger.operatingDay, Ledger.firstClockIn, Ledger.dayTime, fuse_current_of_none hday,
      hclock, htime]
  | some day =>
    simp [Ledger.operatingDay, Ledger.firstClockIn, Ledger.dayTime, fuse_current_of_some hday]

/-- Whatever commands were taken and however often days were closed in between, the ledger is
coherent, an open day stays open, a closing without a span has no time to hide, and the first day
is opened without touching the bank. The ledger that keeps its open day together comes to the same
fields. -/
theorem operations_keep_coherent {ops : List Operation} {out : List Entry}
    (h : (start s).operateAll ops = .ok (l, out)) :
    l.Coherent s ∧
    (∀ more later report, l.operateAll more = .ok (later, report) →
      l.operatingDay ≠ none → later.operatingDay ≠ none) ∧
    (∀ op next entries, l.operate op = .ok (next, entries) → ∀ worked bankDelta bank,
      .dayClosed none worked bankDelta bank ∈ entries → worked = .zero) ∧
    ((∀ op ∈ ops, op.opensDay = false) → ∀ date, ∃ next,
      l.step (.day date) = .ok (next, [.dayOpened date]) ∧ next.bank = l.bank) ∧
    (Ledger.start s).operateAll ops = .ok (l.fuse, out) ∧
    l.fuse.operatingDay = l.operatingDay ∧ l.fuse.firstClockIn = l.firstClockIn ∧
      l.fuse.dayTime = l.dayTime := by
  have hl : l.Coherent s := operateAll_coherent (coherent_start s) h
  refine ⟨hl, ?_, ?_, ?_, ?_, hl.fuse_fields⟩
  · intro more later report hmore hopen hnone
    rw [operateAll_operatingDay_eq_none_iff hmore] at hnone
    exact hopen hnone.1
  · intro op next entries hoperate worked bankDelta bank he
    exact operate_worked_eq_zero hl hoperate he
  · intro hnone date
    have hday : l.operatingDay = none := (operateAll_operatingDay_eq_none_iff h).mpr ⟨rfl, hnone⟩
    exact ⟨_, step_first_day hday date, rfl⟩
  · have hfused := (start s).fuse_operateAll ops
    rw [h] at hfused
    exact hfused

theorem operations_keep_coherent_closed_twice :
    ∃ first next l out again worked bankDelta bank later report,
      (start .standard).operateAll [.take (.bank { toInt := 30 }), .close] = .ok (first, []) ∧
      first.step (.day ⟨2024, 1, 1⟩) = .ok (next, [.dayOpened ⟨2024, 1, 1⟩]) ∧
      next.bank = first.bank ∧
      (start .standard).operateAll
        [.take (.bank { toInt := 30 }), .close, .take (.day ⟨2024, 1, 1⟩), .close] =
        .ok (l, out) ∧
      l.Coherent .standard ∧
      l.operate .close = .ok (again, [.dayClosed none worked bankDelta bank]) ∧ worked = .zero ∧
      l.operateAll [.close, .take (.punch { toInt := 540 } { toInt := 480 })] =
        .ok (later, report) ∧
      l.operatingDay ≠ none ∧ later.operatingDay ≠ none ∧
      (Ledger.start .standard).operateAll
        [.take (.bank { toInt := 30 }), .close, .take (.day ⟨2024, 1, 1⟩), .close] =
        .ok (l.fuse, out) := by
  have hfirst : ∃ first,
      (start .standard).operateAll [.take (.bank { toInt := 30 }), .close] = .ok (first, []) :=
    ⟨_, rfl⟩
  have hclosed : ∃ l out again worked bankDelta bank later report,
      (start .standard).operateAll
        [.take (.bank { toInt := 30 }), .close, .take (.day ⟨2024, 1, 1⟩), .close] =
        .ok (l, out) ∧
      l.operate .close = .ok (again, [.dayClosed none worked bankDelta bank]) ∧
      l.operateAll [.close, .take (.punch { toInt := 540 } { toInt := 480 })] =
        .ok (later, report) ∧ l.operatingDay ≠ none :=
    ⟨_, _, _, _, _, _, _, _, rfl, rfl, rfl, by decide⟩
  obtain ⟨first, hfirst⟩ := hfirst
  obtain ⟨l, out, again, worked, bankDelta, bank, later, report, hl, hclose, hlater, hopen⟩ :=
    hclosed
  obtain ⟨-, -, -, hday, -⟩ := operations_keep_coherent hfirst
  obtain ⟨next, hstep, hsame⟩ := hday (by simp [Operation.opensDay, Command.opensDay]) ⟨2024, 1, 1⟩
  obtain ⟨hcoherent, hstays, hworked, -, hfused, -⟩ := operations_keep_coherent hl
  exact ⟨first, next, l, out, again, worked, bankDelta, bank, later, report, hfirst, hstep, hsame,
    hl, hcoherent, hclose, hworked _ _ _ hclose _ _ _ List.mem_cons_self, hlater, hopen,
    hstays _ _ _ hlater hopen, hfused⟩

end FlatLedger

end HourBank
