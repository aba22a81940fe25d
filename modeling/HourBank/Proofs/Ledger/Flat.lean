import HourBank.Ledger.Flat
import HourBank.Proofs.Ledger.Step

/-! The ledger with all fields on their own stands under the one that keeps those of the open day
together: every command and every closing does the same to both, refusals and overflows included. -/

namespace HourBank

namespace FlatLedger

/-- Keeps what belongs to the open day together, and drops it where no day is open. -/
def fuse (l : FlatLedger) : Ledger :=
  { schedule := l.schedule
    current := l.operatingDay.map fun day => ⟨day, l.firstClockIn, l.dayTime⟩
    bank := l.bank
    totalTime := l.totalTime
    daysOff := l.daysOff }

variable {l : FlatLedger}

theorem fuse_current_of_none (h : l.operatingDay = none) : l.fuse.current = none := by
  rw [fuse, h, Option.map_none]

theorem fuse_current_of_some {day : Day} (h : l.operatingDay = some day) :
    l.fuse.current = some ⟨day, l.firstClockIn, l.dayTime⟩ := by
  rw [fuse, h, Option.map_some]

theorem fuse_close (l : FlatLedger) : l.fuse.close = Prod.map fuse id <$> l.close := by
  cases hday : l.operatingDay with
  | none =>
    simp only [Ledger.close, fuse_current_of_none hday, close, hday]
    rfl
  | some day =>
    simp only [Ledger.close, fuse_current_of_some hday, close, hday, Option.isNone_some,
      Bool.false_eq_true, if_false, map_bind, map_pure]
    rfl

theorem fuse_openDay (l : FlatLedger) (date : Day) :
    l.fuse.openDay date = Prod.map fuse id <$> l.openDay date := by
  rw [Ledger.openDay, fuse_close, openDay, map_bind]
  cases l.close <;> rfl

/-- The commands that need a day look for it first in both ledgers. -/
theorem fuse_onOpenDay {k : Keyword} {run : OpenDay → Except Overflow (Ledger × List Entry)}
    {rest : Day → Except Fault (FlatLedger × List Entry)}
    (h : ∀ day, l.operatingDay = some day →
      (run ⟨day, l.firstClockIn, l.dayTime⟩).mapError .overflow = Prod.map fuse id <$> rest day) :
    l.fuse.onOpenDay k run = Prod.map fuse id <$> (l.requireDay k >>= rest) := by
  cases hday : l.operatingDay with
  | none =>
    simp only [Ledger.onOpenDay, fuse_current_of_none hday, requireDay, hday]
    rfl
  | some day =>
    simp only [Ledger.onOpenDay, fuse_current_of_some hday, requireDay, hday]
    exact h day hday

theorem fuse_step (l : FlatLedger) (c : Command) :
    l.fuse.step c = Prod.map fuse id <$> l.step c := by
  cases c with
  | bank balance => rfl
  | day date =>
    rw [Ledger.step, fuse_openDay]
    cases hopen : l.openDay date <;> simp only [step, hopen] <;> rfl
  | punch clockIn clockOut =>
    refine fuse_onOpenDay fun day hday => ?_
    simp only [Ledger.punch, mapError_bind, map_bind, map_pure, Prod.map_apply, fuse, hday,
      Option.map_some]
    rfl
  | estimate clockIn =>
    refine fuse_onOpenDay fun day hday => ?_
    simp only [Ledger.estimate, mapError_bind, map_bind, map_pure, Prod.map_apply, fuse, hday,
      Option.map_some]
    rfl
  | dayOff =>
    refine fuse_onOpenDay fun day _ => ?_
    by_cases hfits : l.daysOff.toNat + 1 < UInt32.size
    · simp only [Ledger.dayOff, fuse, hfits, if_true]
      rfl
    · simp only [Ledger.dayOff, fuse, hfits, if_false]
      rfl
  | checkpoint => exact fuse_onOpenDay fun day _ => rfl

theorem map_fuse_eq_ok_iff {ε β : Type} {x : Except ε (FlatLedger × β)} {m : Ledger} {b : β} :
    Prod.map fuse id <$> x = .ok (m, b) ↔ ∃ l, x = .ok (l, b) ∧ l.fuse = m := by
  cases x with
  | error e => simp [Functor.map, Except.map]
  | ok result =>
    obtain ⟨l, b'⟩ := result
    constructor
    · rintro ⟨⟩
      exact ⟨l, rfl, rfl⟩
    · rintro ⟨l, ⟨⟩, rfl⟩
      rfl

/-- What a closing writes. By how much is the same as for the ledger fused from this one. -/
inductive Closes (l : FlatLedger) : FlatLedger → Option Entry → Prop
  | idle (hday : l.operatingDay = none) : Closes l l none
  | day {day : Day} {span : Option (Minutes × Minutes)} {bankDelta bank totalTime : Minutes}
      (hday : l.operatingDay = some day) (hspan : l.span = .ok span) :
      Closes l { l with bank, totalTime } (some (.dayClosed span l.dayTime bankDelta bank))

/-- What a command writes and reports. -/
inductive Takes (l : FlatLedger) : Command → FlatLedger → List Entry → Prop
  | bank (balance : Minutes) : Takes l (.bank balance) { l with bank := balance } []
  | day {closed : FlatLedger} {entry : Option Entry} (date : Day) (hclose : l.Closes closed entry) :
      Takes l (.day date)
        { closed with operatingDay := some date, firstClockIn := none, dayTime := .zero }
        (entry.toList ++ [.dayOpened date])
  | punch {day : Day} {worked dayTime : Minutes} (clockIn clockOut : Minutes)
      (hday : l.operatingDay = some day) :
      Takes l (.punch clockIn clockOut)
        { l with dayTime, firstClockIn := l.firstClockIn.or (some clockIn) }
        [.punch clockIn clockOut worked]
  | estimate {day : Day} {dayTime totalTime clockOut remaining : Minutes} (clockIn : Minutes)
      (hday : l.operatingDay = some day) :
      Takes l (.estimate clockIn) { l with firstClockIn := some clockIn, dayTime, totalTime }
        [.estimate clockIn clockOut remaining]
  | dayOff {day : Day} (hday : l.operatingDay = some day) :
      Takes l .dayOff { l with daysOff := l.daysOff + 1 } [.dayOff]
  | checkpoint {day : Day} (hday : l.operatingDay = some day) :
      Takes l .checkpoint l [.checkpoint day l.bank]

variable {next : FlatLedger} {entries : List Entry}

theorem closes_of_close {entry : Option Entry} (h : l.close = .ok (next, entry)) :
    l.Closes next entry := by
  cases hday : l.operatingDay with
  | none =>
    obtain ⟨rfl, rfl⟩ : l = next ∧ none = entry := by simpa [close, hday] using h
    exact .idle hday
  | some day =>
    have hopen : ¬ l.operatingDay.isNone = true := by simp [hday]
    simp only [close, if_neg hopen, bind_eq_ok_iff, pure, Except.pure, Except.ok.injEq,
      Prod.mk.injEq] at h
    obtain ⟨bankDelta, -, bank, -, totalTime, -, span, hspan, rfl, rfl⟩ := h
    exact .day hday hspan

theorem requireDay_eq_ok_iff {k : Keyword} {day : Day} :
    l.requireDay k = .ok day ↔ l.operatingDay = some day := by
  cases hday : l.operatingDay <;> simp [requireDay, hday]

theorem takes_of_step {c : Command} (h : l.step c = .ok (next, entries)) :
    l.Takes c next entries := by
  cases c with
  | bank balance =>
    obtain ⟨rfl, rfl⟩ : { l with bank := balance } = next ∧ [] = entries := by
      simpa [step] using h
    exact .bank balance
  | day date =>
    have hopen : l.openDay date = .ok (next, entries) := mapError_eq_ok_iff.mp h
    simp only [openDay, bind_eq_ok_iff, Prod.exists, pure, Except.pure, Except.ok.injEq,
      Prod.mk.injEq] at hopen
    obtain ⟨closed, entry, hclose, rfl, rfl⟩ := hopen
    exact .day date (closes_of_close hclose)
  | punch clockIn clockOut =>
    simp only [step, punch, bind_eq_ok_iff, requireDay_eq_ok_iff, pure, Except.pure,
      Except.ok.injEq, Prod.mk.injEq] at h
    obtain ⟨day, hday, worked, -, dayTime, -, rfl, rfl⟩ := h
    exact .punch clockIn clockOut hday
  | estimate clockIn =>
    simp only [step, estimate, bind_eq_ok_iff, requireDay_eq_ok_iff, pure, Except.pure,
      Except.ok.injEq, Prod.mk.injEq] at h
    obtain ⟨day, hday, full, -, missing, -, dayTime, -, totalTime, -, clockOut, -, rfl, rfl⟩ := h
    exact .estimate clockIn hday
  | dayOff =>
    simp only [step, dayOff, bind_eq_ok_iff, requireDay_eq_ok_iff] at h
    obtain ⟨day, hday, h⟩ := h
    split at h
    · simp only [pure, Except.pure, Except.ok.injEq, Prod.mk.injEq] at h
      obtain ⟨rfl, rfl⟩ := h
      exact .dayOff hday
    · cases h
  | checkpoint =>
    simp only [step, checkpoint, bind_eq_ok_iff, requireDay_eq_ok_iff, pure, Except.pure,
      Except.ok.injEq, Prod.mk.injEq] at h
    obtain ⟨day, hday, rfl, rfl⟩ := h
    exact .checkpoint hday

end FlatLedger

end HourBank
