import HourBank.Proofs.Ledger.History

/-! The open day. One command opens it and none takes it away; without it the first day is opened
freely, and whatever needs a day is refused before anything is added up. -/

namespace HourBank

def Command.needsDay : Command → Bool
  | .bank _ | .day _ => false
  | _ => true

namespace Ledger

variable {l next : Ledger} {c : Command} {entries : List Entry}

theorem operatingDay_eq_none_iff : l.operatingDay = none ↔ l.current = none := by
  rw [operatingDay, Option.map_eq_none_iff]

theorem dayTime_of_current {d : OpenDay} (hcur : l.current = some d) : l.dayTime = d.time := by
  rw [Ledger.dayTime, hcur, Option.elim_some]

theorem firstClockIn_of_current {d : OpenDay} (hcur : l.current = some d) :
    l.firstClockIn = d.firstClockIn := by
  rw [Ledger.firstClockIn, hcur, Option.bind_some]

theorem mapError_overflow_ne_refused {α : Type} (x : Except Overflow α) (why : Rejection) :
    x.mapError Fault.overflow ≠ .error (.refused why) := by
  cases x <;> exact nofun

theorem onOpenDay_eq_refused_iff {k : Keyword} {run : OpenDay → Except Overflow (Ledger × List Entry)}
    {why : Rejection} :
    l.onOpenDay k run = .error (.refused why) ↔ l.current = none ∧ why = .noOpenDay k := by
  cases hcur : l.current with
  | none => simp [onOpenDay, hcur, eq_comm]
  | some d => simp [onOpenDay, hcur, mapError_overflow_ne_refused]

/-- The one reason to refuse a command is that it needs an open day. The day is looked for before
any operation that could overflow. -/
theorem step_eq_refused_iff {why : Rejection} : l.step c = .error (.refused why) ↔
    l.current = none ∧ c.needsDay = true ∧ why = .noOpenDay c.keyword := by
  cases c with
  | bank balance => simp [step, Command.needsDay]
  | day date => simp [step, mapError_overflow_ne_refused, Command.needsDay]
  | _ => simp [step, onOpenDay_eq_refused_iff, Command.needsDay, Command.keyword]

theorem takes_first_day (hcur : l.current = none) (date : Day) :
    l.Takes (.day date) { l with current := some (.start date) } [.dayOpened date] :=
  .day date (.idle hcur)

theorem Takes.current_eq_none_iff (h : l.Takes c next entries) :
    next.current = none ↔ l.current = none ∧ c.opensDay = false := by
  cases h with
  | bank balance => simp [Command.opensDay]
  | day date hclose => simp [Command.opensDay]
  | punch clockIn clockOut hcur hworked htime => simp [hcur]
  | estimate clockIn hcur hfull hmissing htime htotal hout => simp [hcur]
  | dayOff hcur hfits => simp [hcur]
  | checkpoint hcur => simp [hcur]

end Ledger

end HourBank
