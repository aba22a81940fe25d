import HourBank.Proofs.Run.Audit
import Mathlib.Data.List.DropRight

/-! How far the bank drifts from the exact time over and under. Every day that is closed may lose as
much as the tolerance, and a balance that is set makes good all that was lost before it. -/

namespace HourBank

namespace Schedule

theorem natAbs_delta_sub_le (s : Schedule) (time : Int) :
    (s.delta time - (time - s.full)).natAbs ≤ max s.tolerance.toInt 0 := by
  unfold delta
  split <;> omega

theorem natAbs_sum_delta_sub_le (s : Schedule) (times : List Int) :
    ((times.map s.delta).sum - (times.map (· - s.full)).sum).natAbs ≤
      times.length * max s.tolerance.toInt 0 := by
  induction times with
  | nil => simp
  | cons time times ih =>
    have hday := s.natAbs_delta_sub_le time
    rw [List.map_cons, List.map_cons, List.sum_cons, List.sum_cons, List.length_cons,
      Int.natCast_add, Int.add_mul]
    omega

end Schedule

namespace Event

def balance? : Event → Option Minutes
  | .balance bank => some bank
  | .entry _ => none

def closedTimes (events : List Event) : List Int :=
  (events.filterMap printed?).filterMap Entry.closedTime?

/-- The balance that was set last, zero when none was. -/
def lastBalance (events : List Event) : Int :=
  (events.filterMap balance?).getLast?.elim 0 (·.toInt)

/-- The events after the last balance, all of them when none was set. -/
def sinceBalance (events : List Event) : List Event := events.rtakeWhile (·.balance?.isNone)

/-- The last balance and all the time that the days closed since then were over or under a full
day, whatever is tolerated. -/
def exactBank (s : Schedule) (events : List Event) : Int :=
  lastBalance events + ((closedTimes (sinceBalance events)).map (· - s.full)).sum

theorem closedTimes_concat (events : List Event) (e : Entry) :
    closedTimes (events ++ [.entry e]) = closedTimes events ++ e.closedTime?.toList := by
  cases h : e.closedTime? <;> simp [closedTimes, List.filterMap_append, h]

theorem sinceBalance_concat_balance (events : List Event) (bank : Minutes) :
    sinceBalance (events ++ [.balance bank]) = [] :=
  List.rtakeWhile_concat_neg _ _ _ (by simp [balance?])

theorem sinceBalance_concat_entry (events : List Event) (e : Entry) :
    sinceBalance (events ++ [.entry e]) = sinceBalance events ++ [.entry e] :=
  List.rtakeWhile_concat_pos _ _ _ (by simp [balance?])

theorem lastBalance_concat_balance (events : List Event) (bank : Minutes) :
    lastBalance (events ++ [.balance bank]) = bank.toInt := by
  simp [lastBalance, List.filterMap_append, balance?]

theorem lastBalance_concat_entry (events : List Event) (e : Entry) :
    lastBalance (events ++ [.entry e]) = lastBalance events := by
  simp [lastBalance, List.filterMap_append, balance?]

end Event

theorem bankAfter_singleton_entry (bank : Minutes) (e : Entry) :
    bankAfter bank [.entry e] = e.closedBank?.getD bank := by
  cases h : e.closedBank? <;> simp [bankAfter, Event.bank?, h]

/-- Where the entries agree with the bank, it is the last balance and the movements since. -/
theorem bankAfter_eq_sum {s : Schedule} {events : List Event}
    (h : ∀ before e after, events = before ++ .entry e :: after →
      e.Agrees s (bankAfter .zero before)) :
    (bankAfter .zero events).toInt = Event.lastBalance events +
      ((Event.closedTimes (Event.sinceBalance events)).map s.delta).sum := by
  induction events using List.reverseRecOn with
  | nil => rfl
  | append_singleton events event ih =>
    have hevents : (bankAfter .zero events).toInt = Event.lastBalance events +
        ((Event.closedTimes (Event.sinceBalance events)).map s.delta).sum := by
      apply ih
      intro before e after hsplit
      exact h before e (after ++ [event]) (by simp [hsplit])
    rw [bankAfter_append]
    -- A balance starts the sum again, and of the entries only a day closed moves the bank.
    cases event with
    | balance bank =>
      rw [Event.lastBalance_concat_balance, Event.sinceBalance_concat_balance]
      simp [bankAfter, Event.bank?, Event.closedTimes]
    | entry e =>
      have hagrees : e.Agrees s (bankAfter .zero events) := h events e [] rfl
      rw [bankAfter_singleton_entry, Event.lastBalance_concat_entry,
        Event.sinceBalance_concat_entry, Event.closedTimes_concat, List.map_append,
        List.sum_append]
      cases e with
      | dayClosed span worked bankDelta bank =>
        obtain ⟨hdelta, hbank, -⟩ := hagrees
        have hmoved := Schedule.bankDelta_toInt hdelta
        have hsum : (([worked.toInt].map s.delta).sum : Int) = s.delta worked.toInt := by simp
        simp only [Entry.closedBank?, Entry.closedTime?, Option.getD_some, Option.toList_some]
        omega
      | _ => simpa [Entry.closedBank?, Entry.closedTime?] using hevents

theorem filterMap_balance?_shown (entries : List Entry) :
    (shown entries).filterMap Event.balance? = [] := by
  simp [shown, Event.balance?, List.filterMap_map, Function.comp_def]

theorem filterMap_balance?_events (past : History) :
    past.events.filterMap Event.balance? = past.commands.filterMap Command.balance? := by
  induction past with
  | nil => rfl
  | cons taken past ih =>
    obtain ⟨c, entries⟩ := taken
    have hcons : History.events ((c, entries) :: past) = c.events entries ++ History.events past := rfl
    have hset : (c.balance?.toList.map Event.balance).filterMap Event.balance? =
        c.balance?.toList := by
      cases c.balance? <;> rfl
    rw [hcons, List.filterMap_append, ih, Command.events, List.filterMap_append, hset,
      filterMap_balance?_shown, List.append_nil]
    cases hc : c.balance? <;> simp [History.commands, hc]

namespace Run

/-- The events of a run that comes to a ledger are its entries, its balances among them, and the
ledger has moved as they show. -/
theorem audit_events {l closed : Ledger} {t : Text} (h : (ofText l t).outcome = .ok closed) :
    l.Audit closed (events l t) ∧
      (events l t).filterMap Event.printed? = (ofText l t).entries ∧
      (events l t).filterMap Event.balance? =
        (Ledger.written t.lines).filterMap Command.balance? := by
  obtain ⟨last, past, entry, hread, hclose, hentries⟩ := ofText_outcome_eq_ok h
  have hevents : events l t = past.events ++ shown entry.toList := by
    simp [events, hread, Ledger.close_eq_ok_iff.mpr hclose]
  rw [hevents]
  refine ⟨(Ledger.audit_readLines l hread).trans hclose.audit, ?_, ?_⟩
  · rw [hentries, List.filterMap_append, filterMap_printed?_events, filterMap_printed?_shown]
  · rw [← (Ledger.readLines_eq_ok hread).1, List.filterMap_append, filterMap_balance?_events,
      filterMap_balance?_shown, List.append_nil]

/-- The bank that a run comes to has drifted from the exact one by at most the tolerance for each
day closed since the last balance, so not at all when nothing is tolerated. -/
theorem bank_drift_le {s : Schedule} {t : Text} {closed : Ledger}
    (h : (ofText (.start s) t).outcome = .ok closed) :
    (events (.start s) t).filterMap Event.printed? = (ofText (.start s) t).entries ∧
    (events (.start s) t).filterMap Event.balance? =
      (Ledger.written t.lines).filterMap Command.balance? ∧
    (closed.bank.toInt - Event.exactBank s (events (.start s) t)).natAbs ≤
      (Event.closedTimes (Event.sinceBalance (events (.start s) t))).length *
        max s.tolerance.toInt 0 ∧
    (s.tolerance.toInt ≤ 0 → closed.bank.toInt = Event.exactBank s (events (.start s) t)) := by
  obtain ⟨haudit, hprinted, hbalances⟩ := audit_events h
  have hbank : closed.bank.toInt = Event.lastBalance (events (.start s) t) +
      ((Event.closedTimes (Event.sinceBalance (events (.start s) t))).map s.delta).sum := by
    rw [haudit.bank]
    exact bankAfter_eq_sum haudit.agrees
  have hdrift :=
    s.natAbs_sum_delta_sub_le (Event.closedTimes (Event.sinceBalance (events (.start s) t)))
  refine ⟨hprinted, hbalances, ?_, ?_⟩
  · unfold Event.exactBank
    omega
  · intro htolerance
    rw [Int.max_eq_right htolerance, Int.mul_zero] at hdrift
    unfold Event.exactBank
    omega

/-- The balance makes good the day before it, and ten minutes of the two days after it are lost. -/
theorem bank_drift_le_ten_minutes :
    ∃ t closed, t = ("DATA 2024-01-01\nPONTO 09:00 18:05\nDATA 2024-01-02\nBANCO 01:00\n" ++
        "PONTO 09:00 18:10\nDATA 2024-01-03\nPONTO 09:00 19:00").toList ∧
      (ofText (.start .standard) t).outcome = .ok closed ∧ closed.bank.toInt = 120 ∧
      Event.exactBank .standard (events (.start .standard) t) = 130 ∧
      (closed.bank.toInt - Event.exactBank .standard (events (.start .standard) t)).natAbs ≤
        (Event.closedTimes (Event.sinceBalance (events (.start .standard) t))).length *
          max Schedule.standard.tolerance.toInt 0 := by
  have hrun : (ofText (.start .standard)
      ("DATA 2024-01-01\nPONTO 09:00 18:05\nDATA 2024-01-02\nBANCO 01:00\n" ++
        "PONTO 09:00 18:10\nDATA 2024-01-03\nPONTO 09:00 19:00").toList).outcome =
      .ok { schedule := .standard
            current := some ⟨⟨2024, 1, 3⟩, some { toInt := 540 }, { toInt := 600 }⟩
            bank := { toInt := 120 }
            totalTime := { toInt := 1695 }
            daysOff := 0 } := by decide +kernel
  obtain ⟨-, -, hdrift, -⟩ := bank_drift_le hrun
  exact ⟨_, _, rfl, hrun, rfl, by decide +kernel, hdrift⟩

end Run

end HourBank
