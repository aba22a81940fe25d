import HourBank.Proofs.Run.Lines
import Mathlib.Algebra.Ring.Int.Defs

/-! A run audited from its report. The entries and the ledger are computed apart; here they are
tied together, entry by entry, over all that a run shows. -/

namespace HourBank

/-- What an auditor sees: the balances that lines set without a word, and the entries printed. -/
inductive Event
  | balance (bank : Minutes)
  | entry (e : Entry)

namespace Entry

def isDayOff : Entry → Bool
  | .dayOff => true
  | _ => false

def isEstimate : Entry → Bool
  | .estimate .. => true
  | _ => false

def closedTime? : Entry → Option Int
  | .dayClosed _ worked _ _ => some worked.toInt
  | _ => none

def closedBank? : Entry → Option Minutes
  | .dayClosed _ _ _ bank => some bank
  | _ => none

def Agrees (s : Schedule) (base : Minutes) : Entry → Prop
  | .dayClosed span worked bankDelta bank =>
    s.bankDelta worked = .ok bankDelta ∧ bank.toInt = base.toInt + bankDelta.toInt ∧
      ∀ clockIn clockOut, span = some (clockIn, clockOut) →
        clockOut.toInt - clockIn.toInt = worked.toInt
  | .checkpoint _ bank => bank = base
  | _ => True

end Entry

namespace Event

def printed? : Event → Option Entry
  | .entry e => some e
  | _ => none

@[simp]
theorem printed?_balance (bank : Minutes) : (balance bank).printed? = none := rfl

@[simp]
theorem printed?_entry (e : Entry) : (entry e).printed? = some e := rfl

def bank? : Event → Option Minutes
  | .balance bank => some bank
  | .entry e => e.closedBank?

end Event

/-- The bank after some events: that of the last day closed or, when a balance was set later, that
balance. -/
def bankAfter (bank : Minutes) (events : List Event) : Minutes :=
  (events.filterMap Event.bank?).getLast?.getD bank

def shown (entries : List Entry) : List Event := entries.map .entry

def Command.events (c : Command) (entries : List Entry) : List Event :=
  c.balance?.toList.map .balance ++ shown entries

def History.events (past : History) : List Event := past.flatMap fun (c, entries) => c.events entries

@[simp]
theorem bankAfter_nil (bank : Minutes) : bankAfter bank [] = bank := rfl

theorem bankAfter_append (bank : Minutes) (xs ys : List Event) :
    bankAfter bank (xs ++ ys) = bankAfter (bankAfter bank xs) ys := by
  simp only [bankAfter, List.filterMap_append, List.getLast?_append]
  cases (ys.filterMap Event.bank?).getLast? <;> simp

/-- The ledger has moved as the events show. -/
structure Ledger.Audit (l next : Ledger) (events : List Event) : Prop where
  schedule : next.schedule = l.schedule
  bank : next.bank = bankAfter l.bank events
  totalTime : next.totalTime.toInt = l.totalTime.toInt +
    ((events.filterMap Event.printed?).filterMap Entry.closedTime?).sum +
    l.schedule.full * ((events.filterMap Event.printed?).countP Entry.isEstimate)
  daysOff : next.daysOff.toNat =
    l.daysOff.toNat + (events.filterMap Event.printed?).countP Entry.isDayOff
  agrees : ∀ before e after, events = before ++ .entry e :: after →
    e.Agrees l.schedule (bankAfter l.bank before)

namespace Ledger

theorem Audit.refl (l : Ledger) : l.Audit l [] where
  schedule := rfl
  bank := rfl
  totalTime := by simp
  daysOff := by simp
  agrees := by simp

theorem Audit.trans {l mid next : Ledger} {xs ys : List Event} (h : l.Audit mid xs)
    (h' : mid.Audit next ys) : l.Audit next (xs ++ ys) := by
  have hschedule := h.schedule
  constructor
  · rw [h'.schedule, h.schedule]
  · rw [h'.bank, h.bank, bankAfter_append]
  · rw [h'.totalTime, h.totalTime, hschedule]
    simp only [List.filterMap_append, List.sum_append, List.countP_append]
    grind
  · rw [h'.daysOff, h.daysOff]
    simp only [List.filterMap_append, List.countP_append]
    omega
  · intro before e after hsplit
    -- The cut before an entry falls in `ys`, at the seam, or inside `xs`.
    rcases List.append_eq_append_iff.mp hsplit with ⟨ws, hbefore, hys⟩ | ⟨ws, hxs, hafter⟩
    · subst hbefore
      rw [bankAfter_append, ← h.bank, ← hschedule]
      exact h'.agrees ws e after hys
    · cases ws with
      | nil =>
        rw [List.append_nil] at hxs
        subst hxs
        have hys := h'.agrees [] e after (by simpa using hafter.symm)
        simpa only [bankAfter_nil, h.bank, hschedule] using hys
      | cons w ws =>
        obtain ⟨rfl, hafter⟩ := List.cons.inj hafter
        exact h.agrees before e ws hxs

theorem span_toInt {d : OpenDay} {span : Option (Minutes × Minutes)} (h : d.span = .ok span)
    (clockIn clockOut : Minutes) (hspan : span = some (clockIn, clockOut)) :
    clockOut.toInt - clockIn.toInt = d.time.toInt := by
  subst hspan
  unfold OpenDay.span at h
  split at h
  · simp at h
  · simp only [bind_eq_ok_iff, Minutes.add_eq_ok_iff, pure, Except.pure, Except.ok.injEq,
      Option.some.injEq, Prod.mk.injEq] at h
    obtain ⟨out, hout, rfl, rfl⟩ := h
    omega

theorem audit_balance (l : Ledger) (balance : Minutes) :
    l.Audit { l with bank := balance } [.balance balance] where
  schedule := rfl
  bank := rfl
  totalTime := by
    rw [List.filterMap_cons_none (Event.printed?_balance balance)]
    simp
  daysOff := by simp
  agrees := by
    intro before e after hsplit
    cases before with
    | nil => simp at hsplit
    | cons b before => simp at hsplit

theorem audit_entry {l next : Ledger} {e : Entry} (hschedule : next.schedule = l.schedule)
    (hbank : next.bank = e.closedBank?.getD l.bank)
    (htotal : next.totalTime.toInt = l.totalTime.toInt + e.closedTime?.getD 0 +
      if e.isEstimate = true then l.schedule.full else 0)
    (hdaysOff : next.daysOff.toNat = l.daysOff.toNat + if e.isDayOff = true then 1 else 0)
    (hagrees : e.Agrees l.schedule l.bank) : l.Audit next [.entry e] where
  schedule := hschedule
  bank := by
    rw [hbank]
    cases he : e.closedBank? <;> simp [bankAfter, Event.bank?, he]
  totalTime := by
    rw [htotal]
    cases he : e.closedTime? <;> cases hest : e.isEstimate <;> simp [he, hest]
  daysOff := by
    rw [hdaysOff]
    simp [List.countP_cons]
  agrees := by
    intro before e' after hsplit
    cases before with
    | nil =>
      obtain ⟨he, -⟩ := List.cons.inj hsplit
      obtain rfl : e = e' := Event.entry.inj he
      exact hagrees
    | cons b before => simp at hsplit

theorem Closes.audit {l closed : Ledger} {entry : Option Entry} (h : l.Closes closed entry) :
    l.Audit closed (shown entry.toList) := by
  cases h with
  | idle hcur => exact Audit.refl l
  | day hcur hdelta hbank htotal hspan =>
    refine audit_entry rfl rfl ?_ ?_ ⟨hdelta, hbank, span_toInt hspan⟩
    · simpa [Entry.closedTime?, Entry.isEstimate] using htotal
    · simp [Entry.isDayOff]

theorem Takes.audit {l next : Ledger} {c : Command} {entries : List Entry}
    (h : l.Takes c next entries) : l.Audit next (c.events entries) := by
  cases h with
  | bank balance => exact audit_balance l balance
  | @day closed entry date hclose =>
    have hopen : closed.Audit { closed with current := some (.start date) }
        [.entry (.dayOpened date)] := by
      refine audit_entry rfl rfl ?_ ?_ trivial
      · simp [Entry.closedTime?, Entry.isEstimate]
      · simp [Entry.isDayOff]
    simpa [Command.events, Command.balance?, shown] using hclose.audit.trans hopen
  | punch clockIn clockOut hcur hworked htime =>
    refine audit_entry rfl rfl ?_ ?_ trivial
    · simp [Entry.closedTime?, Entry.isEstimate]
    · simp [Entry.isDayOff]
  | estimate clockIn hcur hfull hmissing htime htotal hout =>
    refine audit_entry rfl rfl ?_ ?_ trivial
    · simp [Entry.closedTime?, Entry.isEstimate]
      omega
    · simp [Entry.isDayOff]
  | dayOff hcur hfits =>
    refine audit_entry rfl rfl ?_ ?_ trivial
    · simp [Entry.closedTime?, Entry.isEstimate]
    · simpa [Entry.isDayOff] using toNat_add_one hfits
  | checkpoint hcur =>
    refine audit_entry rfl rfl ?_ ?_ rfl
    · simp [Entry.closedTime?, Entry.isEstimate]
    · simp [Entry.isDayOff]

theorem audit_readLines (l : Ledger) {last : Ledger} {lines : List Text} {past : History}
    (h : l.readLines lines = .ok (last, past)) : l.Audit last past.events := by
  refine follow_invariant (P := fun past last => l.Audit last past.events)
    (readLines_eq_ok h).2 (Audit.refl l) ?_
  intro past mid c next entries haudit htakes
  simpa [History.events] using haudit.trans htakes.audit

/-- A day that was closed while lines were read has given way to another. -/
theorem current_isSome_of_closed {l last : Ledger} {lines : List Text} {past : History}
    (h : l.readLines lines = .ok (last, past))
    (hclosed : past.entries.filterMap Entry.closedBank? ≠ []) : last.current.isSome = true := by
  revert hclosed
  refine follow_invariant (P := fun past last =>
    past.entries.filterMap Entry.closedBank? ≠ [] → last.current.isSome = true)
    (readLines_eq_ok h).2 ?_ ?_
  · simp [History.entries]
  · intro past mid c next entries ih htakes
    cases htakes with
    | bank balance => simpa [History.entries] using ih
    | day date hclose => simp
    | punch clockIn clockOut hcur hworked htime => simp
    | estimate clockIn hcur hfull hmissing htime htotal hout => simp
    | dayOff hcur hfits => simp [hcur]
    | checkpoint hcur => simp [hcur]

end Ledger

theorem filterMap_printed?_shown (entries : List Entry) :
    (shown entries).filterMap Event.printed? = entries := by
  simp [shown, List.filterMap_map, Function.comp_def]

theorem filterMap_printed?_events (past : History) :
    past.events.filterMap Event.printed? = past.entries := by
  induction past with
  | nil => rfl
  | cons taken past ih =>
    obtain ⟨c, entries⟩ := taken
    have hsilent : (c.balance?.toList.map Event.balance).filterMap Event.printed? = [] := by
      cases c.balance? <;> rfl
    have hcons : History.events ((c, entries) :: past) = c.events entries ++ History.events past := rfl
    rw [hcons, List.filterMap_append, ih, Command.events, List.filterMap_append, hsilent,
      filterMap_printed?_shown]
    rfl

namespace Run

/-- All that a run shows which comes to a ledger: its lines in order, then the end of the last day. -/
def events (l : Ledger) (t : Text) : List Event :=
  match l.readLines t.lines with
  | .ok (last, past) =>
    past.events ++ match last.close with
      | .ok (_, entry) => shown entry.toList
      | .error _ => []
  | .error _ => []

/-- The totals that a run comes to, and every bank and movement it prints, follow from what it
prints and the balances its lines set. -/
theorem summary_of_events {s : Schedule} {t : Text} {closed : Ledger}
    (h : (ofText (.start s) t).outcome = .ok closed) :
    closed.summary.daysOff.toNat = (ofText (.start s) t).entries.countP Entry.isDayOff ∧
    closed.summary.timeInOffice.toInt =
      ((ofText (.start s) t).entries.filterMap Entry.closedTime?).sum +
        s.full * (ofText (.start s) t).entries.countP Entry.isEstimate ∧
    (∀ bank, ((ofText (.start s) t).entries.filterMap Entry.closedBank?).getLast? = some bank →
      closed.summary.bank = bank) ∧
    (events (.start s) t).filterMap Event.printed? = (ofText (.start s) t).entries ∧
    ∀ before e after, events (.start s) t = before ++ .entry e :: after →
      e.Agrees s (bankAfter .zero before) := by
  obtain ⟨last, past, entry, hread, hclose, hentries⟩ := ofText_outcome_eq_ok h
  have hevents : events (.start s) t = past.events ++ shown entry.toList := by
    simp [events, hread, Ledger.close_eq_ok_iff.mpr hclose]
  have haudit : (Ledger.start s).Audit closed (events (.start s) t) := by
    rw [hevents]
    exact (Ledger.audit_readLines _ hread).trans hclose.audit
  have hshown : (events (.start s) t).filterMap Event.printed? = (ofText (.start s) t).entries := by
    rw [hevents, hentries, List.filterMap_append, filterMap_printed?_events, filterMap_printed?_shown]
  refine ⟨?_, ?_, ?_, hshown, haudit.agrees⟩
  · have hdaysOff := haudit.daysOff
    rw [hshown] at hdaysOff
    simpa [Ledger.start, Ledger.summary] using hdaysOff
  · have htotal := haudit.totalTime
    rw [hshown] at htotal
    simpa [Ledger.start, Ledger.summary] using htotal
  · intro bank hbank
    rw [hentries] at hbank
    cases hclose with
    | idle hcur =>
      -- No day is open at the end, so none was ever closed.
      have hnone : past.entries.filterMap Entry.closedBank? = [] := by
        cases hsome : past.entries.filterMap Entry.closedBank? with
        | nil => rfl
        | cons b rest =>
          have hopen := Ledger.current_isSome_of_closed hread (by simp [hsome])
          simp [hcur] at hopen
      simp [hnone] at hbank
    | day hcur hdelta hbank' htotal hspan =>
      simpa [Entry.closedBank?, List.filterMap_append, Ledger.summary] using hbank

theorem summary_of_events_two_days :
    ∃ t closed, t = ("DATA 2024-01-01\nPONTO 09:00 19:30\nBANCO -00:15\nBANCOZERO\n" ++
        "DATA 2024-01-02\nESTIMATE 08:00\nDAYOFF").toList ∧
      (ofText (.start .standard) t).outcome = .ok closed ∧
      closed.summary.timeInOffice.toInt =
        ((ofText (.start .standard) t).entries.filterMap Entry.closedTime?).sum +
          Schedule.standard.full * (ofText (.start .standard) t).entries.countP Entry.isEstimate ∧
      ∀ before e after, events (.start .standard) t = before ++ .entry e :: after →
        e.Agrees .standard (bankAfter .zero before) := by
  have hrun : ∃ closed, (ofText (.start .standard)
      ("DATA 2024-01-01\nPONTO 09:00 19:30\nBANCO -00:15\nBANCOZERO\n" ++
        "DATA 2024-01-02\nESTIMATE 08:00\nDAYOFF").toList).outcome = .ok closed := ⟨_, rfl⟩
  obtain ⟨closed, hclosed⟩ := hrun
  obtain ⟨-, htotal, -, -, hagrees⟩ := summary_of_events hclosed
  exact ⟨_, closed, rfl, hclosed, htotal, hagrees⟩

end Run

end HourBank
