import HourBank.Ledger.Step
import HourBank.Proofs.Feed

/-! What a command and the end of a day do to a ledger, told in exact integers. Everything else
about ledgers is derived from these two relations. -/

namespace HourBank

namespace Minutes

theorem add_eq_ok_iff {a b c : Minutes} : a.add b = .ok c ↔ c.toInt = a.toInt + b.toInt :=
  checked_eq_ok_iff

theorem sub_eq_ok_iff {a b c : Minutes} : a.sub b = .ok c ↔ c.toInt = a.toInt - b.toInt :=
  checked_eq_ok_iff

theorem abs_eq_ok_iff {a b : Minutes} : a.abs = .ok b ↔ b.toInt = a.toInt.natAbs :=
  checked_eq_ok_iff

@[simp]
theorem zero_toInt : zero.toInt = 0 := rfl

end Minutes

namespace Schedule

def full (s : Schedule) : Int := s.workday.toInt + s.lunch.toInt

/-- The exact movement of the bank for a day with this time in the office. -/
def delta (s : Schedule) (time : Int) : Int :=
  if s.tolerance.toInt < (s.full - time).natAbs then time - s.full else 0

theorem fullDay_eq_ok_iff {s : Schedule} {m : Minutes} : s.fullDay = .ok m ↔ m.toInt = s.full :=
  Minutes.add_eq_ok_iff

theorem bankDelta_toInt {s : Schedule} {time d : Minutes} (h : s.bankDelta time = .ok d) :
    d.toInt = s.delta time.toInt := by
  simp only [bankDelta, bind_eq_ok_iff] at h
  obtain ⟨full, hfull, difference, hdiff, distance, hdist, h⟩ := h
  rw [fullDay_eq_ok_iff] at hfull
  rw [Minutes.sub_eq_ok_iff] at hdiff
  rw [Minutes.abs_eq_ok_iff] at hdist
  have hd : distance.toInt = (s.full - time.toInt).natAbs := by rw [hdist, hdiff, hfull]
  simp only [Minutes.lt_def, hd] at h
  unfold delta
  split at h
  · rename_i hfar
    rw [Minutes.sub_eq_ok_iff, hfull] at h
    rw [if_pos hfar, h]
  · rename_i hnear
    cases h
    rw [if_neg hnear, Minutes.zero_toInt]

end Schedule

namespace Ledger

/-- The ledger and the entry that the end of the open day leaves. -/
inductive Closes (l : Ledger) : Ledger → Option Entry → Prop
  | idle (hcur : l.current = none) : Closes l l none
  | day {d : OpenDay} {span : Option (Minutes × Minutes)} {bankDelta bank totalTime : Minutes}
      (hcur : l.current = some d) (hdelta : l.schedule.bankDelta d.time = .ok bankDelta)
      (hbank : bank.toInt = l.bank.toInt + bankDelta.toInt)
      (htotal : totalTime.toInt = l.totalTime.toInt + d.time.toInt) (hspan : d.span = .ok span) :
      Closes l { l with bank, totalTime } (some (.dayClosed span d.time bankDelta bank))

/-- The ledger that a command leads to and the entries it reports. -/
inductive Takes (l : Ledger) : Command → Ledger → List Entry → Prop
  | bank (balance : Minutes) : Takes l (.bank balance) { l with bank := balance } []
  | day {closed : Ledger} {entry : Option Entry} (date : Day) (hclose : l.Closes closed entry) :
      Takes l (.day date) { closed with current := some (.start date) }
        (entry.toList ++ [.dayOpened date])
  | punch {d : OpenDay} {worked time : Minutes} (clockIn clockOut : Minutes)
      (hcur : l.current = some d) (hworked : worked.toInt = clockOut.toInt - clockIn.toInt)
      (htime : time.toInt = d.time.toInt + worked.toInt) :
      Takes l (.punch clockIn clockOut)
        { l with current := some ⟨d.day, d.firstClockIn.or (some clockIn), time⟩ }
        [.punch clockIn clockOut worked]
  | estimate {d : OpenDay} {full missing time totalTime clockOut : Minutes} (clockIn : Minutes)
      (hcur : l.current = some d) (hfull : full.toInt = l.schedule.full)
      (hmissing : missing.toInt = full.toInt - d.time.toInt)
      (htime : time.toInt = d.time.toInt + full.toInt)
      (htotal : totalTime.toInt = l.totalTime.toInt + full.toInt)
      (hout : clockOut.toInt = clockIn.toInt + (max missing .zero).toInt) :
      Takes l (.estimate clockIn)
        { l with current := some ⟨d.day, some clockIn, time⟩, totalTime }
        [.estimate clockIn clockOut (max missing .zero)]
  | dayOff {d : OpenDay} (hcur : l.current = some d) (hfits : l.daysOff.toNat + 1 < UInt32.size) :
      Takes l .dayOff { l with daysOff := l.daysOff + 1 } [.dayOff]
  | checkpoint {d : OpenDay} (hcur : l.current = some d) :
      Takes l .checkpoint l [.checkpoint d.day l.bank]

theorem close_eq_ok_iff {l closed : Ledger} {entry : Option Entry} :
    l.close = .ok (closed, entry) ↔ l.Closes closed entry := by
  unfold close
  split
  · rename_i hcur
    simp only [Except.ok.injEq, Prod.mk.injEq]
    constructor
    · rintro ⟨rfl, rfl⟩
      exact .idle hcur
    · intro h
      cases h with
      | idle => exact ⟨rfl, rfl⟩
      | day hcur' => simp [hcur] at hcur'
  · rename_i d hcur
    simp only [bind_eq_ok_iff, Minutes.add_eq_ok_iff, pure, Except.pure, Except.ok.injEq,
      Prod.mk.injEq]
    constructor
    · rintro ⟨bankDelta, hdelta, bank, hbank, totalTime, htotal, span, hspan, rfl, rfl⟩
      exact .day hcur hdelta hbank htotal hspan
    · intro h
      cases h with
      | idle hcur' => simp [hcur] at hcur'
      | day hcur' hdelta hbank htotal hspan =>
        obtain rfl : d = _ := Option.some.inj (hcur.symm.trans hcur')
        exact ⟨_, hdelta, _, hbank, _, htotal, _, hspan, rfl, rfl⟩

theorem toNat_add_one {n : UInt32} (h : n.toNat + 1 < UInt32.size) :
    (n + 1).toNat = n.toNat + 1 := by
  rw [UInt32.toNat_add]
  exact Nat.mod_eq_of_lt h

theorem onOpenDay_eq_ok_iff {l : Ledger} {k : Keyword}
    {run : OpenDay → Except Overflow (Ledger × List Entry)} {result : Ledger × List Entry} :
    l.onOpenDay k run = .ok result ↔ ∃ d, l.current = some d ∧ run d = .ok result := by
  cases hcur : l.current <;> simp [onOpenDay, hcur, mapError_eq_ok_iff]

theorem openDay_eq_ok_iff {l next : Ledger} {date : Day} {entries : List Entry} :
    l.openDay date = .ok (next, entries) ↔ l.Takes (.day date) next entries := by
  simp only [openDay, bind_eq_ok_iff, Prod.exists, close_eq_ok_iff, pure, Except.pure,
    Except.ok.injEq, Prod.mk.injEq]
  constructor
  · rintro ⟨closed, entry, hclose, rfl, rfl⟩
    exact .day date hclose
  · rintro ⟨⟩
    exact ⟨_, _, ‹_›, rfl, rfl⟩

theorem punch_eq_ok_iff {l next : Ledger} {d : OpenDay} {clockIn clockOut : Minutes}
    {entries : List Entry} (hcur : l.current = some d) :
    l.punch d clockIn clockOut = .ok (next, entries) ↔
      l.Takes (.punch clockIn clockOut) next entries := by
  simp only [punch, bind_eq_ok_iff, Minutes.sub_eq_ok_iff, Minutes.add_eq_ok_iff, pure,
    Except.pure, Except.ok.injEq, Prod.mk.injEq]
  constructor
  · rintro ⟨worked, hworked, time, htime, rfl, rfl⟩
    exact .punch clockIn clockOut hcur hworked htime
  · intro h
    cases h with
    | punch _ _ hcur' hworked htime =>
      obtain rfl : d = _ := Option.some.inj (hcur.symm.trans hcur')
      exact ⟨_, hworked, _, htime, rfl, rfl⟩

theorem estimate_eq_ok_iff {l next : Ledger} {d : OpenDay} {clockIn : Minutes}
    {entries : List Entry} (hcur : l.current = some d) :
    l.estimate d clockIn = .ok (next, entries) ↔ l.Takes (.estimate clockIn) next entries := by
  simp only [estimate, bind_eq_ok_iff, Schedule.fullDay_eq_ok_iff, Minutes.sub_eq_ok_iff,
    Minutes.add_eq_ok_iff, pure, Except.pure, Except.ok.injEq, Prod.mk.injEq]
  constructor
  · rintro ⟨full, hfull, missing, hmissing, time, htime, totalTime, htotal, clockOut, hout, rfl, rfl⟩
    exact .estimate clockIn hcur hfull hmissing htime htotal hout
  · intro h
    cases h with
    | estimate _ hcur' hfull hmissing htime htotal hout =>
      obtain rfl : d = _ := Option.some.inj (hcur.symm.trans hcur')
      exact ⟨_, hfull, _, hmissing, _, htime, _, htotal, _, hout, rfl, rfl⟩

theorem dayOff_eq_ok_iff {l next : Ledger} {d : OpenDay} {entries : List Entry}
    (hcur : l.current = some d) :
    l.dayOff = .ok (next, entries) ↔ l.Takes .dayOff next entries := by
  unfold dayOff
  split
  · rename_i hfits
    simp only [Except.ok.injEq, Prod.mk.injEq]
    constructor
    · rintro ⟨rfl, rfl⟩
      exact .dayOff hcur hfits
    · rintro ⟨⟩
      exact ⟨rfl, rfl⟩
  · rename_i hfull
    simp only [reduceCtorEq, false_iff]
    rintro ⟨⟩
    exact hfull ‹_›

theorem step_eq_ok_iff {l next : Ledger} {c : Command} {entries : List Entry} :
    l.step c = .ok (next, entries) ↔ l.Takes c next entries := by
  cases c with
  | bank balance =>
    simp only [step, Except.ok.injEq, Prod.mk.injEq]
    constructor
    · rintro ⟨rfl, rfl⟩
      exact .bank balance
    · rintro ⟨⟩
      exact ⟨rfl, rfl⟩
  | day date => rw [step, mapError_eq_ok_iff, openDay_eq_ok_iff]
  | punch clockIn clockOut =>
    rw [step, onOpenDay_eq_ok_iff]
    constructor
    · rintro ⟨d, hcur, h⟩
      exact (punch_eq_ok_iff hcur).mp h
    · intro h
      cases h with
      | punch _ _ hcur hworked htime =>
        exact ⟨_, hcur, (punch_eq_ok_iff hcur).mpr (.punch _ _ hcur hworked htime)⟩
  | estimate clockIn =>
    rw [step, onOpenDay_eq_ok_iff]
    constructor
    · rintro ⟨d, hcur, h⟩
      exact (estimate_eq_ok_iff hcur).mp h
    · intro h
      cases h with
      | estimate _ hcur hfull hmissing htime htotal hout =>
        exact ⟨_, hcur,
          (estimate_eq_ok_iff hcur).mpr (.estimate _ hcur hfull hmissing htime htotal hout)⟩
  | dayOff =>
    rw [step, onOpenDay_eq_ok_iff]
    constructor
    · rintro ⟨d, hcur, h⟩
      exact (dayOff_eq_ok_iff hcur).mp h
    · intro h
      cases h with
      | dayOff hcur hfits => exact ⟨_, hcur, (dayOff_eq_ok_iff hcur).mpr (.dayOff hcur hfits)⟩
  | checkpoint =>
    simp only [step, onOpenDay_eq_ok_iff, Except.ok.injEq, Prod.mk.injEq]
    constructor
    · rintro ⟨d, hcur, rfl, rfl⟩
      exact .checkpoint hcur
    · intro h
      cases h with
      | checkpoint hcur => exact ⟨_, hcur, rfl, rfl⟩

end Ledger

end HourBank
