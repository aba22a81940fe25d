import HourBank.Proofs.Run.Lines
import HourBank.Proofs.Text.Lines

/-! A ledger carried from one run into the next. The end of a run closes the open day but leaves it
open, so the next run closes it once more. -/

namespace HourBank

namespace Ledger

/-- The same open day under the same schedule, with this much more time and bank. -/
structure Shifted (time bank : Int) (l m : Ledger) : Prop where
  schedule : m.schedule = l.schedule
  current : m.current = l.current
  daysOff : m.daysOff = l.daysOff
  totalTime : m.totalTime.toInt = l.totalTime.toInt + time
  bank : m.bank.toInt = l.bank.toInt + bank

/-- What closing the open day moves the bank by. -/
def closingDelta (l : Ledger) : Int := l.current.elim 0 fun d => l.schedule.delta d.time.toInt

theorem Closes.shifted {l closed : Ledger} {entry : Option Entry} (h : l.Closes closed entry) :
    l.Shifted closed.dayTime.toInt closed.closingDelta closed := by
  cases h with
  | idle hcur => constructor <;> simp [Ledger.dayTime, closingDelta, hcur]
  | day hcur hdelta hbank htotal hspan =>
    have hmoved := Schedule.bankDelta_toInt hdelta
    constructor <;> simp [Ledger.dayTime, closingDelta, hcur, hbank, htotal, hmoved]

theorem Shifted.openDay_eq {time bank : Int} {l m : Ledger} {d d' : OpenDay}
    (h : l.Shifted time bank m) (hl : l.current = some d) (hm : m.current = some d') : d = d' :=
  Option.some.inj (hl.symm.trans (h.current.symm.trans hm))

theorem Shifted.closes {time bank : Int} {l m l' m' : Ledger} {e e' : Option Entry}
    (h : l.Shifted time bank m) (hl : l.Closes l' e) (hm : m.Closes m' e') :
    l'.Shifted time bank m' := by
  cases hl with
  | idle hcur =>
    cases hm with
    | idle hcur' => exact h
    | day hcur' => simp [h.current, hcur] at hcur'
  | @day d span bankDelta bank totalTime hcur hdelta hbank htotal hspan =>
    cases hm with
    | idle hcur' => simp [h.current, hcur] at hcur'
    | day hcur' hdelta' hbank' htotal' hspan' =>
      obtain rfl := h.openDay_eq hcur hcur'
      rw [h.schedule, hdelta] at hdelta'
      obtain rfl := Except.ok.inj hdelta'
      have htime := h.totalTime
      have hmore := h.bank
      exact ⟨h.schedule, h.current, h.daysOff, by simp only; omega, by simp only; omega⟩

theorem Shifted.takes {time bank : Int} {l m l' m' : Ledger} {c : Command} {es es' : List Entry}
    (h : l.Shifted time bank m) (hl : l.Takes c l' es) (hm : m.Takes c m' es') :
    l'.Shifted time (if c.setsBalance = true then 0 else bank) m' := by
  have htime := h.totalTime
  have hmore := h.bank
  cases hl with
  | bank balance =>
    -- The balance replaces both banks, and what set them apart is gone.
    cases hm
    exact ⟨h.schedule, h.current, h.daysOff, htime, by simp [Command.setsBalance]⟩
  | day date hclose =>
    cases hm with
    | day _ hclose' =>
      have hclosed := h.closes hclose hclose'
      exact ⟨hclosed.schedule, rfl, hclosed.daysOff, hclosed.totalTime, hclosed.bank⟩
  | @punch d worked time clockIn clockOut hcur hworked htime =>
    cases hm with
    | @punch d' worked' time' _ _ hcur' hworked' htime' =>
      obtain rfl := h.openDay_eq hcur hcur'
      obtain rfl : time = time' := Minutes.ext (by omega)
      exact ⟨h.schedule, rfl, h.daysOff, h.totalTime, h.bank⟩
  | @estimate d full missing time totalTime clockOut clockIn hcur hfull _ htime htotal _ =>
    cases hm with
    | @estimate d' full' missing' time' totalTime' clockOut' _ hcur' hfull' _ htime' htotal' _ =>
      obtain rfl := h.openDay_eq hcur hcur'
      rw [h.schedule] at hfull'
      obtain rfl : time = time' := Minutes.ext (by omega)
      have hmore := h.totalTime
      exact ⟨h.schedule, rfl, h.daysOff, by simp only; omega, h.bank⟩
  | dayOff hcur hfits =>
    cases hm with
    | dayOff hcur' hfits' =>
      have hdaysOff := h.daysOff
      exact ⟨h.schedule, h.current, by simp only [hdaysOff], h.totalTime, h.bank⟩
  | checkpoint hcur =>
    cases hm with
    | checkpoint hcur' => exact h

theorem Shifted.follow {time bank : Int} {l m l' m' : Ledger} {cs : List Command}
    {past past' : History} (h : l.Shifted time bank m) (hl : l.follow cs = .ok (l', past))
    (hm : m.follow cs = .ok (m', past')) :
    l'.Shifted time (if cs.any Command.setsBalance = true then 0 else bank) m' := by
  induction cs generalizing l m past past' bank with
  | nil =>
    obtain ⟨rfl, rfl⟩ := feed_nil_eq_ok_iff.mp hl
    obtain ⟨rfl, rfl⟩ := feed_nil_eq_ok_iff.mp hm
    exact h
  | cons c cs ih =>
    obtain ⟨l₁, _, _, hc, hrest, rfl⟩ := feed_cons_eq_ok_iff.mp hl
    obtain ⟨m₁, _, _, hc', hrest', rfl⟩ := feed_cons_eq_ok_iff.mp hm
    obtain ⟨es, htakes, rfl⟩ := perform_eq_ok_iff.mp hc
    obtain ⟨es', htakes', rfl⟩ := perform_eq_ok_iff.mp hc'
    have hshifted := ih (h.takes htakes htakes') hrest hrest'
    cases hset : c.setsBalance <;> simpa [hset] using hshifted

theorem Shifted.eq_iff {time bank : Int} {l m : Ledger} (h : l.Shifted time bank m) :
    m = l ↔ time = 0 ∧ bank = 0 := by
  have htime := h.totalTime
  have hbank := h.bank
  constructor
  · rintro rfl
    omega
  · rintro ⟨rfl, rfl⟩
    obtain ⟨schedule, current, bank, totalTime, daysOff⟩ := m
    simp only [Int.add_zero] at htime hbank
    obtain rfl := h.schedule
    obtain rfl := h.current
    obtain rfl := h.daysOff
    obtain rfl := Minutes.ext hbank
    obtain rfl := Minutes.ext htime
    rfl

end Ledger

namespace Run

theorem written_append (xs ys : List Text) :
    Ledger.written (xs ++ ys) = Ledger.written xs ++ Ledger.written ys :=
  List.filterMap_append

theorem written_lines_append (a b : Text) :
    Ledger.written (Text.lines (a ++ '\n' :: b)) =
      Ledger.written a.lines ++ Ledger.written b.lines := by
  obtain ⟨ls, -, hls, hb⟩ := Text.lines_append_lineFeed a
  have hblank : Ledger.written [[]] = [] := rfl
  rw [hb, written_append]
  rcases hls with hls | hls
  · rw [hls]
  · rw [hls, written_append, hblank, List.append_nil]

theorem ofText_outcome_follow {l closed : Ledger} {t : Text}
    (h : (ofText l t).outcome = .ok closed) : ∃ last past entry,
      l.follow (Ledger.written t.lines) = .ok (last, past) ∧ last.Closes closed entry := by
  obtain ⟨last, past, entry, hread, hclose, -⟩ := ofText_outcome_eq_ok h
  obtain ⟨hwritten, hfollow⟩ := Ledger.readLines_eq_ok hread
  exact ⟨last, past, entry, hwritten ▸ hfollow, hclose⟩

/-- A text cut in two at the end of a line and run in two runs, the ledger carried over, comes to
what the whole text comes to, but for one more closing of the day that is open at the cut. -/
theorem carried_day_closes_again {l₀ l₁ l₂ l : Ledger} {a b : Text}
    (ha : (ofText l₀ a).outcome = .ok l₁) (hb : (ofText l₁ b).outcome = .ok l₂)
    (hab : (ofText l₀ (a ++ '\n' :: b)).outcome = .ok l) :
    l₂.schedule = l.schedule ∧ l₂.current = l.current ∧ l₂.daysOff = l.daysOff ∧
    l₂.totalTime.toInt = l.totalTime.toInt + l₁.dayTime.toInt ∧
    l₂.bank.toInt = l.bank.toInt +
      (if (Ledger.written b.lines).any Command.setsBalance = true then 0
        else l₁.closingDelta) ∧
    (l₂ = l ↔ l₁.dayTime.toInt = 0 ∧
      ((Ledger.written b.lines).any Command.setsBalance = true ∨ l₁.closingDelta = 0)) := by
  obtain ⟨m, _, _, hfollow, hclose⟩ := ofText_outcome_follow ha
  obtain ⟨m₂, _, _, hfollow₂, hclose₂⟩ := ofText_outcome_follow hb
  obtain ⟨n, _, _, hwhole, hcloseWhole⟩ := ofText_outcome_follow hab
  rw [written_lines_append] at hwhole
  obtain ⟨m', _, _, hfirst, hsecond, -⟩ := feed_append_eq_ok_iff.mp hwhole
  obtain ⟨rfl, -⟩ : m = m' ∧ _ = _ := by simpa using hfollow.symm.trans hfirst
  have h := (hclose.shifted.follow hsecond hfollow₂).closes hcloseWhole hclose₂
  refine ⟨h.schedule, h.current, h.daysOff, h.totalTime, h.bank, ?_⟩
  rw [h.eq_iff]
  split <;> simp_all

theorem carried_day_closes_again_after_ten_hours :
    ∃ l₁ l₂ l,
      (ofText (.start .standard) "DATA 2024-01-01\nPONTO 09:00 19:00".toList).outcome = .ok l₁ ∧
      (ofText l₁ "BANCO 00:05".toList).outcome = .ok l₂ ∧
      (ofText (.start .standard) ("DATA 2024-01-01\nPONTO 09:00 19:00".toList ++
        '\n' :: "BANCO 00:05".toList)).outcome = .ok l ∧
      l₁.dayTime.toInt = 600 ∧ l₂.totalTime.toInt = l.totalTime.toInt + 600 ∧ l₂ ≠ l := by
  have hruns : ∃ l₁ l₂ l,
      (ofText (.start .standard) "DATA 2024-01-01\nPONTO 09:00 19:00".toList).outcome = .ok l₁ ∧
      (ofText l₁ "BANCO 00:05".toList).outcome = .ok l₂ ∧
      (ofText (.start .standard) ("DATA 2024-01-01\nPONTO 09:00 19:00".toList ++
        '\n' :: "BANCO 00:05".toList)).outcome = .ok l ∧ l₁.dayTime.toInt = 600 :=
    ⟨_, _, _, rfl, rfl, rfl, rfl⟩
  obtain ⟨l₁, l₂, l, ha, hb, hab, htime⟩ := hruns
  obtain ⟨-, -, -, htotal, -, heq⟩ := carried_day_closes_again ha hb hab
  rw [htime] at htotal heq
  refine ⟨l₁, l₂, l, ha, hb, hab, htime, htotal, ?_⟩
  simp [heq]

/-- A day that is open at the cut is counted twice, here one without a clock-in. -/
theorem exists_carried_day_counted_twice :
    ∃ s a b l₁ l₂ l, (ofText (.start s) a).outcome = .ok l₁ ∧ (ofText l₁ b).outcome = .ok l₂ ∧
      (ofText (.start s) (a ++ '\n' :: b)).outcome = .ok l ∧
      l.bank.toInt = -540 ∧ l₂.bank.toInt = -1080 ∧ l₂ ≠ l :=
  ⟨.standard, "DATA 2024-01-01".toList, [], _, _, _, rfl, rfl, rfl, rfl, rfl, by decide⟩

end Run

end HourBank
