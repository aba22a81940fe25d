import HourBank.Proofs.Ledger.Step

/-! Histories: the commands a ledger took, in order, each with the entries it reported. -/

namespace HourBank

namespace Command

def opensDay : Command → Bool
  | .day _ => true
  | _ => false

def setsBalance : Command → Bool
  | .bank _ => true
  | _ => false

def isEstimate : Command → Bool
  | .estimate _ => true
  | _ => false

def date? : Command → Option Day
  | .day date => some date
  | _ => none

def balance? : Command → Option Minutes
  | .bank balance => some balance
  | _ => none

def times : Command → List Minutes
  | .bank balance => [balance]
  | .punch clockIn clockOut => [clockIn, clockOut]
  | .estimate clockIn => [clockIn]
  | _ => []

theorem date?_eq_none {c : Command} (h : c.opensDay = false) : c.date? = none := by
  cases c with
  | day date => simp [opensDay] at h
  | _ => rfl

theorem balance?_eq_none {c : Command} (h : c.setsBalance = false) : c.balance? = none := by
  cases c with
  | bank balance => simp [setsBalance] at h
  | _ => rfl

end Command

abbrev History := List (Command × List Entry)

namespace History

def commands (h : History) : List Command := h.map (·.1)

def entries (h : History) : List Entry := h.flatMap (·.2)

end History

namespace Ledger

def perform (l : Ledger) (c : Command) : Except Fault (Ledger × History) :=
  (l.step c).map fun (next, entries) => (next, [(c, entries)])

def follow (l : Ledger) (cs : List Command) : Except Fault (Ledger × History) := feed perform l cs

theorem perform_eq_ok_iff {l next : Ledger} {c : Command} {history : History} :
    l.perform c = .ok (next, history) ↔
      ∃ entries, l.Takes c next entries ∧ history = [(c, entries)] := by
  simp only [← step_eq_ok_iff, perform]
  cases l.step c with
  | error fault => simp [Except.map]
  | ok result =>
    obtain ⟨next', entries⟩ := result
    simp only [Except.map, Except.ok.injEq, Prod.mk.injEq]
    constructor
    · rintro ⟨rfl, rfl⟩
      exact ⟨entries, ⟨rfl, rfl⟩, rfl⟩
    · rintro ⟨_, ⟨rfl, rfl⟩, rfl⟩
      exact ⟨rfl, rfl⟩

/-- What every command keeps, said of the history so far and the ledger, holds at the end. -/
theorem follow_invariant {P : History → Ledger → Prop} {l last : Ledger} {cs : List Command}
    {history : History} (h : l.follow cs = .ok (last, history)) (hstart : P [] l)
    (hstep : ∀ past l c next entries, P past l → l.Takes c next entries →
      P (past ++ [(c, entries)]) next) : P history last := by
  refine feed_invariant (P := fun _ l past => P past l) h hstart ?_
  intro _ l past c next report hP hperform
  obtain ⟨entries, htakes, rfl⟩ := perform_eq_ok_iff.mp hperform
  exact hstep past l c next entries hP htakes

theorem follow_commands {l last : Ledger} {cs : List Command} {history : History}
    (h : l.follow cs = .ok (last, history)) : history.commands = cs := by
  refine feed_invariant (P := fun taken _ past => History.commands past = taken) h rfl ?_
  intro taken l past c next report hpast hperform
  obtain ⟨entries, -, rfl⟩ := perform_eq_ok_iff.mp hperform
  simp only [History.commands] at hpast
  simp [History.commands, hpast]

end Ledger

end HourBank
