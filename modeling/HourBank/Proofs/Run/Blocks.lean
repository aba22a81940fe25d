import HourBank.Proofs.Ledger.Accounts
import HourBank.Proofs.Run.Executed
import Mathlib.Data.List.Forall2

/-! The report in blocks, one for each day that is opened. A block begins with its day, has an entry
for every command that reports one, and is closed unless the run ended inside it. -/

namespace HourBank

def Entry.readsClock : Entry → Bool
  | .punch .. => true
  | .estimate .. => true
  | _ => false

/-- The entry that a command leaves on an open day. -/
inductive Command.Leaves (day : Day) : Command → Entry → Prop
  | punch (clockIn clockOut worked : Minutes) :
      Leaves day (.punch clockIn clockOut) (.punch clockIn clockOut worked)
  | estimate (clockIn clockOut remaining : Minutes) :
      Leaves day (.estimate clockIn) (.estimate clockIn clockOut remaining)
  | dayOff : Leaves day .dayOff .dayOff
  | checkpoint (bank : Minutes) : Leaves day .checkpoint (.checkpoint day bank)

structure Block where
  day : Day
  body : List Entry
  closing : Option Entry

namespace Block

def entries (b : Block) : List Entry := .dayOpened b.day :: (b.body ++ b.closing.toList)

/-- An entry that closes a block with this body. It has no span just when no clock was read. -/
def ClosedBy (body : List Entry) (e : Entry) : Prop :=
  ∃ span worked bankDelta bank, e = .dayClosed span worked bankDelta bank ∧
    (span = none ↔ ∀ x ∈ body, x.readsClock = false)

/-- The block reports a day with these commands. Only a balance leaves no entry. -/
structure Of (b : Block) (cs : List Command) : Prop where
  body : List.Forall₂ (Command.Leaves b.day) (cs.filter (!·.setsBalance)) b.body
  closing : ∀ e ∈ b.closing, ClosedBy b.body e

/-- The blocks report the days that these commands open, in order. -/
structure Fill (blocks : List Block) (cs : List Command) : Prop where
  dates : blocks.map day = cs.filterMap Command.date?
  days : List.Forall₂ Of blocks (Command.days cs)

theorem forall₂_concat {α β : Type} {R : α → β → Prop} {xs : List α} {ys : List β} {x : α} {y : β}
    (h : List.Forall₂ R xs ys) (hxy : R x y) : List.Forall₂ R (xs ++ [x]) (ys ++ [y]) :=
  List.rel_append h (.cons hxy .nil)

theorem exists_of_forall₂_concat {α β : Type} {R : α → β → Prop} {xs : List α} {x : α}
    {zs : List β} (h : List.Forall₂ R (xs ++ [x]) zs) :
    ∃ ys y, zs = ys ++ [y] ∧ List.Forall₂ R xs ys ∧ R x y := by
  have hreverse : List.Forall₂ R (x :: xs.reverse) zs.reverse := by
    rw [← List.reverse_concat]
    exact List.rel_reverse h
  obtain ⟨y, ys, hxy, hrest, hzs⟩ := List.forall₂_cons_left_iff.mp hreverse
  refine ⟨ys.reverse, y, ?_, ?_, hxy⟩
  · rw [← List.reverse_reverse zs, hzs, List.reverse_cons]
  · rw [← List.reverse_reverse xs]
    exact List.rel_reverse hrest

theorem fill_nil {cs : List Command} (h : Command.days cs = []) : Fill [] cs where
  dates := by
    have hlength := Command.length_days cs
    rw [h] at hlength
    exact (List.length_eq_zero_iff.mp hlength.symm).symm
  days := by
    rw [h]
    exact .nil

theorem Fill.concat_day {blocks : List Block} {cs : List Command} (h : Fill blocks cs)
    (date : Day) : Fill (blocks ++ [⟨date, [], none⟩]) (cs ++ [.day date]) where
  dates := by
    rw [List.map_append, List.filterMap_append, h.dates]
    rfl
  days := by
    rw [Command.days_concat_day]
    exact forall₂_concat h.days ⟨.nil, by simp⟩

/-- A command that opens no day goes on with the last block. -/
theorem Fill.concat {earlier : List Block} {day : Day} {body entries : List Entry}
    {cs : List Command} {c : Command} (h : Fill (earlier ++ [⟨day, body, none⟩]) cs)
    (hday : c.opensDay = false)
    (hc : List.Forall₂ (Command.Leaves day) ([c].filter (!·.setsBalance)) entries) :
    Fill (earlier ++ [⟨day, body ++ entries, none⟩]) (cs ++ [c]) where
  dates := by
    have hdates := h.dates
    rw [List.map_append] at hdates ⊢
    rw [List.filterMap_append, ← hdates, List.filterMap_cons_none (Command.date?_eq_none hday)]
    simp
  days := by
    obtain ⟨init, last, hdays, hearlier, hlast⟩ := exists_of_forall₂_concat h.days
    rcases Command.days_concat_of_neg hday cs with ⟨hnil, -⟩ | ⟨init', last', hcs, hconcat⟩
    · simp [hnil] at hdays
    · obtain ⟨rfl, rfl⟩ : init = init' ∧ last = last' := by
        simpa using hdays.symm.trans hcs
      rw [hconcat]
      refine forall₂_concat hearlier ⟨?_, by simp⟩
      rw [List.filter_append]
      exact List.rel_append hlast.body hc

theorem Fill.close {earlier : List Block} {day : Day} {body : List Entry} {cs : List Command}
    {e : Entry} (h : Fill (earlier ++ [⟨day, body, none⟩]) cs) (he : ClosedBy body e) :
    Fill (earlier ++ [⟨day, body, some e⟩]) cs where
  dates := by
    rw [← h.dates, List.map_append, List.map_append]
    rfl
  days := by
    obtain ⟨init, last, hdays, hearlier, hlast⟩ := exists_of_forall₂_concat h.days
    rw [hdays]
    refine forall₂_concat hearlier ⟨hlast.body, ?_⟩
    intro x hx
    obtain rfl := Option.some.inj hx
    exact he

end Block

open Block

namespace Ledger

/-- The report of a ledger that has taken the commands `cs`: nothing before the first day, then
closed blocks, then that of the open day. -/
inductive Reported (l : Ledger) (cs : List Command) (out : List Entry) : Prop
  | idle (hcur : l.current = none) (hdays : Command.days cs = []) (hout : out = [])
  | day {d : OpenDay} {earlier : List Block} {body : List Entry} (hcur : l.current = some d)
      (hfill : Fill (earlier ++ [⟨d.day, body, none⟩]) cs)
      (hclosed : ∀ b ∈ earlier, b.closing.isSome = true)
      (hclock : d.firstClockIn = none ↔ ∀ x ∈ body, x.readsClock = false)
      (hout : out = (earlier ++ [Block.mk d.day body none]).flatMap Block.entries)

theorem span_eq_none_iff {d : OpenDay} {span : Option (Minutes × Minutes)}
    (h : d.span = .ok span) : span = none ↔ d.firstClockIn = none := by
  unfold OpenDay.span at h
  split at h
  · rename_i hclock
    obtain rfl := Except.ok.inj h
    simp [hclock]
  · rename_i clockIn hclock
    obtain ⟨clockOut, -, hspan⟩ := bind_eq_ok_iff.mp h
    obtain rfl := Except.ok.inj hspan
    simp [hclock]

variable {l next closed : Ledger} {c : Command} {cs : List Command} {out entries : List Entry}

theorem Reported.close {entry : Option Entry} (h : l.Reported cs out)
    (hclose : l.Closes closed entry) :
    ∃ blocks, Fill blocks cs ∧ (∀ b ∈ blocks, b.closing.isSome = true) ∧
      out ++ entry.toList = blocks.flatMap Block.entries := by
  cases h with
  | idle hcur hdays hout =>
    cases hclose with
    | idle => exact ⟨[], fill_nil hdays, by simp, by simp [hout]⟩
    | day hcur' => simp [hcur] at hcur'
  | @day d earlier body hcur hfill hclosed hclock hout =>
    cases hclose with
    | idle hcur' => simp [hcur] at hcur'
    | @day d' span bankDelta bank totalTime hcur' hdelta hbank htotal hspan =>
      obtain rfl : d = d' := Option.some.inj (hcur.symm.trans hcur')
      have hby : ClosedBy body (.dayClosed span d.time bankDelta bank) :=
        ⟨_, _, _, _, rfl, (span_eq_none_iff hspan).trans hclock⟩
      refine ⟨_, hfill.close hby, ?_, ?_⟩
      · simpa [or_imp, forall_and] using hclosed
      · simp [hout, Block.entries]

theorem Reported.inside {d d' : OpenDay} (h : l.Reported cs out) (hcur : l.current = some d)
    (hcur' : next.current = some d') (hday : c.opensDay = false) (hsame : d'.day = d.day)
    (hleaves : List.Forall₂ (Command.Leaves d.day) ([c].filter (!·.setsBalance)) entries)
    (hclock : d'.firstClockIn = none ↔
      d.firstClockIn = none ∧ ∀ x ∈ entries, x.readsClock = false) :
    next.Reported (cs ++ [c]) (out ++ entries) := by
  cases h with
  | idle hnone => simp [hnone] at hcur
  | @day d₀ earlier body hopen hfill hclosed hclock₀ hout =>
    obtain rfl : d = d₀ := Option.some.inj (hcur.symm.trans hopen)
    have hmore := hfill.concat hday hleaves
    rw [← hsame] at hmore
    refine .day hcur' hmore hclosed ?_ ?_
    · rw [hclock, hclock₀, List.forall_mem_append]
    · simp [hout, hsame, Block.entries]

theorem Reported.step (h : l.Reported cs out) (htakes : l.Takes c next entries) :
    next.Reported (cs ++ [c]) (out ++ entries) := by
  cases htakes with
  | bank balance =>
    cases h with
    | idle hcur hdays hout =>
      refine .idle hcur ?_ (by rw [hout, List.append_nil])
      rcases Command.days_concat_of_neg (c := .bank balance) rfl cs with
        ⟨-, hnil⟩ | ⟨init, last, hcs, -⟩
      · exact hnil
      · simp [hdays] at hcs
    | day hcur hfill hclosed hclock hout =>
      exact (Reported.day hcur hfill hclosed hclock hout).inside hcur hcur rfl rfl .nil (by simp)
  | day date hclose =>
    obtain ⟨blocks, hfill, hclosed, hout⟩ := h.close hclose
    refine .day rfl (hfill.concat_day date) hclosed (by simp [OpenDay.start]) ?_
    rw [← List.append_assoc, hout, List.flatMap_append]
    rfl
  | punch clockIn clockOut hcur hworked htime =>
    exact h.inside hcur rfl rfl rfl (.cons (.punch _ _ _) .nil) (by simp [Entry.readsClock])
  | estimate clockIn hcur hfull hmissing htime htotal hout =>
    exact h.inside hcur rfl rfl rfl (.cons (.estimate _ _ _) .nil) (by simp [Entry.readsClock])
  | dayOff hcur hfits =>
    exact h.inside hcur hcur rfl rfl (.cons .dayOff .nil) (by simp [Entry.readsClock])
  | checkpoint hcur =>
    exact h.inside hcur hcur rfl rfl (.cons (.checkpoint _) .nil) (by simp [Entry.readsClock])

theorem follow_reported {s : Schedule} {history : History}
    (h : (start s).follow cs = .ok (l, history)) : l.Reported cs history.entries := by
  have hall : l.Reported history.commands history.entries := by
    refine follow_invariant (P := fun past l => l.Reported past.commands past.entries) h
      (.idle rfl rfl rfl) ?_
    intro past l c next entries hreported htakes
    simpa [History.commands, History.entries] using hreported.step htakes
  rwa [follow_commands h] at hall

end Ledger

namespace Run

/-- The report is one block after another, for each day that the executed commands open. All blocks
are closed but the last, which is closed just when the run comes to a ledger. -/
theorem entries_in_blocks (s : Schedule) (t : Text) :
    ∃ blocks, Fill blocks ((Ledger.start s).executed t.lines) ∧
      (ofText (.start s) t).entries = blocks.flatMap Block.entries ∧
      (∀ b ∈ blocks.dropLast, b.closing.isSome = true) ∧
      ∀ b ∈ blocks.getLast?, b.closing.isSome = (ofText (.start s) t).outcome.isOk := by
  obtain ⟨last, past, hfollow, htells⟩ := ofLines_tells (.start s) 1 t.lines
  have hreported := Ledger.follow_reported hfollow
  cases htells with
  | stopped hentries houtcome =>
    rw [ofText, hentries, houtcome]
    cases hreported with
    | idle hcur hdays hout => exact ⟨[], fill_nil hdays, hout, by simp, by simp⟩
    | day hcur hfill hclosed hclock hout =>
      refine ⟨_, hfill, hout, by simpa using hclosed, ?_⟩
      simp [Except.isOk, Except.toBool]
  | closed hclose hentries houtcome =>
    obtain ⟨blocks, hfill, hclosed, hout⟩ := hreported.close hclose
    rw [ofText, hentries, houtcome]
    refine ⟨blocks, hfill, hout, fun b hb => hclosed b (List.dropLast_subset _ hb), ?_⟩
    intro b hb
    exact hclosed b (List.mem_of_getLast? hb)

end Run

end HourBank
