import HourBank.Proofs.Command.Grammar
import HourBank.Proofs.Run.Lines
import HourBank.Proofs.Text.Scan

/-! The layout of a text. Blank lines, comments and the gaps between words leave no mark on a run,
except where it tells at which line it failed, and how its lines are ended leaves none at all. -/

namespace HourBank

namespace Text

/-- A blank line, or a comment. -/
def IsRemark (line : Text) : Prop := line.trim = [] ∨ line.find? (!isBlank ·) = some '#'

/-- Lines before and after an edit of their layout: any remarks are taken out, any are put in, and
any line may be spaced anew. -/
inductive Relaid : List Text → List Text → Prop
  | nil : Relaid [] []
  | delete {line : Text} {ls ls' : List Text} (hremark : IsRemark line) (hrest : Relaid ls ls') :
      Relaid (line :: ls) ls'
  | insert {line : Text} {ls ls' : List Text} (hremark : IsRemark line) (hrest : Relaid ls ls') :
      Relaid ls (line :: ls')
  | respace {line line' : Text} {ls ls' : List Text} (hwords : words line = words line')
      (hrest : Relaid ls ls') : Relaid (line :: ls) (line' :: ls')

theorem find?_not_blank (t : Text) :
    t.find? (!isBlank ·) = (words t).head?.bind List.head? := by
  induction t with
  | nil => rfl
  | cons c t ih =>
    cases hc : isBlank c with
    | true => rw [words_cons_of_blank hc, List.find?_cons_of_neg (by simp [hc]), ih]
    | false =>
      obtain ⟨word, rest, hwords⟩ := words_cons_of_not_blank hc t
      rw [hwords, List.find?_cons_of_pos (by simp [hc])]
      rfl

theorem IsRemark.parseLine_eq {line : Text} (h : IsRemark line) :
    Command.parseLine line = .ok none := by
  apply Command.parseLine_of_skipped
  rcases h with hblank | hmark
  · rw [← head?_trim, hblank]
    simp
  · rw [← find?_not_blank, hmark]
    simp

end Text

namespace Ledger

theorem readLine_remark {line : Text} (h : line.IsRemark) (l : Ledger) :
    l.readLine line = .ok (l, []) := by
  rw [readLine, h.parseLine_eq]

theorem readLine_congr {line line' : Text} (h : line.words = line'.words) (l : Ledger) :
    l.readLine line = l.readLine line' := by
  rw [readLine, Command.parseLine_congr h, readLine]

end Ledger

/-- The same stop, at lines of the same words but perhaps of another number and spacing. -/
inductive Stop.Alike : Stop → Stop → Prop
  | refused {line line' : Text} (number number' : Nat) (hwords : line.words = line'.words)
      (why : Rejection) :
      Alike (.failure (.refused number line why)) (.failure (.refused number' line' why))
  | overflow (operation : Overflow) : Alike (.overflow operation) (.overflow operation)

theorem Fault.stop_alike (fault : Fault) {line line' : Text} (number number' : Nat)
    (hwords : line.words = line'.words) :
    (fault.stop number line).Alike (fault.stop number' line') := by
  cases fault with
  | refused why => exact .refused number number' hwords why
  | overflow operation => exact .overflow operation

namespace Run

inductive SameOutcome : Except Stop Ledger → Except Stop Ledger → Prop
  | ok (closed : Ledger) : SameOutcome (.ok closed) (.ok closed)
  | error {why why' : Stop} (halike : why.Alike why') : SameOutcome (.error why) (.error why')

structure Alike (r r' : Run) : Prop where
  entries : r.entries = r'.entries
  outcome : SameOutcome r.outcome r'.outcome

theorem Alike.after {r r' : Run} (h : r.Alike r') (entries : List Entry)
    (journal journal' : List Record) :
    (after entries journal r).Alike (after entries journal' r') :=
  ⟨congrArg (entries ++ ·) h.entries, h.outcome⟩

theorem closing_alike (l : Ledger) : (closing l).Alike (closing l) := by
  cases hclose : l.close with
  | ok ending =>
    obtain ⟨closed, entry⟩ := ending
    rw [closing_of_ok hclose]
    exact ⟨rfl, .ok closed⟩
  | error operation =>
    rw [closing_of_error hclose]
    exact ⟨rfl, .error (.overflow operation)⟩

theorem ofLines_remark {line : Text} (h : line.IsRemark) (l : Ledger) (n : Nat)
    (rest : List Text) :
    ofLines l n (line :: rest) = after [] (l.lineRecords n line) (ofLines l (n + 1) rest) :=
  ofLines_cons_of_ok (Ledger.readLine_remark h l) n rest

/-- The numbers of the two runs drift apart with every remark. -/
theorem ofLines_alike {ls ls' : List Text} (h : Text.Relaid ls ls') (l : Ledger) (n n' : Nat) :
    (ofLines l n ls).Alike (ofLines l n' ls') := by
  induction h generalizing l n n' with
  | nil => exact closing_alike l
  | delete hremark hrest ih =>
    rw [ofLines_remark hremark]
    exact (ih l (n + 1) n').after [] _ []
  | insert hremark hrest ih =>
    rw [ofLines_remark hremark]
    exact (ih l n (n' + 1)).after [] [] _
  | @respace line line' ls ls' hwords hrest ih =>
    have hsame := Ledger.readLine_congr hwords l
    cases hread : l.readLine line with
    | error fault =>
      rw [hread] at hsame
      rw [ofLines_cons_of_error hread, ofLines_cons_of_error hsame.symm]
      exact ⟨rfl, .error (fault.stop_alike n n' hwords)⟩
    | ok result =>
      obtain ⟨next, history⟩ := result
      rw [hread] at hsame
      rw [ofLines_cons_of_ok hread, ofLines_cons_of_ok hsame.symm]
      exact (ih next (n + 1) (n' + 1)).after _ _ _

/-- Edits of the layout change neither what a run prints nor what it comes to. -/
theorem ofText_layout {t t' : Text} (h : Text.Relaid t.lines t'.lines) (l : Ledger) :
    (ofText l t).Alike (ofText l t') ∧
    ∀ styled, (ofText l t).printed styled = (ofText l t').printed styled := by
  have halike : (ofText l t).Alike (ofText l t') := ofLines_alike h l 1 1
  refine ⟨halike, ?_⟩
  intro styled
  rw [printed, printed, halike.entries]

theorem ofText_layout_of_short_punch :
    ∃ t t' : Text, t = "DATA 2024-01-01\n\n# lunch\nPONTO 09:00".toList ∧
      t' = "\tDATA  2024-01-01\r\n PONTO\u00a009:00\n   #".toList ∧
      Text.Relaid t.lines t'.lines ∧
      (ofText (.start .standard) t).outcome =
        .error (.failure (.refused 4 "PONTO 09:00".toList (.wrongCount .punch 1))) ∧
      (ofText (.start .standard) t').outcome =
        .error (.failure (.refused 2 " PONTO\u00a009:00".toList (.wrongCount .punch 1))) ∧
      (ofText (.start .standard) t).Alike (ofText (.start .standard) t') := by
  have hlines : Text.lines "DATA 2024-01-01\n\n# lunch\nPONTO 09:00".toList =
      ["DATA 2024-01-01".toList, [], "# lunch".toList, "PONTO 09:00".toList] := by decide +kernel
  have hlines' : Text.lines "\tDATA  2024-01-01\r\n PONTO\u00a009:00\n   #".toList =
      ["\tDATA  2024-01-01".toList, " PONTO\u00a009:00".toList, "   #".toList] := by
    decide +kernel
  have hrelaid : Text.Relaid (Text.lines "DATA 2024-01-01\n\n# lunch\nPONTO 09:00".toList)
      (Text.lines "\tDATA  2024-01-01\r\n PONTO\u00a009:00\n   #".toList) := by
    rw [hlines, hlines']
    exact .respace (by decide) (.delete (Or.inl rfl) (.delete (Or.inr (by decide))
      (.respace (by decide) (.insert (Or.inr (by decide)) .nil))))
  exact ⟨_, _, rfl, rfl, hrelaid, rfl, rfl, And.left (ofText_layout hrelaid _)⟩

/-- The lines of a text are those that one pass over it meets, where a carriage return ends a line
together with a line feed that comes after it. Nothing but the ends is lost, and how they are
written makes no difference to a run. -/
theorem ofText_unified (t : Text) :
    t.lines = t.scan.lines ∧
    t.scan.joined Text.LineEnd.text = t ∧
    (∀ line ∈ t.lines, '\r' ∉ line ∧ '\n' ∉ line) ∧
    t.lines.flatten = t.filter (fun c => c ≠ '\r' ∧ c ≠ '\n') ∧
    t.lines.length = t.scan.ends.length + 1 ∧
    t.unified.lines = t.lines ∧
    ∀ l, ofText l t.unified = ofText l t := by
  have hends : t.lines.length = t.scan.ends.length + 1 := by
    rw [Text.lines_eq_scan, Text.Scan.length_lines]
  refine ⟨t.lines_eq_scan, t.joined_scan, fun _ => Text.mem_lines_no_end, t.flatten_lines, hends,
    t.lines_unified, ?_⟩
  intro l
  rw [ofText, t.lines_unified, ofText]

theorem ofText_unified_mixed_ends :
    ∃ t line : Text, t = "DATA 2024-01-01\r\r\n\nPONTO 09:00\rDAYOFF".toList ∧
      t.unified = "DATA 2024-01-01\n\n\nPONTO 09:00\nDAYOFF".toList ∧ line ∈ t.lines ∧ '\r' ∉ line ∧
      (ofText (.start .standard) t).outcome =
        .error (.failure (.refused 4 "PONTO 09:00".toList (.wrongCount .punch 1))) ∧
      ofText (.start .standard) t.unified = ofText (.start .standard) t := by
  have hlines : Text.lines "DATA 2024-01-01\r\r\n\nPONTO 09:00\rDAYOFF".toList =
      ["DATA 2024-01-01".toList, [], [], "PONTO 09:00".toList, "DAYOFF".toList] := by
    decide +kernel
  have hline : "DAYOFF".toList ∈
      Text.lines "DATA 2024-01-01\r\r\n\nPONTO 09:00\rDAYOFF".toList := by
    rw [hlines]
    simp
  obtain ⟨-, -, hclean, -, -, -, hrun⟩ :=
    ofText_unified "DATA 2024-01-01\r\r\n\nPONTO 09:00\rDAYOFF".toList
  exact ⟨_, _, rfl, by decide +kernel, hline, (hclean _ hline).1, rfl, hrun _⟩

end Run

end HourBank
