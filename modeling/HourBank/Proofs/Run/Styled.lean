import HourBank.Proofs.Report.Styled
import HourBank.Proofs.Text.Lines
import HourBank.Run

/-! A run with styling. Without its escape sequences it prints what it prints without styling, and
on no line a style stays open. -/

namespace HourBank

namespace Entry

theorem unstyled_flatMap_printed (es : List Entry) :
    Text.unstyled (es.flatMap (·.printed true)) = es.flatMap (·.printed false) := by
  induction es with
  | nil => rw [List.flatMap_nil, List.flatMap_nil, Text.unstyled]
  | cons e es ih =>
    obtain ⟨blank, hblank, hprinted⟩ := e.exists_printed_eq
    have hend : ∀ c ∈ '\n' :: blank, c ≠ '\x1b' := by
      rcases hblank with rfl | rfl <;> simp
    rw [List.flatMap_cons, List.flatMap_cons, hprinted, hprinted, List.append_assoc,
      e.unstyled_text_append, Text.unstyled_append hend, ih, List.append_assoc]

theorem mem_lines_flatMap_printed {es : List Entry} {styled : Bool} {line : Text}
    (h : line ∈ Text.lines (es.flatMap (·.printed styled))) :
    line = [] ∨ ∃ e ∈ es, line = e.text styled := by
  induction es with
  | nil => exact Or.inl (List.mem_singleton.mp h)
  | cons e es ih =>
    obtain ⟨blank, hblank, hprinted⟩ := e.exists_printed_eq
    have hlines : Text.lines (e.printed styled ++ es.flatMap (·.printed styled)) =
        e.text styled :: Text.lines (blank ++ es.flatMap (·.printed styled)) := by
      rw [hprinted, List.append_assoc]
      exact Text.lines_append_ending (fun c => not_lineEnd_of_mem_text) List.mem_cons_self nofun
    rw [List.flatMap_cons, hlines] at h
    have hlater : ∀ line ∈ Text.lines (blank ++ es.flatMap (·.printed styled)),
        line = [] ∨ line ∈ Text.lines (es.flatMap (·.printed styled)) := by
      rcases hblank with rfl | rfl
      · exact fun line hline => Or.inr hline
      · intro line hline
        have hempty : Text.lines ('\n' :: es.flatMap (·.printed styled)) =
            [] :: Text.lines (es.flatMap (·.printed styled)) := Text.lines_cons (by simp)
        rw [List.singleton_append, hempty] at hline
        exact List.mem_cons.mp hline
    rcases List.mem_cons.mp h with rfl | h
    · exact Or.inr ⟨e, List.mem_cons_self, rfl⟩
    · rcases hlater line h with hnone | hline
      · exact Or.inl hnone
      · rcases ih hline with hnone | ⟨e', he', rfl⟩
        · exact Or.inl hnone
        · exact Or.inr ⟨e', List.mem_cons_of_mem e he', rfl⟩

end Entry

namespace Run

/-- What a run of a text prints and what it comes to. -/
def answer (styled : Bool) (l : Ledger) (t : Text) : Text × Except Stop Ledger :=
  ((ofText l t).printed styled, (ofText l t).outcome)

/-- Styling adds escape sequences to what is printed and changes nothing else, whatever an entry
shows and whatever a run comes to, and each style is reset on the line where it begins. -/
theorem styling_transparent (l : Ledger) (t : Text) :
    (∀ e : Entry, (e.text true).unstyled = e.text false) ∧
    (Text.unstyled (answer true l t).1, (answer true l t).2) = answer false l t ∧
    ∀ line ∈ Text.lines (answer true l t).1, line.Balanced := by
  refine ⟨Entry.unstyled_text, ?_, ?_⟩
  · exact congrArg (·, (ofText l t).outcome) (Entry.unstyled_flatMap_printed (ofText l t).entries)
  · intro line hline
    rcases Entry.mem_lines_flatMap_printed hline with rfl | ⟨e, -, rfl⟩
    · exact Text.balanced_nil
    · exact e.balanced_text

theorem styling_transparent_on_checked_bank :
    ∃ (t line : Text), t = "DATA 2024-01-01\nBANCOZERO".toList ∧
      line = "Dia 2024-01-01  |  ----- Zerar Banco! -----  |  Bh Tot. \x1b[32m+00:00\x1b[0m".toList ∧
      line ∈ Text.lines (answer true (.start .standard) t).1 ∧ line.Balanced := by
  have hline : "Dia 2024-01-01  |  ----- Zerar Banco! -----  |  Bh Tot. \x1b[32m+00:00\x1b[0m".toList ∈
      Text.lines (answer true (.start .standard) "DATA 2024-01-01\nBANCOZERO".toList).1 := by
    decide +kernel
  exact ⟨_, _, rfl, rfl, hline, (styling_transparent _ _).2.2 _ hline⟩

end Run

end HourBank
