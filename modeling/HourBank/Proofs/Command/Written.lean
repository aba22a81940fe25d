import HourBank.Proofs.Command.Grammar
import HourBank.Proofs.Day.Written
import HourBank.Proofs.Ledger.History
import HourBank.Proofs.Minutes.Written
import HourBank.Proofs.Text.Lines
import Mathlib.Data.List.Forall2

/-! Commands written on lines, with any gaps around their words, and read back. -/

namespace HourBank

theorem Keyword.fold_text (k : Keyword) : k.text.fold = k.text := by
  cases k <;> decide +kernel

theorem Keyword.isWord_text (k : Keyword) : Text.IsWord k.text := by
  cases k <;> exact ⟨by decide, Text.eq_false_of_any_eq_false (by decide)⟩

namespace Command

def argumentForms (c : Command) : List (List Text) :=
  c.times.map Minutes.forms ++ c.date?.toList.map fun d => [d.text]

/-- The command can be read back from how it is written: no time of it is the least count, and a
date of it keeps to its places. -/
def Writable (c : Command) : Prop :=
  (∀ m ∈ c.times, m.toInt ≠ -9223372036854775808) ∧ ∀ d ∈ c.date?, d.Fits

/-- The line has the keyword of the command and its arguments, each in one of its forms, with any
gaps around them. -/
def WrittenOn (c : Command) (line : Text) : Prop :=
  ∃ arguments, List.Forall₂ (· ∈ ·) arguments c.argumentForms ∧
    Text.Laid (c.keyword.text :: arguments) line ∧ ∀ x ∈ line, Text.isLineEnd x = false

theorem arguments_of_forms {c : Command} {arguments : List Text} (hc : c.Writable)
    (h : List.Forall₂ (· ∈ ·) arguments c.argumentForms) : c.Arguments arguments := by
  obtain ⟨htimes, hdate⟩ := hc
  cases c with
  | bank balance =>
    obtain ⟨a, _, ha, hnil, rfl⟩ := List.forall₂_cons_right_iff.mp h
    obtain rfl := List.forall₂_nil_right_iff.mp hnil
    exact .bank (Minutes.parse_of_mem_forms (htimes balance (by simp [times])) ha)
  | day date =>
    obtain ⟨a, _, ha, hnil, rfl⟩ := List.forall₂_cons_right_iff.mp h
    obtain rfl := List.forall₂_nil_right_iff.mp hnil
    obtain rfl := List.mem_singleton.mp ha
    exact .day (Day.parse_text (hdate date rfl))
  | punch clockIn clockOut =>
    obtain ⟨a, _, ha, hmore, rfl⟩ := List.forall₂_cons_right_iff.mp h
    obtain ⟨b, _, hb, hnil, rfl⟩ := List.forall₂_cons_right_iff.mp hmore
    obtain rfl := List.forall₂_nil_right_iff.mp hnil
    exact .punch (Minutes.parse_of_mem_forms (htimes clockIn (by simp [times])) ha)
      (Minutes.parse_of_mem_forms (htimes clockOut (by simp [times])) hb)
  | estimate clockIn =>
    obtain ⟨a, _, ha, hnil, rfl⟩ := List.forall₂_cons_right_iff.mp h
    obtain rfl := List.forall₂_nil_right_iff.mp hnil
    exact .estimate (Minutes.parse_of_mem_forms (htimes clockIn (by simp [times])) ha)
  | dayOff =>
    obtain rfl := List.forall₂_nil_right_iff.mp h
    exact .dayOff
  | checkpoint =>
    obtain rfl := List.forall₂_nil_right_iff.mp h
    exact .checkpoint

theorem isWord_of_mem_argumentForms {c : Command} {forms : List Text} {a : Text}
    (hforms : forms ∈ c.argumentForms) (ha : a ∈ forms) : Text.IsWord a := by
  rcases List.mem_append.mp hforms with htime | hdate
  · obtain ⟨m, -, rfl⟩ := List.mem_map.mp htime
    exact Minutes.isWord_of_mem_forms ha
  · obtain ⟨d, -, rfl⟩ := List.mem_map.mp hdate
    obtain rfl := List.mem_singleton.mp ha
    exact d.isWord_text

theorem isWord_of_forms {arguments : List Text} {forms : List (List Text)}
    (h : List.Forall₂ (· ∈ ·) arguments forms) (hforms : ∀ f ∈ forms, ∀ a ∈ f, Text.IsWord a) :
    ∀ a ∈ arguments, Text.IsWord a := by
  induction h with
  | nil => simp
  | cons ha hmore ih =>
    obtain ⟨hform, hlater⟩ := List.forall_mem_cons.mp hforms
    exact List.forall_mem_cons.mpr ⟨hform _ ha, ih hlater⟩

theorem head?_keyword_text (k : Keyword) : k.text.head? ≠ some '#' := by
  cases k <;> decide

theorem WrittenOn.words_eq {c : Command} {line : Text} (h : c.WrittenOn line) :
    ∃ arguments, List.Forall₂ (· ∈ ·) arguments c.argumentForms ∧
      line.words = c.keyword.text :: arguments := by
  obtain ⟨arguments, hforms, hlaid, -⟩ := h
  have harguments : ∀ a ∈ arguments, Text.IsWord a :=
    isWord_of_forms hforms fun _ hf _ ha => isWord_of_mem_argumentForms hf ha
  exact ⟨arguments, hforms,
    hlaid.words_eq (List.forall_mem_cons.mpr ⟨c.keyword.isWord_text, harguments⟩)⟩

theorem WrittenOn.parseLine_eq {c : Command} {line : Text} (h : c.WrittenOn line)
    (hc : c.Writable) : parseLine line = .ok (some c) := by
  obtain ⟨arguments, hforms, hwords⟩ := h.words_eq
  have hreading : Reading line.words (.ok (some c)) := by
    rw [hwords]
    exact .command (head?_keyword_text _) c.keyword.fold_text (arguments_of_forms hc hforms)
  exact hreading.parseLine_eq

theorem WrittenOn.isLine {c : Command} {line : Text} (h : c.WrittenOn line) :
    Text.IsLine line := by
  obtain ⟨arguments, -, hwords⟩ := h.words_eq
  obtain ⟨-, -, -, hends⟩ := h
  refine ⟨?_, hends⟩
  rintro rfl
  exact absurd hwords (List.cons_ne_nil _ _).symm

end Command

end HourBank
