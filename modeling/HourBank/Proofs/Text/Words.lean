import HourBank.Text
import Mathlib.Data.List.DropRight

/-! Words and the gaps around them. A text lays out its words and no others, and trimming takes
nothing away but gaps. -/

namespace HourBank.Text

def IsGap (t : Text) : Prop := ∀ c ∈ t, isBlank c = true

def IsWord (t : Text) : Prop := t ≠ [] ∧ ∀ c ∈ t, isBlank c = false

theorem eq_false_of_any_eq_false {t : Text} {p : Char → Bool} (h : t.any p = false) :
    ∀ c ∈ t, p c = false :=
  fun c hc => Bool.eq_false_iff.mpr (List.any_eq_false.mp h c hc)

/-- Where a text stops shows in what follows it. -/
theorem append_inj_of_stop {p : Char → Bool} {a b s t : Text} (ha : ∀ c ∈ a, p c = false)
    (hb : ∀ c ∈ b, p c = false) (hs : ∀ c ∈ s.head?, p c = true)
    (ht : ∀ c ∈ t.head?, p c = true) (h : a ++ s = b ++ t) : a = b ∧ s = t := by
  have htake : ∀ a s : Text, (∀ c ∈ a, p c = false) → (∀ c ∈ s.head?, p c = true) →
      (a ++ s).takeWhile (!p ·) = a := by
    intro a s ha hs
    have hall : ∀ c ∈ a, (!p c) = true := by simpa using ha
    rw [List.takeWhile_append_of_pos hall]
    cases s with
    | nil => rw [List.takeWhile_nil, List.append_nil]
    | cons c s =>
      have hstop : p c = true := hs c rfl
      simp [hstop]
  have hab : a = b := by rw [← htake a s ha hs, h, htake b t hb ht]
  rw [hab] at h
  exact ⟨hab, List.append_cancel_left h⟩

/-- Texts in order, with gaps before, between and after them. What follows a text is nothing or
begins with a blank, so that no gap between two of them is empty. -/
inductive Laid : List Text → Text → Prop
  | gap {gap : Text} (hgap : IsGap gap) : Laid [] gap
  | word {gap word rest : Text} {words : List Text} (hgap : IsGap gap)
      (hend : ∀ c ∈ rest.head?, isBlank c = true) (hrest : Laid words rest) :
      Laid (word :: words) (gap ++ word ++ rest)

theorem words_append_cons_of_blank {c : Char} (hc : isBlank c = true) (a b : Text) :
    words (a ++ c :: b) = words a ++ words b := by
  unfold words
  rw [List.splitOnP_append_cons a b hc, List.filter_append]

theorem words_cons_of_blank {c : Char} (hc : isBlank c = true) (t : Text) :
    words (c :: t) = words t :=
  words_append_cons_of_blank hc [] t

theorem IsGap.words_append {gap : Text} (h : IsGap gap) (t : Text) :
    words (gap ++ t) = words t := by
  induction gap with
  | nil => rfl
  | cons c gap ih =>
    obtain ⟨hc, hgap⟩ := List.forall_mem_cons.mp h
    rw [List.cons_append, words_cons_of_blank hc, ih hgap]

theorem IsGap.words_eq_nil {gap : Text} (h : IsGap gap) : words gap = [] := by
  have hwords := h.words_append []
  rwa [List.append_nil] at hwords

theorem IsGap.append_words {gap : Text} (h : IsGap gap) (t : Text) :
    words (t ++ gap) = words t := by
  cases gap with
  | nil => rw [List.append_nil]
  | cons c gap =>
    obtain ⟨hc, hgap⟩ := List.forall_mem_cons.mp h
    have hnone : words gap = [] := IsGap.words_eq_nil hgap
    rw [words_append_cons_of_blank hc, hnone, List.append_nil]

theorem IsWord.words_eq {word : Text} (h : IsWord word) : words word = [word] := by
  rw [words, List.splitOnP_eq_singleton h.2]
  simp [h.1]

theorem Laid.words_eq {ws : List Text} {t : Text} (h : Laid ws t) (hws : ∀ w ∈ ws, IsWord w) :
    words t = ws := by
  induction h with
  | gap hgap => exact hgap.words_eq_nil
  | @word gap word rest ws hgap hend hrest ih =>
    obtain ⟨hword, hws⟩ := List.forall_mem_cons.mp hws
    have hfirst : words (gap ++ word) = [word] := by rw [hgap.words_append, hword.words_eq]
    have hlater : words rest = ws := ih hws
    cases rest with
    | nil =>
      have hnone : ws = [] := hlater.symm
      rw [List.append_nil, hfirst, hnone]
    | cons c rest =>
      have hc : isBlank c = true := hend c rfl
      rw [words_cons_of_blank hc] at hlater
      rw [words_append_cons_of_blank hc, hfirst, hlater, List.singleton_append]

theorem Laid.cons_of_blank {ws : List Text} {t : Text} {c : Char} (h : Laid ws t)
    (hc : isBlank c = true) : Laid ws (c :: t) := by
  cases h with
  | gap hgap => exact .gap (List.forall_mem_cons.mpr ⟨hc, hgap⟩)
  | @word gap word rest ws hgap hend hrest =>
    have hlonger : IsGap (c :: gap) := List.forall_mem_cons.mpr ⟨hc, hgap⟩
    exact .word hlonger hend hrest

/-- One more character in front makes the first word longer, or is a word on its own where a gap
follows. -/
theorem Laid.cons_of_not_blank {ws : List Text} {t : Text} {c : Char} (h : Laid ws t)
    (hws : ∀ w ∈ ws, IsWord w) (hc : isBlank c = false) :
    ∃ word rest, Laid ((c :: word) :: rest) (c :: t) ∧ ∀ w ∈ (c :: word) :: rest, IsWord w := by
  have hnone : IsGap [] := by simp [IsGap]
  have halone : IsWord [c] := by simpa [IsWord] using hc
  cases h with
  | gap hgap =>
    have hend : ∀ b ∈ t.head?, isBlank b = true := by
      intro b hb
      exact hgap b (List.mem_of_mem_head? hb)
    exact ⟨[], [], .word hnone hend (.gap hgap), List.forall_mem_singleton.mpr halone⟩
  | @word gap word rest ws hgap hend hrest =>
    obtain ⟨hword, hlater⟩ := List.forall_mem_cons.mp hws
    cases gap with
    | nil =>
      have hlonger : IsWord (c :: word) :=
        ⟨List.cons_ne_nil c word, List.forall_mem_cons.mpr ⟨hc, hword.2⟩⟩
      exact ⟨word, ws, .word hnone hend hrest, List.forall_mem_cons.mpr ⟨hlonger, hlater⟩⟩
    | cons b gap =>
      have hb : isBlank b = true := hgap b List.mem_cons_self
      have hstops : ∀ x ∈ (b :: gap ++ word ++ rest).head?, isBlank x = true := by
        simpa using hb
      exact ⟨[], word :: ws, .word hnone hstops (.word hgap hend hrest),
        List.forall_mem_cons.mpr ⟨halone, hws⟩⟩

theorem exists_laid (t : Text) : ∃ ws, Laid ws t ∧ ∀ w ∈ ws, IsWord w := by
  induction t with
  | nil => exact ⟨[], .gap (by simp [IsGap]), by simp⟩
  | cons c t ih =>
    obtain ⟨ws, h, hws⟩ := ih
    cases hc : isBlank c with
    | true => exact ⟨ws, h.cons_of_blank hc, hws⟩
    | false =>
      obtain ⟨word, rest, hlaid⟩ := h.cons_of_not_blank hws hc
      exact ⟨_, hlaid⟩

theorem words_eq_iff {t : Text} {ws : List Text} :
    words t = ws ↔ Laid ws t ∧ ∀ w ∈ ws, IsWord w := by
  constructor
  · rintro rfl
    obtain ⟨ws, h, hws⟩ := exists_laid t
    rw [h.words_eq hws]
    exact ⟨h, hws⟩
  · rintro ⟨h, hws⟩
    exact h.words_eq hws

theorem words_cons_of_not_blank {c : Char} (hc : isBlank c = false) (t : Text) :
    ∃ word rest, words (c :: t) = (c :: word) :: rest := by
  obtain ⟨ws, h, hws⟩ := exists_laid t
  obtain ⟨word, rest, hlaid, hwords⟩ := h.cons_of_not_blank hws hc
  exact ⟨word, rest, hlaid.words_eq hwords⟩

theorem exists_gaps_trim (t : Text) :
    ∃ before after, IsGap before ∧ IsGap after ∧ t = before ++ trim t ++ after := by
  have hbefore : IsGap (t.takeWhile isBlank) := fun _ hc => List.mem_takeWhile_imp hc
  have hafter : IsGap ((t.dropWhile isBlank).rtakeWhile isBlank) :=
    fun _ hc => List.mem_rtakeWhile_imp hc
  refine ⟨_, _, hbefore, hafter, ?_⟩
  calc t = t.takeWhile isBlank ++ t.dropWhile isBlank := List.takeWhile_append_dropWhile.symm
    _ = t.takeWhile isBlank ++ (trim t ++ (t.dropWhile isBlank).rtakeWhile isBlank) := by
      rw [show trim t = (t.dropWhile isBlank).rdropWhile isBlank from rfl,
        List.rdropWhile_append_rtakeWhile]
    _ = t.takeWhile isBlank ++ trim t ++ (t.dropWhile isBlank).rtakeWhile isBlank :=
      (List.append_assoc ..).symm

theorem words_trim (t : Text) : words (trim t) = words t := by
  obtain ⟨before, after, hbefore, hafter, ht⟩ := exists_gaps_trim t
  calc words (trim t) = words (before ++ trim t) := (hbefore.words_append _).symm
    _ = words (before ++ trim t ++ after) := (hafter.append_words _).symm
    _ = words t := by rw [← ht]

theorem not_blank_of_trim_eq_cons {t rest : Text} {c : Char} (h : trim t = c :: rest) :
    isBlank c = false := by
  have hprefix : trim t <+: t.dropWhile isBlank := List.rdropWhile_prefix isBlank _
  obtain ⟨after, hdrop⟩ := hprefix
  have hhead := List.head?_dropWhile_not isBlank t
  rw [← hdrop, h] at hhead
  exact hhead

/-- Trimming leaves what the words begin with. -/
theorem head?_trim (t : Text) : (trim t).head? = (words t).head?.bind List.head? := by
  cases h : trim t with
  | nil =>
    have hnone : words t = [] := by rw [← words_trim, h]; rfl
    rw [hnone]
    rfl
  | cons c rest =>
    obtain ⟨word, later, hwords⟩ := words_cons_of_not_blank (not_blank_of_trim_eq_cons h) rest
    rw [← words_trim, h, hwords]
    rfl

end HourBank.Text
