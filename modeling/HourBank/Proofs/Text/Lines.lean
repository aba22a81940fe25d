import HourBank.Text

/-! Lines met from left to right, one character or one pair at a time, and the lines of a text that
is joined from two at a line feed. -/

namespace HourBank.Text

theorem splitPairs_ne_nil (t : Text) : splitPairs t ≠ [] := by
  fun_induction splitPairs t with
  | case1 => simp
  | case2 rest ih => simp
  | case3 c rest hpair ih => simpa using ih

theorem splitPairs_cons {c : Char} {rest : Text} (h : ¬ (c = '\r' ∧ rest.head? = some '\n')) :
    splitPairs (c :: rest) = (splitPairs rest).modifyHead (c :: ·) := by
  rw [splitPairs]
  rintro after rfl rfl
  exact h ⟨rfl, rfl⟩

theorem lines_pair (rest : Text) : lines ('\r' :: '\n' :: rest) = [] :: lines rest := by
  simp [lines, splitPairs]

/-- A character that is not the first of a pair either ends a line or starts the first one. -/
theorem lines_cons {c : Char} {rest : Text} (h : ¬ (c = '\r' ∧ rest.head? = some '\n')) :
    lines (c :: rest) =
      if isLineEnd c = true then [] :: lines rest else (lines rest).modifyHead (c :: ·) := by
  obtain ⟨piece, pieces, hpieces⟩ := List.exists_cons_of_ne_nil (splitPairs_ne_nil rest)
  obtain ⟨line, more, hline⟩ :=
    List.exists_cons_of_ne_nil (List.splitOnP_ne_nil isLineEnd piece)
  unfold lines
  rw [splitPairs_cons h, hpieces]
  simp only [List.modifyHead_cons, List.flatMap_cons, List.splitOnP_cons_eq_if_modifyHead, hline]
  split <;> simp

/-- The lines of a text that goes on after a line feed. A carriage return just before the line feed
had ended a line already, and no longer does so by itself. -/
theorem lines_append_lineFeed (a : Text) : ∃ ls, ls ≠ [] ∧ (lines a = ls ∨ lines a = ls ++ [[]]) ∧
    ∀ b, lines (a ++ '\n' :: b) = ls ++ lines b := by
  fun_induction splitPairs a with
  | case1 =>
    refine ⟨[[]], by simp, Or.inl rfl, ?_⟩
    intro b
    exact lines_cons (by simp)
  | case2 rest ih =>
    obtain ⟨ls, hne, hls, hb⟩ := ih
    refine ⟨[] :: ls, by simp, ?_, ?_⟩
    · rw [lines_pair]
      simpa using hls
    · intro b
      simp only [List.cons_append, lines_pair, hb]
  | case3 c rest hpair ih =>
    have hrest : ¬ (c = '\r' ∧ rest.head? = some '\n') := by
      rintro ⟨rfl, hhead⟩
      obtain ⟨after, rfl⟩ := List.head?_eq_some_iff.mp hhead
      exact hpair after rfl rfl
    by_cases hlone : c = '\r' ∧ rest = []
    -- The only character that pairs up with the line feed: it ended a line that is now gone.
    · obtain ⟨rfl, rfl⟩ := hlone
      refine ⟨[[]], by simp, Or.inr rfl, ?_⟩
      intro b
      exact lines_pair b
    · obtain ⟨ls, hne, hls, hb⟩ := ih
      obtain ⟨line, more, rfl⟩ := List.exists_cons_of_ne_nil hne
      have hjoined : ∀ b, ¬ (c = '\r' ∧ (rest ++ '\n' :: b).head? = some '\n') := by
        rintro b ⟨rfl, hhead⟩
        cases rest with
        | nil => exact hlone ⟨rfl, rfl⟩
        | cons d rest => exact hrest ⟨rfl, by simpa using hhead⟩
      simp only [List.cons_append, lines_cons hrest, lines_cons (hjoined _), hb]
      by_cases hend : isLineEnd c = true
      · refine ⟨[] :: line :: more, by simp, ?_, by simp [hend]⟩
        rcases hls with hls | hls <;> simp [hend, hls]
      · refine ⟨(c :: line) :: more, by simp, ?_, by simp [hend]⟩
        rcases hls with hls | hls <;> simp [hend, hls]

/-- Lines in order, each ended in one of the three ways but for the last, which may go without. -/
inductive Joined : List Text → Text → Prop
  | nil : Joined [] []
  | last (line : Text) : Joined [line] line
  | cons {line ending rest : Text} {ls : List Text}
      (hending : ending ∈ [['\n'], ['\r', '\n'], ['\r']]) (hrest : Joined ls rest) :
      Joined (line :: ls) (line ++ ending ++ rest)

/-- A line with something on it. -/
def IsLine (t : Text) : Prop := t ≠ [] ∧ ∀ c ∈ t, isLineEnd c = false

theorem lines_cons_of_not_lineEnd {c : Char} (hc : isLineEnd c = false) (rest : Text) :
    lines (c :: rest) = (lines rest).modifyHead (c :: ·) := by
  have hpair : ¬ (c = '\r' ∧ rest.head? = some '\n') := by
    rintro ⟨rfl, -⟩
    simp [isLineEnd] at hc
  rw [lines_cons hpair, if_neg (by simp [hc])]

theorem lines_append_of_no_lineEnd {line : Text} (h : ∀ c ∈ line, isLineEnd c = false)
    (rest : Text) : lines (line ++ rest) = (lines rest).modifyHead (line ++ ·) := by
  induction line with
  | nil => exact (congrFun List.modifyHead_id _).symm
  | cons c line ih =>
    obtain ⟨hc, hline⟩ := List.forall_mem_cons.mp h
    rw [List.cons_append, lines_cons_of_not_lineEnd hc, ih hline, List.modifyHead_modifyHead]
    rfl

theorem lines_of_no_lineEnd {line : Text} (h : ∀ c ∈ line, isLineEnd c = false) :
    lines line = [line] := by
  have hline := lines_append_of_no_lineEnd h []
  have hnone : lines [] = [[]] := rfl
  rw [List.append_nil, hnone, List.modifyHead_cons, List.append_nil] at hline
  exact hline

theorem lines_append_ending {line ending rest : Text} (h : ∀ c ∈ line, isLineEnd c = false)
    (hending : ending ∈ [['\n'], ['\r', '\n'], ['\r']])
    (hrest : ending = ['\r'] → rest.head? ≠ some '\n') :
    lines (line ++ (ending ++ rest)) = line :: lines rest := by
  have hended : lines (ending ++ rest) = [] :: lines rest := by
    simp only [List.mem_cons, List.not_mem_nil, or_false] at hending
    rcases hending with rfl | rfl | rfl
    · exact lines_cons (by simp)
    · exact lines_pair rest
    · exact lines_cons fun hpair => hrest rfl hpair.2
  rw [lines_append_of_no_lineEnd h, hended, List.modifyHead_cons, List.append_nil]

theorem Joined.head?_ne_lineFeed {ls : List Text} {t : Text} (h : Joined ls t)
    (hls : ∀ line ∈ ls, IsLine line) : t.head? ≠ some '\n' := by
  have hline : ∀ line rest : Text, IsLine line → (line ++ rest).head? ≠ some '\n' := by
    rintro line rest ⟨hne, hends⟩ hhead
    obtain ⟨c, more, rfl⟩ := List.exists_cons_of_ne_nil hne
    have hc : isLineEnd c = false := hends c List.mem_cons_self
    obtain rfl : c = '\n' := Option.some.inj hhead
    exact absurd hc (by decide)
  cases h with
  | nil => simp
  | last => simpa using hline t [] (hls t List.mem_cons_self)
  | cons hending hrest =>
    rw [List.append_assoc]
    exact hline _ _ (hls _ List.mem_cons_self)

/-- An end after the last line leaves an empty line behind it. -/
theorem Joined.lines_eq {ls : List Text} {t : Text} (h : Joined ls t)
    (hls : ∀ line ∈ ls, IsLine line) :
    ∃ tail, (tail = [] ∨ tail = [[]]) ∧ lines t = ls ++ tail := by
  induction h with
  | nil => exact ⟨[[]], Or.inr rfl, rfl⟩
  | last line =>
    have hline : IsLine line := hls line List.mem_cons_self
    exact ⟨[], Or.inl rfl, lines_of_no_lineEnd hline.2⟩
  | cons hending hrest ih =>
    obtain ⟨hline, hlater⟩ := List.forall_mem_cons.mp hls
    obtain ⟨tail, htail, hlines⟩ := ih hlater
    refine ⟨tail, htail, ?_⟩
    rw [List.append_assoc, lines_append_ending hline.2 hending fun _ =>
      hrest.head?_ne_lineFeed hlater, hlines, List.cons_append]

end HourBank.Text
