import HourBank.Proofs.Text.Lines

/-! The lines of a text as one pass from left to right meets them, each with what ended it. A
carriage return ends a line together with the line feed after it, if there is one, and by itself
otherwise. -/

namespace HourBank.Text

inductive LineEnd
  | pair
  | carriageReturn
  | lineFeed
  deriving DecidableEq

def LineEnd.text : LineEnd → Text
  | .pair => ['\r', '\n']
  | .carriageReturn => ['\r']
  | .lineFeed => ['\n']

theorem LineEnd.filter_text (e : LineEnd) : e.text.filter (!isLineEnd ·) = [] := by
  cases e <;> rfl

/-- Lines in order, each with its end but for the last. -/
inductive Scan
  | last (line : Text)
  | ended (line : Text) (ending : LineEnd) (rest : Scan)

namespace Scan

def lines : Scan → List Text
  | last line => [line]
  | ended line _ rest => line :: rest.lines

def ends : Scan → List LineEnd
  | last _ => []
  | ended _ ending rest => ending :: rest.ends

/-- The lines put together again, with each end as it is to be written. -/
def joined (write : LineEnd → Text) : Scan → Text
  | last line => line
  | ended line ending rest => line ++ (write ending ++ rest.joined write)

/-- No line holds a character that ends lines. -/
def Clean (s : Scan) : Prop := ∀ line ∈ s.lines, ∀ c ∈ line, isLineEnd c = false

theorem clean_last_iff {line : Text} :
    (last line).Clean ↔ ∀ c ∈ line, isLineEnd c = false := List.forall_mem_singleton

theorem clean_ended_iff {line : Text} {ending : LineEnd} {rest : Scan} :
    (ended line ending rest).Clean ↔ (∀ c ∈ line, isLineEnd c = false) ∧ rest.Clean :=
  List.forall_mem_cons

theorem length_lines (s : Scan) : s.lines.length = s.ends.length + 1 := by
  induction s with
  | last line => rfl
  | ended line ending rest ih => rw [lines, ends, List.length_cons, List.length_cons, ih]

/-- The lines do not depend on how their ends are written, as long as a line feed is there. -/
theorem Clean.lines_joined {s : Scan} (h : s.Clean) {write : LineEnd → Text}
    (hwrite : ∀ e, write e ∈ [['\n'], ['\r', '\n']]) :
    Text.lines (s.joined write) = s.lines := by
  induction s with
  | last line => exact lines_of_no_lineEnd (clean_last_iff.mp h)
  | ended line ending rest ih =>
    obtain ⟨hline, hrest⟩ := clean_ended_iff.mp h
    have hending : write ending ∈ [['\n'], ['\r', '\n'], ['\r']] :=
      List.mem_append_left [['\r']] (hwrite ending)
    have hpaired : write ending ≠ ['\r'] := by
      intro hlone
      exact absurd (hlone ▸ hwrite ending) (by decide)
    rw [joined, lines_append_ending hline hending (absurd · hpaired), ih hrest, lines]

theorem Clean.filter_joined {s : Scan} (h : s.Clean) :
    (s.joined LineEnd.text).filter (!isLineEnd ·) = s.lines.flatten := by
  have hkept : ∀ line : Text, (∀ c ∈ line, isLineEnd c = false) →
      line.filter (!isLineEnd ·) = line := by
    intro line hline
    exact List.filter_eq_self.mpr fun c hc => by rw [hline c hc, Bool.not_false]
  induction s with
  | last line => rw [joined, lines, hkept line (clean_last_iff.mp h), List.flatten_singleton]
  | ended line ending rest ih =>
    obtain ⟨hline, hrest⟩ := clean_ended_iff.mp h
    rw [joined, lines, List.filter_append, List.filter_append, hkept line hline, ending.filter_text,
      List.nil_append, ih hrest, List.flatten_cons]

end Scan

/-- Goes on after the characters of a line that has not ended. -/
def scanFrom (line : Text) : Text → Scan
  | [] => .last line
  | '\r' :: '\n' :: rest => .ended line .pair (scanFrom [] rest)
  | '\r' :: rest => .ended line .carriageReturn (scanFrom [] rest)
  | '\n' :: rest => .ended line .lineFeed (scanFrom [] rest)
  | c :: rest => scanFrom (line ++ [c]) rest

def scan (t : Text) : Scan := scanFrom [] t

theorem not_lineEnd_append {line : Text} (h : ∀ c ∈ line, isLineEnd c = false) {c : Char}
    (hreturn : c ≠ '\r') (hfeed : c ≠ '\n') : ∀ d ∈ line ++ [c], isLineEnd d = false := by
  have hc : isLineEnd c = false := by simp [isLineEnd, hreturn, hfeed]
  exact List.forall_mem_append.mpr ⟨h, List.forall_mem_singleton.mpr hc⟩

theorem scanFrom_clean {line : Text} (h : ∀ c ∈ line, isLineEnd c = false) (t : Text) :
    (scanFrom line t).Clean := by
  fun_induction scanFrom line t with
  | case1 line => exact Scan.clean_last_iff.mpr h
  | case2 line rest ih => exact Scan.clean_ended_iff.mpr ⟨h, ih (List.forall_mem_nil _)⟩
  | case3 line rest hpair ih => exact Scan.clean_ended_iff.mpr ⟨h, ih (List.forall_mem_nil _)⟩
  | case4 line rest ih => exact Scan.clean_ended_iff.mpr ⟨h, ih (List.forall_mem_nil _)⟩
  | case5 line c rest hpair hreturn hfeed ih => exact ih (not_lineEnd_append h hreturn hfeed)

theorem joined_scanFrom (line t : Text) :
    (scanFrom line t).joined LineEnd.text = line ++ t := by
  fun_induction scanFrom line t with
  | case1 line => exact (List.append_nil line).symm
  | case2 line rest ih => rw [Scan.joined, ih]; rfl
  | case3 line rest hpair ih => rw [Scan.joined, ih]; rfl
  | case4 line rest ih => rw [Scan.joined, ih]; rfl
  | case5 line c rest hpair hreturn hfeed ih => rw [ih, List.append_assoc, List.singleton_append]

theorem lines_append_eq_scanFrom {line : Text} (h : ∀ c ∈ line, isLineEnd c = false) (t : Text) :
    lines (line ++ t) = (scanFrom line t).lines := by
  fun_induction scanFrom line t with
  | case1 line =>
    rw [List.append_nil]
    exact lines_of_no_lineEnd h
  | case2 line rest ih =>
    have hended : lines (line ++ (['\r', '\n'] ++ rest)) = line :: lines rest :=
      lines_append_ending h (by simp) (by simp)
    rw [Scan.lines, ← ih (List.forall_mem_nil _)]
    exact hended
  | case3 line rest hpair ih =>
    -- Only here does the end of a line depend on what comes after it.
    have hlone : rest.head? ≠ some '\n' := by
      intro hhead
      obtain ⟨more, hmore⟩ := List.head?_eq_some_iff.mp hhead
      exact hpair more hmore
    have hended : lines (line ++ (['\r'] ++ rest)) = line :: lines rest :=
      lines_append_ending h (by simp) fun _ => hlone
    rw [Scan.lines, ← ih (List.forall_mem_nil _)]
    exact hended
  | case4 line rest ih =>
    have hended : lines (line ++ (['\n'] ++ rest)) = line :: lines rest :=
      lines_append_ending h (by simp) (by simp)
    rw [Scan.lines, ← ih (List.forall_mem_nil _)]
    exact hended
  | case5 line c rest hpair hreturn hfeed ih =>
    rw [← ih (not_lineEnd_append h hreturn hfeed), List.append_assoc, List.singleton_append]

theorem lines_eq_scan (t : Text) : lines t = t.scan.lines :=
  lines_append_eq_scanFrom (List.forall_mem_nil _) t

theorem scan_clean (t : Text) : t.scan.Clean := scanFrom_clean (List.forall_mem_nil _) t

theorem joined_scan (t : Text) : t.scan.joined LineEnd.text = t := joined_scanFrom [] t

theorem mem_lines_no_end {t line : Text} (h : line ∈ lines t) : '\r' ∉ line ∧ '\n' ∉ line := by
  have hclean : ∀ c ∈ line, isLineEnd c = false := t.scan_clean line (t.lines_eq_scan ▸ h)
  exact ⟨fun hreturn => absurd (hclean _ hreturn) (by decide),
    fun hfeed => absurd (hclean _ hfeed) (by decide)⟩

theorem flatten_lines (t : Text) :
    (lines t).flatten = t.filter (fun c => c ≠ '\r' ∧ c ≠ '\n') := by
  have hother : ∀ c, (!isLineEnd c) = decide (c ≠ '\r' ∧ c ≠ '\n') := by
    intro c
    rw [Bool.eq_iff_iff]
    simp [isLineEnd]
  have hfilter : t.filter (!isLineEnd ·) = t.scan.lines.flatten := by
    rw [← t.scan_clean.filter_joined, joined_scan]
  rw [lines_eq_scan, ← hfilter]
  exact List.filter_congr fun c _ => hother c

/-- The text with a line feed in place of every end of a line. -/
def unified (t : Text) : Text := t.scan.joined fun _ => ['\n']

theorem lines_unified (t : Text) : lines t.unified = lines t := by
  rw [unified, t.scan_clean.lines_joined fun _ => List.mem_cons_self, lines_eq_scan]

end HourBank.Text
