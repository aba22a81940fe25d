import HourBank.Proofs.Day.Written
import HourBank.Proofs.Minutes.Written
import HourBank.Report

/-! Styled text with its escape sequences taken out again. What is written in pieces without control
characters comes back as it is without styling, and no style is left open in it. -/

namespace HourBank

namespace Text

/-- Digits and semicolons stand between the beginning and the end of an escape sequence. -/
def isParameter (c : Char) : Bool := c.isDigit || c == ';'

def IsParameters (t : Text) : Prop := ∀ c ∈ t, isParameter c = true

/-- What follows the escape sequence that a text begins with. -/
def afterEscape? : Text → Option Text
  | '\x1b' :: '[' :: rest =>
    match rest.dropWhile isParameter with
    | 'm' :: later => some later
    | _ => none
  | _ => none

theorem length_lt_of_afterEscape? {t later : Text} (h : afterEscape? t = some later) :
    later.length < t.length := by
  unfold afterEscape? at h
  split at h
  · rename_i rest
    split at h
    · rename_i later' hdrop
      obtain rfl : later' = later := Option.some.inj h
      have hsuffix := (List.dropWhile_suffix (l := rest) isParameter).length_le
      rw [hdrop] at hsuffix
      simp only [List.length_cons] at hsuffix ⊢
      omega
    · exact absurd h (by simp)
  · exact absurd h (by simp)

/-- The text without its escape sequences, met from left to right. -/
def unstyled : Text → Text
  | [] => []
  | c :: rest =>
    match _h : afterEscape? (c :: rest) with
    | some later => unstyled later
    | none => c :: unstyled rest
termination_by t => t.length
decreasing_by
  · exact length_lt_of_afterEscape? ‹_›
  · exact Nat.lt_succ_self _

/-- An escape sequence that begins a style, as all do but the one that resets. -/
def IsOpening (parameters : Text) : Prop := IsParameters parameters ∧ parameters ≠ ['0']

/-- Each sequence that begins a style is followed by the one that resets it before another begins. -/
def Balanced (t : Text) : Prop :=
  ∀ before parameters after, IsOpening parameters → t = before ++ (escape parameters ++ after) →
    ∃ within later, after = within ++ (escape ['0'] ++ later) ∧
      ∀ inner, IsOpening inner → ¬ escape inner <:+: within

/-- Without control characters, so that no escape sequence begins in it and no line ends. -/
def IsVisible (t : Text) : Prop := ∀ c ∈ t, 0x20 ≤ c.toNat

instance (t : Text) : Decidable (IsVisible t) :=
  List.decidableBAll (fun c : Char => 0x20 ≤ c.toNat) t

theorem isVisible_append {a b : Text} : IsVisible (a ++ b) ↔ IsVisible a ∧ IsVisible b :=
  List.forall_mem_append

theorem IsVisible.ne_of_code_lt {t : Text} (h : IsVisible t) {c control : Char} (hc : c ∈ t)
    (hcontrol : control.toNat < 0x20) : c ≠ control := by
  rintro rfl
  exact absurd (h c hc) (Nat.not_le_of_lt hcontrol)

theorem IsVisible.no_escape {t : Text} (h : IsVisible t) : ∀ c ∈ t, c ≠ '\x1b' :=
  fun _ hc => h.ne_of_code_lt hc (by decide)

theorem IsVisible.not_lineEnd {t : Text} (h : IsVisible t) {c : Char} (hc : c ∈ t) :
    isLineEnd c = false := by
  have hreturn : c ≠ '\r' := h.ne_of_code_lt hc (by decide)
  have hfeed : c ≠ '\n' := h.ne_of_code_lt hc (by decide)
  simp [isLineEnd, hreturn, hfeed]

theorem afterEscape?_escape_append {parameters : Text} (h : IsParameters parameters)
    (rest : Text) : afterEscape? (escape parameters ++ rest) = some rest := by
  have hdrop : (parameters ++ 'm' :: rest).dropWhile isParameter = 'm' :: rest := by
    rw [List.dropWhile_append_of_pos h, List.dropWhile_cons_of_neg (by decide)]
  have hescape : escape parameters ++ rest = '\x1b' :: '[' :: (parameters ++ 'm' :: rest) := by
    simp [escape]
  rw [hescape]
  simp only [afterEscape?, hdrop]

theorem afterEscape?_cons_of_ne {c : Char} (h : c ≠ '\x1b') (rest : Text) :
    afterEscape? (c :: rest) = none := by
  unfold afterEscape?
  split
  · rename_i heq
    exact absurd (List.cons.inj heq).1 h
  · rfl

theorem unstyled_escape_append {parameters : Text} (h : IsParameters parameters) (rest : Text) :
    unstyled (escape parameters ++ rest) = unstyled rest := by
  have hafter := afterEscape?_escape_append h rest
  obtain ⟨c, more, hcons⟩ : ∃ c more, escape parameters ++ rest = c :: more := ⟨_, _, rfl⟩
  rw [hcons] at hafter ⊢
  rw [unstyled]
  split
  · rename_i later hlater
    rw [hafter] at hlater
    rw [Option.some.inj hlater]
  · rename_i hnone
    simp [hafter] at hnone

/-- Nothing else is taken out. -/
theorem unstyled_append {t : Text} (h : ∀ c ∈ t, c ≠ '\x1b') (rest : Text) :
    unstyled (t ++ rest) = t ++ unstyled rest := by
  induction t with
  | nil => rfl
  | cons c t ih =>
    obtain ⟨hc, ht⟩ := List.forall_mem_cons.mp h
    have hnone : afterEscape? (c :: (t ++ rest)) = none := afterEscape?_cons_of_ne hc _
    rw [List.cons_append, unstyled]
    split
    · rename_i later hlater
      simp [hnone] at hlater
    · rw [ih ht, List.cons_append]

theorem isParameters_reset : IsParameters ['0'] := by
  simp [IsParameters, isParameter]

theorem ne_of_isParameter {c : Char} (h : isParameter c = true) : c ≠ '\x1b' := by
  rintro rfl
  simp [isParameter] at h

theorem escape_append_inj {p q s t : Text} (hp : IsParameters p) (hq : IsParameters q)
    (h : escape p ++ s = escape q ++ t) : p = q ∧ s = t := by
  have hends : p ++ 'm' :: s = q ++ 'm' :: t := by simpa [escape] using h
  have hstop : ∀ t : Text, ∀ c ∈ ('m' :: t).head?, (!isParameter c) = true := by
    simp [isParameter]
  have hgo : ∀ p, IsParameters p → ∀ c ∈ p, (!isParameter c) = false := by
    intro p hp c hc
    rw [hp c hc, Bool.not_true]
  obtain ⟨hpq, hst⟩ := append_inj_of_stop (hgo p hp) (hgo q hq) (hstop s) (hstop t) hends
  exact ⟨hpq, (List.cons.inj hst).2⟩

/-- An escape sequence lies behind all that none begins in. -/
theorem append_eq_append_escape {a t before p after : Text} (ha : ∀ c ∈ a, c ≠ '\x1b')
    (h : a ++ t = before ++ (escape p ++ after)) :
    ∃ more, before = a ++ more ∧ t = more ++ (escape p ++ after) := by
  rcases List.append_eq_append_iff.mp h with ⟨more, hbefore, ht⟩ | ⟨rest, hrest, ht⟩
  · exact ⟨more, hbefore, ht⟩
  · cases rest with
    | nil => exact ⟨[], by simpa using hrest.symm, by simpa using ht.symm⟩
    | cons c rest =>
      have hc : '\x1b' = c := (List.cons.inj ht).1
      have hmem : c ∈ a := by simp [hrest]
      exact absurd hc.symm (ha c hmem)

/-- Two escape sequences do not overlap. -/
theorem escape_append_eq_append_escape {p t before q after : Text} (hp : IsParameters p)
    (hq : IsParameters q) (h : escape p ++ t = before ++ (escape q ++ after)) :
    (before = [] ∧ p = q ∧ t = after) ∨ ∃ more, t = more ++ (escape q ++ after) := by
  cases before with
  | nil => exact Or.inl ⟨rfl, escape_append_inj hp hq h⟩
  | cons c before =>
    have hinside : ∀ d ∈ '[' :: (p ++ ['m']), d ≠ '\x1b' := by
      simp only [List.forall_mem_cons, List.forall_mem_append]
      exact ⟨by decide, fun d hd => ne_of_isParameter (hp d hd), by decide, by simp⟩
    have htail : '[' :: (p ++ ['m']) ++ t = before ++ (escape q ++ after) := by
      simpa [escape] using (List.cons.inj h).2
    obtain ⟨more, -, ht⟩ := append_eq_append_escape hinside htail
    exact Or.inr ⟨more, ht⟩

theorem not_lineEnd_of_mem_escape {p : Text} (hp : IsParameters p) {c : Char}
    (hc : c ∈ escape p) : isLineEnd c = false := by
  simp only [escape, List.cons_append, List.mem_cons, List.mem_append, List.not_mem_nil,
    or_false] at hc
  rcases hc with rfl | rfl | hparameter | rfl
  · decide
  · decide
  · have hc := hp c hparameter
    cases hend : isLineEnd c with
    | false => rfl
    | true =>
      simp only [isLineEnd, Bool.or_eq_true, beq_iff_eq] at hend
      rcases hend with rfl | rfl <;> simp [isParameter] at hc
  · decide

theorem balanced_nil : Balanced [] := by
  intro before parameters after _ h
  simp [escape] at h

theorem Balanced.append_visible {a t : Text} (ha : IsVisible a) (h : Balanced t) :
    Balanced (a ++ t) := by
  intro before parameters after hopening heq
  obtain ⟨more, -, ht⟩ := append_eq_append_escape ha.no_escape heq
  exact h more parameters after hopening ht

theorem Balanced.append_reset {t : Text} (h : Balanced t) : Balanced (escape ['0'] ++ t) := by
  intro before parameters after hopening heq
  rcases escape_append_eq_append_escape isParameters_reset hopening.1 heq with
    ⟨-, hzero, -⟩ | ⟨more, ht⟩
  · exact absurd hzero.symm hopening.2
  · exact h more parameters after hopening ht

theorem not_escape_infix_of_visible {t : Text} (h : IsVisible t) (p : Text) :
    ¬ escape p <:+: t := by
  intro hinfix
  have hmem : '\x1b' ∈ t := hinfix.subset (List.mem_append_left _ List.mem_cons_self)
  exact h.no_escape _ hmem rfl

theorem Balanced.append_styled {p a t : Text} (hp : IsParameters p) (ha : IsVisible a)
    (h : Balanced t) : Balanced (escape p ++ (a ++ (escape ['0'] ++ t))) := by
  intro before parameters after hopening heq
  rcases escape_append_eq_append_escape hp hopening.1 heq with ⟨-, -, rfl⟩ | ⟨more, ht⟩
  · exact ⟨a, t, rfl, fun inner _ => not_escape_infix_of_visible ha inner⟩
  · exact h.append_reset.append_visible ha more parameters after hopening ht

end Text

theorem Style.isParameters (s : Style) : Text.IsParameters s.parameters := by
  cases s <;> simp [Style.parameters, Text.IsParameters, Text.isParameter]

namespace Piece

theorem render_inStyle (s : Style) (t rest : Text) :
    render true ⟨some s, t⟩ ++ rest = escape s.parameters ++ (t ++ (escape ['0'] ++ rest)) := by
  simp only [render, List.append_assoc]

theorem render_plain (styled : Bool) (t : Text) : render styled ⟨none, t⟩ = t := by
  cases styled <;> rfl

end Piece

section

variable {ps : List Piece}

theorem unstyled_renderAll_append (h : ∀ p ∈ ps, Text.IsVisible p.text) (rest : Text) :
    Text.unstyled (renderAll true ps ++ rest) = renderAll false ps ++ Text.unstyled rest := by
  induction ps with
  | nil => rfl
  | cons p ps ih =>
    obtain ⟨hp, hps⟩ := List.forall_mem_cons.mp h
    simp only [renderAll, List.flatMap_cons, List.append_assoc] at ih ⊢
    obtain ⟨style, t⟩ := p
    cases style with
    | none => rw [Piece.render_plain, Piece.render_plain, Text.unstyled_append hp.no_escape, ih hps]
    | some s =>
      rw [Piece.render_inStyle, Text.unstyled_escape_append s.isParameters,
        Text.unstyled_append hp.no_escape, Text.unstyled_escape_append Text.isParameters_reset,
        ih hps]
      rfl

theorem balanced_renderAll (h : ∀ p ∈ ps, Text.IsVisible p.text) :
    Text.Balanced (renderAll true ps) := by
  induction ps with
  | nil => exact Text.balanced_nil
  | cons p ps ih =>
    obtain ⟨hp, hps⟩ := List.forall_mem_cons.mp h
    rw [renderAll, List.flatMap_cons]
    obtain ⟨style, t⟩ := p
    cases style with
    | none =>
      rw [Piece.render_plain]
      exact (ih hps).append_visible hp
    | some s =>
      rw [Piece.render_inStyle]
      exact (ih hps).append_styled s.isParameters hp

theorem not_lineEnd_of_mem_renderAll (h : ∀ p ∈ ps, Text.IsVisible p.text) {styled : Bool}
    {c : Char} (hc : c ∈ renderAll styled ps) : Text.isLineEnd c = false := by
  obtain ⟨⟨style, t⟩, hp, hc⟩ := List.mem_flatMap.mp hc
  have ht : Text.IsVisible t := h _ hp
  cases style with
  | none =>
    rw [Piece.render_plain] at hc
    exact ht.not_lineEnd hc
  | some s =>
    cases styled with
    | false => exact ht.not_lineEnd hc
    | true =>
      simp only [Piece.render, List.mem_append] at hc
      rcases hc with (hopen | hinside) | hreset
      · exact Text.not_lineEnd_of_mem_escape s.isParameters hopen
      · exact ht.not_lineEnd hinside
      · exact Text.not_lineEnd_of_mem_escape Text.isParameters_reset hreset

end

namespace Entry

theorem code_ge_of_isDigit (c : Char) (h : c.isDigit = true) : 0x20 ≤ c.toNat := by
  have hcode := Text.code_of_isDigit h
  omega

theorem isVisible_form {m : Minutes} {a : Text} (ha : a ∈ m.forms) : Text.IsVisible a :=
  Minutes.forall_mem_form code_ge_of_isDigit (by simp) ha

theorem isVisible_day (d : Day) : Text.IsVisible d.text :=
  Day.forall_mem_text code_ge_of_isDigit (by decide) d

theorem isVisible_reached (clockOut time : Minutes) : Text.IsVisible (reached clockOut time) := by
  simp only [reached, Text.isVisible_append]
  exact ⟨⟨⟨isVisible_form clockOut.unsigned_mem_forms, by decide⟩,
    isVisible_form time.unsigned_mem_forms⟩, by decide⟩

theorem isVisible_movement (bankDelta : Minutes) : Text.IsVisible (movement bankDelta) := by
  unfold movement
  split
  · decide
  · simp only [Text.isVisible_append]
    exact ⟨⟨by decide, isVisible_form bankDelta.signed_mem_forms⟩, by decide⟩

theorem isVisible_bareMovement (bankDelta : Minutes) :
    Text.IsVisible (bareMovement bankDelta) := by
  refine Text.isVisible_append.mpr ⟨?_, by decide⟩
  split
  · decide
  · exact Text.isVisible_append.mpr ⟨by decide, isVisible_form bankDelta.signed_mem_forms⟩

theorem isVisible_pieces (e : Entry) : ∀ p ∈ e.pieces, Text.IsVisible p.text := by
  have hsigned : ∀ m : Minutes, Text.IsVisible m.signed :=
    fun m => isVisible_form m.signed_mem_forms
  have hunsigned : ∀ m : Minutes, Text.IsVisible m.unsigned :=
    fun m => isVisible_form m.unsigned_mem_forms
  have hcolumn : Text.IsVisible column := by decide
  have harrow : Text.IsVisible arrow := by decide
  have hbank : Text.IsVisible bankLabel := by decide
  have hnone : ∀ p ∈ ([] : List Piece), Text.IsVisible p.text := by simp
  cases e with
  | dayOpened day =>
    simp only [pieces, Piece.plain, List.forall_mem_cons, Text.isVisible_append]
    exact ⟨⟨⟨⟨⟨by decide, isVisible_day day⟩, hcolumn⟩, by decide⟩, hcolumn⟩, hnone⟩
  | punch clockIn clockOut worked =>
    simp only [pieces, Piece.plain, List.forall_mem_cons, Text.isVisible_append]
    exact ⟨⟨⟨⟨⟨⟨by decide, hcolumn⟩, hunsigned clockIn⟩, harrow⟩,
      isVisible_reached clockOut worked⟩, hcolumn⟩, hnone⟩
  | estimate clockIn expectedClockOut remaining =>
    simp only [pieces, Piece.plain, Piece.inStyle, List.forall_mem_cons, Text.isVisible_append]
    exact ⟨⟨⟨⟨by decide, hcolumn⟩, hunsigned clockIn⟩, harrow⟩,
      isVisible_reached expectedClockOut remaining, hcolumn, hnone⟩
  | dayOff =>
    simp only [pieces, Piece.plain, List.forall_mem_cons]
    exact ⟨by decide, hnone⟩
  | checkpoint day bank =>
    simp only [pieces, Piece.plain, Piece.inStyle, List.forall_mem_cons, Text.isVisible_append]
    exact ⟨⟨⟨⟨⟨⟨by decide, isVisible_day day⟩, hcolumn⟩, by decide⟩, hcolumn⟩, hbank⟩,
      hsigned bank, hnone⟩
  | dayClosed span worked bankDelta bank =>
    cases span with
    | none =>
      simp only [pieces, Piece.plain, Piece.inStyle, List.forall_mem_cons, Text.isVisible_append]
      exact ⟨by decide, by decide, ⟨⟨⟨⟨⟨hcolumn, by decide⟩, hcolumn⟩,
        isVisible_bareMovement bankDelta⟩, hbank⟩, hsigned bank⟩, hnone⟩
    | some span =>
      simp only [pieces, Piece.plain, Piece.inStyle, List.forall_mem_cons, Text.isVisible_append]
      exact ⟨by decide, by decide, ⟨⟨⟨⟨⟨⟨⟨hcolumn, hunsigned span.1⟩, harrow⟩,
        isVisible_reached span.2 worked⟩, hcolumn⟩, isVisible_movement bankDelta⟩, hbank⟩,
        hsigned bank⟩, hnone⟩

theorem unstyled_text_append (e : Entry) (rest : Text) :
    Text.unstyled (e.text true ++ rest) = e.text false ++ Text.unstyled rest :=
  unstyled_renderAll_append e.isVisible_pieces rest

theorem unstyled_text (e : Entry) : (e.text true).unstyled = e.text false := by
  have h := e.unstyled_text_append []
  rw [List.append_nil, Text.unstyled, List.append_nil] at h
  exact h

theorem not_lineEnd_of_mem_text {e : Entry} {styled : Bool} {c : Char} (hc : c ∈ e.text styled) :
    Text.isLineEnd c = false :=
  not_lineEnd_of_mem_renderAll e.isVisible_pieces hc

theorem balanced_text (e : Entry) : (e.text true).Balanced := balanced_renderAll e.isVisible_pieces

end Entry

end HourBank
