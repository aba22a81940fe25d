import HourBank.Minutes.Written
import HourBank.Proofs.Feed
import HourBank.Proofs.Text.Decimal
import Mathlib.Data.List.TakeWhile

/-! Reading a time. A token is read when it spells hours and minutes, with a sign or none, whose
magnitude fits 64 bits before the sign is applied; every other token is refused as it stands. -/

namespace HourBank.Minutes

theorem magnitude?_eq_some_iff {t : Text} {n : Nat} : magnitude? t = some n ↔
    ∃ hours minutes, t = hours ++ ':' :: minutes ∧ Text.IsNumber hours ∧ Text.IsNumber minutes ∧
      n = 60 * Text.value hours + Text.value minutes := by
  constructor
  · intro h
    unfold magnitude? at h
    split at h
    · rename_i minutes hdrop
      simp only [Option.ite_none_right_eq_some, Option.some.injEq] at h
      obtain ⟨⟨hhours, hminutes, hdigits⟩, rfl⟩ := h
      have ht : t = t.takeWhile Char.isDigit ++ ':' :: minutes := by
        rw [← hdrop, List.takeWhile_append_dropWhile]
      exact ⟨_, minutes, ht, ⟨hhours, fun _ hc => List.mem_takeWhile_imp hc⟩,
        ⟨hminutes, List.all_eq_true.mp hdigits⟩, rfl⟩
    · simp at h
  · rintro ⟨hours, minutes, rfl, ⟨hhours, hdigits⟩, ⟨hminutes, hmore⟩, rfl⟩
    have htake : (hours ++ ':' :: minutes).takeWhile Char.isDigit = hours := by
      rw [List.takeWhile_append_of_pos hdigits, List.takeWhile_cons_of_neg (by decide),
        List.append_nil]
    have hdrop : (hours ++ ':' :: minutes).dropWhile Char.isDigit = ':' :: minutes := by
      rw [List.dropWhile_append_of_pos hdigits, List.dropWhile_cons_of_neg (by decide)]
    have hall : minutes.all Char.isDigit = true := List.all_eq_true.mpr hmore
    simp only [magnitude?, htake, hdrop]
    rw [if_pos ⟨hhours, hminutes, hall⟩]

theorem read?_minus (t : Text) :
    read? ('-' :: t) = (magnitude? t).bind fun n => (ofInt? n).bind fun m => ofInt? (-m.toInt) :=
  rfl

theorem read?_plus (t : Text) : read? ('+' :: t) = (magnitude? t).bind fun n => ofInt? n := rfl

theorem read?_of_isDigit {t : Text} (h : ∀ c ∈ t.head?, c.isDigit = true) :
    read? t = (magnitude? t).bind fun n => ofInt? n := by
  unfold read?
  split
  · exact absurd (h '-' rfl) (by decide)
  · exact absurd (h '+' rfl) (by decide)
  · rfl

/-- How a time may be written: a sign or none, and any number of digits on either side of a colon. -/
structure Spelling where
  sign : Text
  hours : Text
  minutes : Text
  sign_mem : sign ∈ [[], ['+'], ['-']]
  isNumber_hours : Text.IsNumber hours
  isNumber_minutes : Text.IsNumber minutes

namespace Spelling

def clock (s : Spelling) : Text := s.hours ++ ':' :: s.minutes

def token (s : Spelling) : Text := s.sign ++ s.clock

def magnitude (s : Spelling) : Nat := 60 * Text.value s.hours + Text.value s.minutes

def toInt (s : Spelling) : Int := if s.sign = ['-'] then -s.magnitude else s.magnitude

theorem magnitude?_clock (s : Spelling) : magnitude? s.clock = some s.magnitude :=
  magnitude?_eq_some_iff.mpr
    ⟨s.hours, s.minutes, rfl, s.isNumber_hours, s.isNumber_minutes, rfl⟩

theorem head?_clock (s : Spelling) : ∀ c ∈ s.clock.head?, c.isDigit = true := by
  intro c hc
  obtain ⟨hne, hdigits⟩ := s.isNumber_hours
  obtain ⟨d, hours, hcons⟩ := List.exists_cons_of_ne_nil hne
  rw [clock, hcons] at hc
  obtain rfl : d = c := Option.some.inj hc
  exact hdigits d (hcons ▸ List.mem_cons_self)

theorem read?_token_eq_some_iff (s : Spelling) {m : Minutes} :
    read? s.token = some m ↔ s.magnitude ≤ 9223372036854775807 ∧ m.toInt = s.toInt := by
  have hupper := m.upper
  have hsign := s.sign_mem
  simp only [List.mem_cons, List.not_mem_nil, or_false] at hsign
  rcases hsign with h | h | h
  · rw [token, toInt, h, List.nil_append, if_neg (by decide), read?_of_isDigit s.head?_clock,
      s.magnitude?_clock, Option.bind_some, ofInt?_eq_some_iff]
    omega
  · rw [token, toInt, h, List.singleton_append, if_neg (by decide), read?_plus,
      s.magnitude?_clock, Option.bind_some, ofInt?_eq_some_iff]
    omega
  · rw [token, toInt, h, List.singleton_append, if_pos rfl, read?_minus, s.magnitude?_clock,
      Option.bind_some, Option.bind_eq_some_iff]
    simp only [ofInt?_eq_some_iff]
    constructor
    · rintro ⟨total, htotal, hm⟩
      have htotalUpper := total.upper
      omega
    · rintro ⟨hfits, hm⟩
      exact ⟨⟨s.magnitude, by omega, by omega⟩, rfl, hm⟩

theorem natAbs_toInt (s : Spelling) : s.toInt.natAbs = s.magnitude := by
  unfold toInt
  split
  · rw [Int.natAbs_neg, Int.natAbs_natCast]
  · rw [Int.natAbs_natCast]

/-- What fits without its sign fits with it. -/
theorem read?_token_eq_none_iff (s : Spelling) :
    read? s.token = none ↔ 9223372036854775807 < s.magnitude := by
  have hmagnitude := s.natAbs_toInt
  constructor
  · intro h
    by_contra hfits
    obtain ⟨m, hm⟩ := exists_toInt_eq (n := s.toInt) (by omega)
    have hread := s.read?_token_eq_some_iff.mpr ⟨by omega, hm⟩
    simp [h] at hread
  · intro hgreat
    cases hread : read? s.token with
    | none => rfl
    | some m =>
      have hfits := (s.read?_token_eq_some_iff.mp hread).1
      omega

/-- Hours and minutes put together one operation after the other, each result held to 64 bits. -/
def total? (s : Spelling) : Option Minutes := do
  let hours ← ofInt? (Text.value s.hours)
  let minutes ← ofInt? (Text.value s.minutes)
  let whole ← ofInt? (hours.toInt * 60)
  ofInt? (whole.toInt + minutes.toInt)

/-- The sign comes last, and changing it is the one operation left to overflow. -/
def evaluate (s : Spelling) : Except Overflow (Option Minutes) :=
  match s.total? with
  | none => .ok none
  | some total => if s.sign = ['-'] then total.neg.map some else .ok (some total)

/-- No operation along the way fails unless the magnitude itself is too great. -/
theorem total?_eq (s : Spelling) : s.total? = ofInt? s.magnitude := by
  have hmagnitude : s.magnitude = 60 * Text.value s.hours + Text.value s.minutes := rfl
  ext total
  simp only [total?, bind, Option.bind_eq_some_iff, ofInt?_eq_some_iff]
  constructor
  · rintro ⟨hours, hhours, minutes, hminutes, whole, hwhole, htotal⟩
    omega
  · intro htotal
    have hupper := total.upper
    exact ⟨⟨Text.value s.hours, by omega, by omega⟩, rfl,
      ⟨Text.value s.minutes, by omega, by omega⟩, rfl,
      ⟨Text.value s.hours * 60, by omega, by omega⟩, rfl, by simp only; omega⟩

theorem evaluate_eq (s : Spelling) : s.evaluate = .ok (read? s.token) := by
  have hmagnitude := s.natAbs_toInt
  unfold evaluate
  rw [total?_eq]
  cases htotal : ofInt? s.magnitude with
  | none =>
    have hgreat := ofInt?_eq_none_iff.mp htotal
    rw [s.read?_token_eq_none_iff.mpr (by omega)]
  | some total =>
    have hvalue := ofInt?_eq_some_iff.mp htotal
    have hupper := total.upper
    have hread : ∀ m : Minutes, m.toInt = s.toInt → read? s.token = some m :=
      fun m hm => s.read?_token_eq_some_iff.mpr ⟨by omega, hm⟩
    simp only
    split
    · rename_i hsign
      obtain ⟨m, hm⟩ := exists_toInt_eq (n := s.toInt) (by omega)
      have hneg : total.neg = .ok m := by
        rw [neg, checked_eq_ok_iff, hm, toInt, if_pos hsign, hvalue]
      rw [hneg, hread m hm]
      rfl
    · rename_i hsign
      rw [hread total (by rw [toInt, if_neg hsign, hvalue])]

end Spelling

theorem exists_spelling_of_magnitude? {t : Text} {n : Nat} (h : magnitude? t = some n)
    (sign : Text) (hsign : sign ∈ [[], ['+'], ['-']]) : ∃ s : Spelling, s.token = sign ++ t := by
  obtain ⟨hours, minutes, rfl, hhours, hminutes, -⟩ := magnitude?_eq_some_iff.mp h
  exact ⟨⟨sign, hours, minutes, hsign, hhours, hminutes⟩, rfl⟩

theorem exists_spelling_of_read? {t : Text} {m : Minutes} (h : read? t = some m) :
    ∃ s : Spelling, s.token = t := by
  unfold read? at h
  split at h
  · obtain ⟨n, hn, -⟩ := Option.bind_eq_some_iff.mp h
    exact exists_spelling_of_magnitude? hn ['-'] (by simp)
  · obtain ⟨n, hn, -⟩ := Option.bind_eq_some_iff.mp h
    exact exists_spelling_of_magnitude? hn ['+'] (by simp)
  · obtain ⟨n, hn, -⟩ := Option.bind_eq_some_iff.mp h
    exact exists_spelling_of_magnitude? hn [] (by simp)

theorem read?_eq_some_iff {t : Text} {m : Minutes} : read? t = some m ↔
    ∃ s : Spelling, s.token = t ∧ s.magnitude ≤ 9223372036854775807 ∧ m.toInt = s.toInt := by
  constructor
  · intro h
    obtain ⟨s, rfl⟩ := exists_spelling_of_read? h
    exact ⟨s, rfl, s.read?_token_eq_some_iff.mp h⟩
  · rintro ⟨s, rfl, h⟩
    exact s.read?_token_eq_some_iff.mpr h

theorem read?_eq_none_iff {t : Text} : read? t = none ↔
    ∀ s : Spelling, s.token = t → 9223372036854775807 < s.magnitude := by
  constructor
  · rintro h s rfl
    exact s.read?_token_eq_none_iff.mp h
  · intro h
    cases hread : read? t with
    | none => rfl
    | some m =>
      obtain ⟨s, hs, hfits, -⟩ := read?_eq_some_iff.mp hread
      exact absurd hfits (Nat.not_le_of_lt (h s hs))

theorem parse_eq_ok_iff {t : Text} {m : Minutes} : parse t = .ok m ↔ read? t = some m := by
  unfold parse
  cases read? t <;> simp

theorem parse_eq_error_iff {t : Text} {e : Malformed} :
    parse t = .error e ↔ e = .time t ∧ read? t = none := by
  unfold parse
  cases read? t <;> simp [eq_comm]

/-- A token is read as what it spells, whatever digits spell it, and the least count is never read.
Every other token is refused with the token itself for a reason. Put together one operation at a
time, a spelling comes to the same and overflows nowhere. -/
theorem parse_reads_spellings (t : Text) :
    (∀ m, parse t = .ok m ↔ ∃ s : Spelling,
      s.token = t ∧ s.magnitude ≤ 9223372036854775807 ∧ m.toInt = s.toInt) ∧
    (∀ e, parse t = .error e ↔ e = .time t ∧
      ∀ s : Spelling, s.token = t → 9223372036854775807 < s.magnitude) ∧
    (∀ m, parse t = .ok m → m.toInt ≠ -9223372036854775808) ∧
    ∀ s : Spelling, s.token = t → s.evaluate = .ok (parse t).toOption := by
  have hok : ∀ m, parse t = .ok m ↔ ∃ s : Spelling,
      s.token = t ∧ s.magnitude ≤ 9223372036854775807 ∧ m.toInt = s.toInt := by
    intro m
    rw [parse_eq_ok_iff, read?_eq_some_iff]
  refine ⟨hok, ?_, ?_, ?_⟩
  · intro e
    rw [parse_eq_error_iff, read?_eq_none_iff]
  · intro m hm hleast
    obtain ⟨s, -, hfits, hvalue⟩ := (hok m).mp hm
    rw [Spelling.toInt] at hvalue
    split at hvalue <;> omega
  · rintro s rfl
    rw [s.evaluate_eq, parse]
    cases read? s.token <;> rfl

end HourBank.Minutes
