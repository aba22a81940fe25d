import HourBank.Command
import HourBank.Proofs.Text.Folding

/-! Keywords spelled with accents and in any case. -/

namespace HourBank

namespace Keyword

/-- The keyword that a token names, or that it names none. -/
def read (token : Text) : Except Rejection Keyword :=
  match ofToken? token with
  | some k => .ok k
  | none => .error (.unknown token)

/-- The keyword is what is left of the token without its accents, whatever the case of the letters.
The iota below a letter is no accent here. -/
def SpelledBy (k : Keyword) (token : Text) : Prop :=
  Text.iotaBelow ∉ token ∧ token.unaccented.SameLetters k.text

theorem map_toUpper_text (k : Keyword) : k.text.map Char.toUpper = k.text := by
  cases k <;> decide

theorem iota_not_mem_text (k : Keyword) : '\u0399' ∉ k.text := by
  cases k <;> decide

theorem fold_eq_text_iff {token : Text} (h : token.IsPlain) (k : Keyword) :
    token.fold = k.text ↔ k.SpelledBy token := by
  rw [SpelledBy, Text.SameLetters, map_toUpper_text]
  by_cases hiota : Text.iotaBelow ∈ token
  · have hmem := Text.mem_fold_of_iotaBelow h hiota
    constructor
    · intro hfold
      rw [hfold] at hmem
      exact absurd hmem k.iota_not_mem_text
    · intro hspelled
      exact absurd hiota hspelled.1
  · rw [Text.fold_of_no_iotaBelow h hiota]
    exact (and_iff_right hiota).symm

theorem read_eq_ok_iff {token : Text} {k : Keyword} :
    read token = .ok k ↔ token.fold = k.text := by
  rw [← ofToken?_eq_some_iff, read]
  cases ofToken? token <;> simp

theorem read_eq_error_iff {token : Text} {why : Rejection} :
    read token = .error why ↔ why = .unknown token ∧ ∀ k : Keyword, token.fold ≠ k.text := by
  have hnone : ofToken? token = none ↔ ∀ k : Keyword, token.fold ≠ k.text := by
    simp only [Option.eq_none_iff_forall_ne_some, ne_eq, ofToken?_eq_some_iff]
  rw [← hnone, read]
  cases ofToken? token <;> simp [eq_comm]

theorem parse_eq_read_bind {line token : Text} {arguments : List Text}
    (h : line.words = token :: arguments) :
    Command.parse line = (read token).bind (Command.ofArguments · arguments) := by
  simp only [Command.parse, h, read]
  cases ofToken? token <;> rfl

/-- A plain token names the keyword that it spells but for case and accents, and one that spells
none is refused as it stands. So it is at the beginning of every line. -/
theorem read_plain {token : Text} (h : token.IsPlain) :
    (∀ k, read token = .ok k ↔ k.SpelledBy token) ∧
    (∀ why, read token = .error why ↔ why = .unknown token ∧ ∀ k : Keyword, ¬ k.SpelledBy token) ∧
    ∀ line arguments, Text.words line = token :: arguments →
      Command.parse line = (read token).bind (Command.ofArguments · arguments) := by
  refine ⟨?_, ?_, fun line arguments => parse_eq_read_bind⟩
  · intro k
    rw [read_eq_ok_iff, fold_eq_text_iff h]
  · intro why
    simp only [read_eq_error_iff, ne_eq, fold_eq_text_iff h]

theorem read_plain_accents_out_of_order :
    ∃ token : Text, token = "bA\u0301\u0323\u0344Nc\u034fO\u0327".toList ∧ token.IsPlain ∧
      Keyword.bank.SpelledBy token ∧ read token = .ok .bank ∧
      read (token ++ [Text.iotaBelow]) = .error (.unknown (token ++ [Text.iotaBelow])) := by
  have hplain : Text.IsPlain "bA\u0301\u0323\u0344Nc\u034fO\u0327".toList := by decide
  have hspelled : Keyword.bank.SpelledBy "bA\u0301\u0323\u0344Nc\u034fO\u0327".toList :=
    ⟨by decide, by decide⟩
  have hiota : Text.IsPlain ("bA\u0301\u0323\u0344Nc\u034fO\u0327".toList ++ [Text.iotaBelow]) := by
    decide
  refine ⟨_, rfl, hplain, hspelled, ((read_plain hplain).1 _).mpr hspelled, ?_⟩
  exact ((read_plain hiota).2.1 _).mpr ⟨rfl, fun k hk => absurd (by simp) hk.1⟩

end Keyword

end HourBank
