import HourBank.Text

/-! The six keywords that begin a line. They are recognised whatever their case and accents. -/

namespace HourBank

inductive Keyword
  | bank
  | day
  | punch
  | estimate
  | dayOff
  | checkpoint
  deriving DecidableEq

namespace Keyword

/-- The keyword as it is written in a file and in messages. -/
def text : Keyword → Text
  | .bank => "BANCO".toList
  | .day => "DATA".toList
  | .punch => "PONTO".toList
  | .estimate => "ESTIMATE".toList
  | .dayOff => "DAYOFF".toList
  | .checkpoint => "BANCOZERO".toList

def all : List Keyword := [.bank, .day, .punch, .estimate, .dayOff, .checkpoint]

def arity : Keyword → Nat
  | .bank | .day | .estimate => 1
  | .punch => 2
  | .dayOff | .checkpoint => 0

/-- The keyword that a token names, if it folds to one. -/
def ofToken? (token : Text) : Option Keyword :=
  all.find? (·.text = token.fold)

theorem text_inj {k l : Keyword} : k.text = l.text ↔ k = l := by
  cases k <;> cases l <;> decide

theorem ofToken?_eq_some_iff {token : Text} {k : Keyword} :
    ofToken? token = some k ↔ token.fold = k.text := by
  constructor
  · intro h
    have hk := List.find?_some h
    simpa using (of_decide_eq_true hk).symm
  · intro h
    simp only [ofToken?, h, text_inj]
    cases k <;> rfl

end Keyword

end HourBank
