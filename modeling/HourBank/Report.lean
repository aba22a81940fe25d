import HourBank.Ledger.Basic
import HourBank.Minutes.Written

/-! The report: one line for each entry, in three columns (what it is, the clock, the bank), between
a banner and the totals. A styled piece of a line is put between an escape sequence and the one that
resets it; without styling the pieces are simply joined. -/

namespace HourBank

inductive Style
  | underlined
  | red
  | green
  | italicGray
  deriving DecidableEq

/-- The parameters that select the style on a terminal. -/
def Style.parameters : Style → Text
  | .underlined => "4".toList
  | .red => "31".toList
  | .green => "32".toList
  | .italicGray => "3;90".toList

def escape (parameters : Text) : Text := '\x1b' :: '[' :: parameters ++ ['m']

structure Piece where
  style : Option Style
  text : Text
  deriving DecidableEq

namespace Piece

def plain (text : Text) : Piece := ⟨none, text⟩

def inStyle (style : Style) (text : Text) : Piece := ⟨some style, text⟩

def render (styled : Bool) (p : Piece) : Text :=
  match p.style, styled with
  | some style, true => escape style.parameters ++ p.text ++ escape ['0']
  | _, _ => p.text

end Piece

def renderAll (styled : Bool) (pieces : List Piece) : Text := pieces.flatMap (·.render styled)

namespace Entry

/-- What stands in the column of the clock when there is nothing to show. -/
def noSpan : Text := List.replicate 24 '-'

def column : Text := "  |  ".toList

/-- A time and how long it took to get there. -/
def reached (clockOut time : Minutes) : Text :=
  clockOut.unsigned ++ " (T ".toList ++ time.unsigned ++ [')']

def arrow : Text := " -> ".toList

def deltaLabel : Text := "BhΔ ".toList

def bankLabel : Text := "Bh Tot. ".toList

/-- The movement of the bank beside a span. Where there is none, blanks keep its place. -/
def movement (bankDelta : Minutes) : Text :=
  if bankDelta.isZero then List.replicate 12 ' ' else deltaLabel ++ bankDelta.signed ++ "  ".toList

/-- The movement of the bank on a day without a span, where no place is kept for it. -/
def bareMovement (bankDelta : Minutes) : Text :=
  (if bankDelta.isZero then [] else deltaLabel ++ bankDelta.signed) ++ "  ".toList

/-- The parts of the line. What a time was projected to, the end of a day and a checked bank stand
out in a style. -/
def pieces : Entry → List Piece
  | .dayOpened day => [.plain ("Dia ".toList ++ day.text ++ column ++ noSpan ++ column)]
  | .punch clockIn clockOut worked =>
    [.plain ("         Ponto".toList ++ column ++ clockIn.unsigned ++ arrow ++
      reached clockOut worked ++ column)]
  | .estimate clockIn expectedClockOut remaining =>
    [.plain ("    Estimativa".toList ++ column ++ clockIn.unsigned ++ arrow),
      .inStyle .italicGray (reached expectedClockOut remaining),
      .plain column]
  | .dayOff =>
    [.plain ("              ".toList ++ column ++ "Dia off                 ".toList ++ column)]
  | .checkpoint day bank =>
    [.plain ("Dia ".toList ++ day.text ++ column ++ "----- Zerar Banco! -----".toList ++ column ++
        bankLabel),
      .inStyle (if bank.isZero then .green else .red) bank.signed]
  | .dayClosed (some (clockIn, clockOut)) worked bankDelta bank =>
    [.plain "   ".toList,
      .inStyle .underlined "Ponto Final".toList,
      .plain (column ++ clockIn.unsigned ++ arrow ++ reached clockOut worked ++ column ++
        movement bankDelta ++ bankLabel ++ bank.signed)]
  | .dayClosed none _ bankDelta bank =>
    [.plain "   ".toList,
      .inStyle .underlined "Ponto Final".toList,
      .plain (column ++ noSpan ++ column ++ bareMovement bankDelta ++ bankLabel ++ bank.signed)]

def text (styled : Bool) (e : Entry) : Text := renderAll styled e.pieces

/-- The line as it is printed. A blank line follows the end of a day. -/
def printed (styled : Bool) (e : Entry) : Text :=
  e.text styled ++
    match e with
    | .dayClosed .. => "\n\n".toList
    | _ => "\n".toList

theorem exists_printed_eq (e : Entry) : ∃ blank, (blank = [] ∨ blank = ['\n']) ∧
    ∀ styled, e.printed styled = e.text styled ++ '\n' :: blank := by
  cases e with
  | dayClosed => exact ⟨['\n'], Or.inr rfl, fun _ => rfl⟩
  | _ => exact ⟨[], Or.inl rfl, fun _ => rfl⟩

end Entry

/-- The three lines of totals, the last without its end. -/
def Summary.text (s : Summary) : Text :=
  "Tempo total no escritório :  ".toList ++ s.timeInOffice.unsigned ++
    "\nBanco de Horas .......... : ".toList ++ s.bank.signed ++
    "\nDias off ................ :  ".toList ++
    (Text.decimal s.daysOff.toNat).leftpad 5 ' '

def Summary.printed (s : Summary) : Text := '\n' :: s.text ++ "\n\n".toList

def version : Text := "ponto 0.1.0".toList

def banner : Text := "\nPontofile\n".toList ++ version ++ "\n\n".toList

end HourBank
