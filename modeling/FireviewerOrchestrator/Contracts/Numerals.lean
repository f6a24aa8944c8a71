/-
  `int(text)`: the numbers a free-form text can be read as.
-/
import FireviewerOrchestrator.Contracts.Python

set_option linter.unusedVariables false

namespace FireviewerOrchestrator

/-- What the numerals leave to the Unicode tables: the spaces and the decimal digits that are not
    ASCII. -/
structure NumeralTables where
  isSpace : Char → Bool
  decimal : Char → Option (Fin 10)

/-- The tables of a host that knows the ASCII characters. -/
def NumeralTables.ascii : NumeralTables where
  isSpace _ := false
  decimal _ := none

namespace Numerals

/-- The digits other than the ASCII ones become those, other spaces become spaces. -/
def toAscii (tables : NumeralTables) (c : Char) : Char :=
  if c.toNat < 127 then c
  else if tables.isSpace c then ' '
  else match tables.decimal c with
    | some d => Char.ofNat ('0'.toNat + d)
    | none => '?'

/-- `Py_ISSPACE`. -/
def isAsciiSpace (c : Char) : Bool := c == ' ' || (9 ≤ c.toNat && c.toNat ≤ 13)

def trim (text : List Char) : List Char :=
  ((text.dropWhile isAsciiSpace).reverse.dropWhile isAsciiSpace).reverse

/-- Digits, with single underscores between them.  The flag tells whether a digit stands before. -/
def readDigits : Bool → List Char → Option (List Nat)
  | behindDigit, [] => if behindDigit then some [] else none
  | behindDigit, c :: cs =>
      if c.isDigit then (readDigits true cs).map ((c.toNat - '0'.toNat) :: ·)
      else if c = '_' ∧ behindDigit then readDigits false cs
      else none

/-- The longest text of digits that is converted. -/
def maxDigits : Nat := 4300

def readNatural (text : List Char) : Option Nat :=
  match readDigits false text with
  | some digits => if digits.length ≤ maxDigits then some (digits.foldl (fun n d => 10 * n + d) 0) else none
  | none => none

/-- `int(text)`, or `none` where it raises a `ValueError`. -/
def int? (tables : NumeralTables) (text : String) : Option Int :=
  match trim (text.toList.map (toAscii tables)) with
  | '-' :: digits => (readNatural digits).map fun n => -(n : Int)
  | '+' :: digits => (readNatural digits).map fun n => (n : Int)
  | digits => (readNatural digits).map fun n => (n : Int)

example : int? .ascii " 1_048_576\n" = some 1048576 ∧ int? .ascii "512MB" = none ∧ int? .ascii "" = none := by
  decide

end Numerals

end FireviewerOrchestrator
