import Threeboard.Simulator.UsbKeycodes
import Mathlib.Data.Int.Notation

namespace Threeboard.Simulator

open Integration

def text (s : String) : Text := s.toList.map fun c => UInt8.ofNat c.toNat

-- The values the library parses a file to, as far as they are told apart; an object holds its
-- entries in the order in which it is gone through.
inductive Json where
  | null
  | scalar
  | string (value : Text)
  | array (elements : List Json)
  | object (entries : List (Text × Json))

def decimal (n : ℕ) : Text := (Nat.toDigits 10 n).map fun c => UInt8.ofNat c.toNat

namespace Json

-- A value that has no elements stands for the only element of itself.
def items : Json → List (Text × Json)
  | null => []
  | array elements => elements.zipIdx.map fun e => (decimal e.2, e.1)
  | object entries => entries
  | json => [([], json)]

def member (name : Text) : Json → Option Json
  | object entries => (entries.find? fun e => e.1 = name).map Prod.snd
  | _ => none

def getString : Json → Option Text
  | string value => some value
  | _ => none

end Json

def signed : Text → ℤ × Text
  | 0x2d :: rest => (-1, rest)
  | 0x2b :: rest => (1, rest)
  | digits => (1, digits)

def digitsValue (digits : Text) : ℕ :=
  digits.foldl (fun n c => n * 10 + (c - 0x30).toNat) 0

def intMax : ℤ := 2147483647
def intMin : ℤ := -2147483648

-- std::stoi: blanks, a sign and digits, whatever comes after them; it throws without a digit and on
-- a number that is no int.
def stoi (s : Text) : Option ℤ :=
  let number := signed (s.dropWhile isSpace)
  let digits := number.2.takeWhile isDigit
  let value := number.1 * digitsValue digits
  if digits = [] then none
  else if intMin ≤ value ∧ value ≤ intMax then some value
  else none

example : stoi (text "07") = some 7 ∧ stoi (text " +12x") = some 12 ∧ stoi (text "x") = none := by
  decide

end Threeboard.Simulator
