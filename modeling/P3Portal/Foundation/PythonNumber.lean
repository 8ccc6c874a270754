import Mathlib.Data.List.DropRight
import Mathlib.Tactic.Common

namespace P3Portal.Foundation.Number

/-- These code points are the zeros of the decimal digits of Unicode. -/
def decimalZeros : List Nat :=
  [0x30, 0x660, 0x6f0, 0x7c0, 0x966, 0x9e6, 0xa66, 0xae6, 0xb66, 0xbe6, 0xc66, 0xce6, 0xd66, 0xde6, 0xe50,
    0xed0, 0xf20, 0x1040, 0x1090, 0x17e0, 0x1810, 0x1946, 0x19d0, 0x1a80, 0x1a90, 0x1b50, 0x1bb0, 0x1c40,
    0x1c50, 0xa620, 0xa8d0, 0xa900, 0xa9d0, 0xa9f0, 0xaa50, 0xabf0, 0xff10, 0x104a0, 0x10d30, 0x11066,
    0x110f0, 0x11136, 0x111d0, 0x112f0, 0x11450, 0x114d0, 0x11650, 0x116c0, 0x11730, 0x118e0, 0x11950,
    0x11c50, 0x11d50, 0x11da0, 0x16a60, 0x16ac0, 0x16b50, 0x1d7ce, 0x1d7d8, 0x1d7e2, 0x1d7ec, 0x1d7f6,
    0x1e140, 0x1e2f0, 0x1e950, 0x1fbf0]

/-- The conversion to a number strips these code points. -/
def isSpace (character : Char) : Bool :=
  let code := character.toNat
  (9 ≤ code && code ≤ 13) || code = 0x20 || code = 0x85 || code = 0xa0 || code = 0x1680 ||
    (0x2000 ≤ code && code ≤ 0x200a) || code = 0x2028 || code = 0x2029 || code = 0x202f || code = 0x205f ||
    code = 0x3000

/-- Ten code points follow each zero. -/
def digitValue (character : Char) : Option Nat :=
  (decimalZeros.find? fun start => start ≤ character.toNat && character.toNat < start + 10).map
    (character.toNat - ·)

/-- These ranges hold the digits of Unicode that stand in no decimal system. -/
def otherDigits : List (Nat × Nat) :=
  [(0xb2, 0xb3), (0xb9, 0xb9), (0x1369, 0x1371), (0x19da, 0x19da), (0x2070, 0x2070), (0x2074, 0x2079),
    (0x2080, 0x2089), (0x2460, 0x2468), (0x2474, 0x247c), (0x2488, 0x2490), (0x24ea, 0x24ea), (0x24f5, 0x24fd),
    (0x24ff, 0x24ff), (0x2776, 0x277e), (0x2780, 0x2788), (0x278a, 0x2792), (0x10a40, 0x10a43), (0x10e60, 0x10e68),
    (0x11052, 0x1105a), (0x1f100, 0x1f10a)]

/-- `str.isdigit` of one character. -/
def isDigit (character : Char) : Bool :=
  (digitValue character).isSome ||
    otherDigits.any fun range => range.1 ≤ character.toNat && character.toNat ≤ range.2

/-- Digits may be separated by single underscores. -/
def digits : List Char → Option (List Nat)
  | [] => none
  | [last] => (digitValue last).map ([·])
  | first :: '_' :: rest => (digitValue first).bind fun digit => (digits rest).map (digit :: ·)
  | first :: rest => (digitValue first).bind fun digit => (digits rest).map (digit :: ·)

/-- More digits than the conversion limit are refused. -/
def natural (characters : List Char) : Option Nat :=
  ((digits characters).filter (·.length ≤ 4300)).map fun values =>
    values.foldl (fun number digit => 10 * number + digit) 0

/-- `int` of a text ignores white space around one signed decimal number. -/
def intOfText (text : String) : Option Int :=
  match (text.toList.dropWhile isSpace).rdropWhile isSpace with
  | '-' :: rest => (natural rest).map fun number => -(number : Int)
  | '+' :: rest => (natural rest).map fun number => (number : Int)
  | characters => (natural characters).map fun number => (number : Int)
end P3Portal.Foundation.Number

namespace P3Portal.Foundation

/-- These operations of Python's floats and of its `json` module are used here. A comparison answers a truth
value, so a value that is not a number compares false with everything. -/
class PythonFloat (F : Type) where
  ge : F → F → Bool
  positive : F → Bool
  percent : F → F
  ratio : F → F → F
  str : F → String
  dumps : F → String
  loads : String → Option F
  loads_dumps : ∀ value, loads (dumps value) = some value

namespace PythonFloat

/-- The floats with whole values, which Python writes with one zero behind the point. -/
instance : PythonFloat Nat where
  ge left right := decide (right ≤ left)
  positive value := decide (0 < value)
  percent value := value * 100
  ratio part whole := part / whole
  str value := value.repr ++ ".0"
  dumps value := value.repr ++ ".0"
  loads text :=
    match text.toList.reverse with
    | '0' :: '.' :: digits => some (Nat.ofDigitChars 10 digits.reverse 0)
    | _ => none
  loads_dumps value := by
    have written : (value.repr ++ ".0").toList.reverse = '0' :: '.' :: (Nat.toDigits 10 value).reverse := by
      simp [Nat.repr]
    rw [written]
    show some (Nat.ofDigitChars 10 (Nat.toDigits 10 value).reverse.reverse 0) = some value
    rw [List.reverse_reverse, Nat.ofDigitChars_ten_toDigits]

end PythonFloat
end P3Portal.Foundation
