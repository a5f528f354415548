import Wording.Number.Quantity

/-!
Why a settings document cannot be read.
-/

set_option autoImplicit false

namespace Wording.Plain

/-- A fault of a document: its markup is not well formed, its collections are nested too deeply, a number has a
base but no digits or has too many of them or is too large, or an escape stands for no character. -/
inductive DocumentError where
  | malformed
  | tooDeep
  | noDigits (base : Nat)
  | tooManyDigits (count : Nat)
  | number (fault : Number.RangeError)
  | noCharacter (code : Nat)
deriving DecidableEq, Repr

def DocumentError.message : DocumentError → Text
  | .malformed => "malformed document".toList
  | .tooDeep => "document nested too deeply".toList
  | .noDigits base =>
    "invalid literal for int() with base ".toList ++ Nat.toDigits 10 base ++ ": ''".toList
  | .tooManyDigits count =>
    "Exceeds the limit (4300 digits) for integer string conversion: value has ".toList
      ++ Nat.toDigits 10 count
      ++ " digits; use sys.set_int_max_str_digits() to increase the limit".toList
  | .number fault => fault.message
  | .noCharacter _ => "chr() arg not in range(0x110000)".toList

end Wording.Plain
