import Wording.Text.Basic

/-!
UTF-8 in both directions. Reading is strict: overlong forms, surrogates and numbers above the last code
point are refused, and the refusal names the bytes that cannot be read. Files end their lines in three
ways; `unifyLineEnds` leaves one.
-/

set_option autoImplicit false

namespace Wording.Text

/-- Why bytes are not UTF-8. -/
inductive Utf8Fault where
  | invalidStart
  | invalidContinuation
  | unexpectedEnd
deriving DecidableEq, Repr

/-- The bytes that cannot be read: the first one, where it stands, how many there are, and why. -/
structure Utf8Error where
  byte : UInt8
  position : Nat
  count : Nat
  fault : Utf8Fault
deriving DecidableEq, Repr

def Utf8Fault.message : Utf8Fault → Text
  | .invalidStart => "invalid start byte".toList
  | .invalidContinuation => "invalid continuation byte".toList
  | .unexpectedEnd => "unexpected end of data".toList

def encodeChar (c : Char) : List UInt8 :=
  let n := c.toNat
  if n < 0x80 then [n.toUInt8]
  else if n < 0x800 then [(0xC0 + n / 64).toUInt8, (0x80 + n % 64).toUInt8]
  else if n < 0x10000 then
    [(0xE0 + n / 4096).toUInt8, (0x80 + n / 64 % 64).toUInt8, (0x80 + n % 64).toUInt8]
  else
    [(0xF0 + n / 262144).toUInt8, (0x80 + n / 4096 % 64).toUInt8, (0x80 + n / 64 % 64).toUInt8,
     (0x80 + n % 64).toUInt8]

def encodeUtf8 (t : Text) : List UInt8 := t.flatMap encodeChar

/-- The six bits of a continuation byte that lies between two bounds. -/
def tailBits? (least greatest : Nat) (b : UInt8) : Option Nat :=
  if least ≤ b.toNat && b.toNat ≤ greatest then some (b.toNat - 0x80) else none

/-- The bounds of the byte behind the first byte of a character of three bytes. -/
def secondOfThree (first : Nat) : Nat × Nat :=
  if first = 0xE0 then (0xA0, 0xBF) else if first = 0xED then (0x80, 0x9F) else (0x80, 0xBF)

/-- The bounds of the byte behind the first byte of a character of four bytes. -/
def secondOfFour (first : Nat) : Nat × Nat :=
  if first = 0xF0 then (0x90, 0xBF) else if first = 0xF4 then (0x80, 0x8F) else (0x80, 0xBF)

/-- The text that bytes from a position on stand for. -/
def decodeUtf8From (position : Nat) : List UInt8 → Except Utf8Error Text
  | [] => .ok []
  | a :: rest =>
    let refuse (count : Nat) (fault : Utf8Fault) : Except Utf8Error Text :=
      .error ⟨a, position, count, fault⟩
    let first := a.toNat
    if first < 0x80 then do
      pure (Char.ofNat first :: (← decodeUtf8From (position + 1) rest))
    else if first < 0xC2 then refuse 1 .invalidStart
    else if first < 0xE0 then
      match rest with
      | [] => refuse 1 .unexpectedEnd
      | b :: rest =>
        match tailBits? 0x80 0xBF b with
        | none => refuse 1 .invalidContinuation
        | some y => do
          pure (Char.ofNat ((first - 0xC0) * 64 + y) :: (← decodeUtf8From (position + 2) rest))
    else if first < 0xF0 then
      match rest with
      | [] => refuse 1 .unexpectedEnd
      | b :: rest =>
        match tailBits? (secondOfThree first).1 (secondOfThree first).2 b with
        | none => refuse 1 .invalidContinuation
        | some y =>
          match rest with
          | [] => refuse 2 .unexpectedEnd
          | c :: rest =>
            match tailBits? 0x80 0xBF c with
            | none => refuse 2 .invalidContinuation
            | some z => do
              pure (Char.ofNat ((first - 0xE0) * 4096 + y * 64 + z)
                :: (← decodeUtf8From (position + 3) rest))
    else if first < 0xF5 then
      match rest with
      | [] => refuse 1 .unexpectedEnd
      | b :: rest =>
        match tailBits? (secondOfFour first).1 (secondOfFour first).2 b with
        | none => refuse 1 .invalidContinuation
        | some x =>
          match rest with
          | [] => refuse 2 .unexpectedEnd
          | c :: rest =>
            match tailBits? 0x80 0xBF c with
            | none => refuse 2 .invalidContinuation
            | some y =>
              match rest with
              | [] => refuse 3 .unexpectedEnd
              | d :: rest =>
                match tailBits? 0x80 0xBF d with
                | none => refuse 3 .invalidContinuation
                | some z => do
                  pure (Char.ofNat ((first - 0xF0) * 262144 + x * 4096 + y * 64 + z)
                    :: (← decodeUtf8From (position + 4) rest))
    else refuse 1 .invalidStart

/-- The text that bytes stand for. -/
def decodeUtf8 (bytes : List UInt8) : Except Utf8Error Text := decodeUtf8From 0 bytes

/-- Turns a carriage return with a line feed, and each other carriage return, into one line feed. -/
def unifyLineEnds : Text → Text
  | [] => []
  | '\r' :: '\n' :: cs => '\n' :: unifyLineEnds cs
  | '\r' :: cs => '\n' :: unifyLineEnds cs
  | c :: cs => c :: unifyLineEnds cs

end Wording.Text
