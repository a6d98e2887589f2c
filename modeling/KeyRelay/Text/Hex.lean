import KeyRelay.Text.Utf8
/-!
# Hexadecimal text

Two lowercase digits for each byte, the high half first.
-/

namespace KeyRelay.Hex

/-- The digit for a number below sixteen. -/
def digit (n : Nat) : Char :=
  if n < 10 then Char.ofNat (0x30 + n) else Char.ofNat (0x57 + n)

def ofByte (b : UInt8) : List Char := [digit (b.toNat / 16), digit (b.toNat % 16)]

/-- The hexadecimal text of a byte string. -/
def encode (bytes : Bytes) : String := String.ofList (bytes.flatMap ofByte)

/-- The number that a digit of either case stands for. -/
def digitValue? (c : Char) : Option Nat :=
  if '0' ≤ c ∧ c ≤ '9' then some (c.toNat - 0x30)
  else if 'a' ≤ c ∧ c ≤ 'f' then some (c.toNat - 0x57)
  else if 'A' ≤ c ∧ c ≤ 'F' then some (c.toNat - 0x37)
  else none

def decodeCharacters : List Char → Option Bytes
  | [] => some []
  | high :: low :: rest => do
    let h ← digitValue? high
    let l ← digitValue? low
    return UInt8.ofNat (h * 16 + l) :: (← decodeCharacters rest)
  | [_] => none

/-- Reads the hexadecimal text of a byte string. -/
def decode? (text : String) : Option Bytes := decodeCharacters text.toList

end KeyRelay.Hex
