import KeyRelay.Text.Hex
/-!
# Quoted text

How texts and byte strings are shown inside a description: between double quotes, with a backslash
before a quote and a backslash, and with short names for the line, tab and null characters.
-/

namespace KeyRelay.Quoted

/-- A character of a quoted text. Control characters without a short name go by number. -/
def character (c : Char) : List Char :=
  if c = '"' then ['\\', '"']
  else if c = '\\' then ['\\', '\\']
  else if c = '\n' then ['\\', 'n']
  else if c = '\r' then ['\\', 'r']
  else if c = '\t' then ['\\', 't']
  else if c = '\x00' then ['\\', '0']
  else if c.toNat < 0x20 ∨ c.toNat = 0x7F then
    "\\u\x7b".toList ++ Nat.toDigits 16 c.toNat ++ "\x7d".toList
  else [c]

def text (s : String) : String := "\"" ++ String.ofList (s.toList.flatMap character) ++ "\""

/-- A byte of a quoted byte string: printable ASCII as itself, the rest by number. -/
def byte (b : UInt8) : List Char :=
  let c := Char.ofNat b.toNat
  if c = '"' ∨ c = '\\' ∨ c = '\n' ∨ c = '\r' ∨ c = '\t' ∨ c = '\x00' then character c
  else if 0x20 ≤ b ∧ b < 0x7F then [c]
  else '\\' :: 'x' :: Hex.ofByte b

/-- A byte string between quotes, marked with a `b`. -/
def bytes (value : Bytes) : String := "b\"" ++ String.ofList (value.flatMap byte) ++ "\""

end KeyRelay.Quoted
