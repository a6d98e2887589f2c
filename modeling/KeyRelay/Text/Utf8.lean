/-!
# UTF-8

Keys, channel names and digests are texts; values, payloads and everything on the wire are bytes.
This module is the border between the two. There are three ways across it:

* `encode` turns a text into its bytes and cannot fail;
* `decode` reads bytes back, and where they are no text it says where the first fault lies;
* `lossy` never fails: every fault becomes one replacement character.

Both readers agree on what *one* fault is: the longest run of bytes that could still have begun a
character. `head` decides that once, for both of them.
-/

namespace KeyRelay

/-- A string of bytes, as it is stored and as it is sent. -/
abbrev Bytes := List UInt8

namespace Utf8

def encode (text : String) : Bytes := text.toByteArray.data.toList

theorem encode_inj {s t : String} : encode s = encode t ↔ s = t := by
  constructor
  · intro h
    have h' : s.toByteArray.data = t.toByteArray.data := Array.toList_inj.1 h
    exact String.toByteArray_inj.1 (ByteArray.ext h')
  · rintro rfl; rfl

/-! ## Where a character ends -/

/-- What stands at the front of a byte string, with its length in bytes. -/
inductive Head where
  | character (size : Nat)
  /-- Bytes that began a character, until a byte that cannot follow them. -/
  | broken (size : Nat)
  /-- Bytes that began a character, until the end. -/
  | truncated (size : Nat)
deriving DecidableEq, Repr

/-- How many bytes follow a leading byte, and between which bounds the first of them lies. The
bounds exclude overlong forms, surrogates and everything above the last code point. -/
def followers (lead : UInt8) : Option (Nat × UInt8 × UInt8) :=
  if lead < 0x80 then some (0, 0x80, 0xBF)
  else if lead < 0xC2 then none
  else if lead < 0xE0 then some (1, 0x80, 0xBF)
  else if lead = 0xE0 then some (2, 0xA0, 0xBF)
  else if lead = 0xED then some (2, 0x80, 0x9F)
  else if lead < 0xF0 then some (2, 0x80, 0xBF)
  else if lead = 0xF0 then some (3, 0x90, 0xBF)
  else if lead < 0xF4 then some (3, 0x80, 0xBF)
  else if lead = 0xF4 then some (3, 0x80, 0x8F)
  else none

/-- Reads the bytes after the first `size` of a character, of which `count` are still due. -/
def tail (size : Nat) : Nat → UInt8 → UInt8 → Bytes → Head
  | 0, _, _, _ => .character size
  | _ + 1, _, _, [] => .truncated size
  | count + 1, low, high, b :: rest =>
    if low ≤ b ∧ b ≤ high then tail (size + 1) count 0x80 0xBF rest else .broken size

/-- What stands at the front of `lead :: rest`. -/
def head (lead : UInt8) (rest : Bytes) : Head :=
  match followers lead with
  | none => .broken 1
  | some (count, low, high) => tail 1 count low high rest

/-! ## Reading -/

/-- The first fault of a byte string. -/
structure Error where
  /-- How many bytes before it are characters. -/
  start : Nat
  /-- How many bytes it takes up; absent when the bytes end inside a character. -/
  size : Option Nat
deriving DecidableEq, Repr

def Error.message (e : Error) : String :=
  match e.size with
  | some n => "invalid utf-8 sequence of " ++ toString n ++ " bytes from index " ++ toString e.start
  | none => "incomplete utf-8 byte sequence from index " ++ toString e.start

/-- Looks for the first fault, `start` bytes into the string. -/
def firstError (start : Nat) : Bytes → Option Error
  | [] => none
  | lead :: rest =>
    match head lead rest with
    | .character size => firstError (start + size) (rest.drop (size - 1))
    | .broken size => some ⟨start, some size⟩
    | .truncated _ => some ⟨start, none⟩
termination_by bytes => bytes.length
decreasing_by simp only [List.length_cons, List.length_drop]; omega

/-- Reads a text, or says what keeps the bytes from being one. -/
def decode (bytes : Bytes) : Except Error String :=
  match String.fromUTF8? ⟨bytes.toArray⟩ with
  | some text => .ok text
  | none => .error ((firstError 0 bytes).getD ⟨0, none⟩)

/-- What was written can be read back. -/
@[simp] theorem decode_encode (text : String) : decode (encode text) = .ok text := by
  have h : (⟨(encode text).toArray⟩ : ByteArray) = text.toByteArray := by simp [encode]
  simp only [decode, String.fromUTF8?, h]
  simp [text.isValidUTF8, String.fromUTF8]

/-- The code point of the character at the front, `size` bytes long. -/
def codePoint (size : Nat) (lead : UInt8) (rest : Bytes) : Nat :=
  let high := if size = 1 then lead.toNat else lead.toNat % Nat.pow 2 (7 - size)
  (rest.take (size - 1)).foldl (fun point b => point * 64 + b.toNat % 64) high

/-- The characters of a byte string, with U+FFFD for each fault. -/
def lossyCharacters : Bytes → List Char
  | [] => []
  | lead :: rest =>
    match head lead rest with
    | .character size =>
      Char.ofNat (codePoint size lead rest) :: lossyCharacters (rest.drop (size - 1))
    | .broken size => '\uFFFD' :: lossyCharacters (rest.drop (size - 1))
    | .truncated _ => ['\uFFFD']
termination_by bytes => bytes.length
decreasing_by all_goals (simp only [List.length_cons, List.length_drop]; omega)

/-- Reads a text whatever the bytes are. -/
def lossy (bytes : Bytes) : String := String.ofList (lossyCharacters bytes)

end Utf8

end KeyRelay
