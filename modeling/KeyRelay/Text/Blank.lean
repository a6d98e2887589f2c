/-!
# Blank texts

A name that is empty, or made of white space only, names nothing. White space is the Unicode
property of that name: the twenty-five code points below, not the format characters (U+200B,
U+FEFF) that merely look like it, and not the ASCII separators U+001C to U+001F.
-/

namespace KeyRelay

def isSpace (c : Char) : Bool :=
  let n := c.toNat
  (0x09 ≤ n && n ≤ 0x0D) || n == 0x20 || n == 0x85 || n == 0xA0 || n == 0x1680 ||
  (0x2000 ≤ n && n ≤ 0x200A) || n == 0x2028 || n == 0x2029 || n == 0x202F || n == 0x205F ||
  n == 0x3000

/-- A text without any character that shows. -/
def isBlank (text : String) : Bool := text.toList.all isSpace

end KeyRelay
