import KeyRelay.Glob.Token
/-!
# Is this name a pattern?

A name counts as a pattern when one of the characters `?`, `*` and `[` occurs in it and that same
character never occurs right after a backslash. Each of the three is judged by itself, so an
escaped star does not hide a question mark elsewhere. The test looks at bytes and not at tokens: it
is what decides between the two kinds of subscription, not what a pattern then matches.
-/

namespace KeyRelay.Glob

/-- Whether `mark` occurs right after a backslash. -/
def occursEscaped (mark : UInt8) : Bytes → Bool
  | a :: b :: rest => (a == backslash && b == mark) || occursEscaped mark (b :: rest)
  | _ => false

/-- Whether a byte occurs, and never right after a backslash. -/
def occursUnescaped (mark : UInt8) (name : Bytes) : Bool :=
  name.contains mark && !occursEscaped mark name

/-- The bytes that make a name a pattern. -/
def marks : List UInt8 := [question, star, openBracket]

def isPattern (name : String) : Bool :=
  marks.any (occursUnescaped · (Utf8.encode name))

end KeyRelay.Glob
