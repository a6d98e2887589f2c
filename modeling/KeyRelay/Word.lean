/-!
# Words of 64 bits

Whole numbers that come from outside have to fit a word of 64 bits, with a sign or without one.
-/

namespace KeyRelay

/-- How many numbers a word without a sign holds: all those below this one. -/
def Word.size : Nat := 0x10000000000000000

/-- How many numbers a word with a sign holds on either side: it holds this one below zero, and all
smaller ones above. -/
def Word.half : Nat := 0x8000000000000000

/-- The greatest number that a word without a sign holds. -/
def maxWord : Nat := Word.size - 1

end KeyRelay
