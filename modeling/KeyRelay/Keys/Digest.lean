import KeyRelay.Sha256
import KeyRelay.Text.Hex
/-!
# Digests of values

A digest names a value without showing it: the first eight bytes of its hash, as sixteen lowercase
hexadecimal digits. A digest that comes back from a client is compared without regard to the case
of its letters, but in no other way loosely.
-/

namespace KeyRelay

def valueDigest (value : Bytes) : String := Hex.encode ((Sha256.hash value).take 8)

/-- A letter of the Latin alphabet in lower case; everything else as it is. -/
def foldCase (c : Char) : Char := if 'A' ≤ c ∧ c ≤ 'Z' then Char.ofNat (c.toNat + 32) else c

/-- Whether two texts differ in the case of their Latin letters only. -/
def equalUpToCase (a b : String) : Bool := a.toList.map foldCase == b.toList.map foldCase

end KeyRelay
