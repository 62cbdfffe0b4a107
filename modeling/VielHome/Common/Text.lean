import Mathlib.Data.List.DropRight

/-!
# Texts

What the services do with the texts that they are sent.
-/

namespace VielHome

/-- What `String.prototype.trim` takes off both ends: white space and line terminators. -/
def isTrimmed (c : Char) : Bool :=
  c.toNat ∈ [0x9, 0xA, 0xB, 0xC, 0xD, 0x20, 0xA0, 0x1680, 0x2028, 0x2029, 0x202F, 0x205F, 0x3000,
    0xFEFF] ∨ (0x2000 ≤ c.toNat ∧ c.toNat ≤ 0x200A)

/-- `trim`: without the white space on either end. -/
def trim (s : String) : String :=
  String.ofList ((s.toList.dropWhile isTrimmed).rdropWhile isTrimmed)

end VielHome
