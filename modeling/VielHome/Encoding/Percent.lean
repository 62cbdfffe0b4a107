import Mathlib.Data.List.Basic
import Mathlib.Tactic.Common
import Mathlib.Tactic.IntervalCases

/-!
# Percent-encoding

A text is encoded character by character: one that is `safe` stands for itself, and of any other
one each byte of its UTF-8 form is written as a percent sign and two hexadecimal digits. As long as
the safe characters do not include the percent sign, decoding gives the text back
(`decode_encode`), so no two texts are encoded alike, and what is encoded consists of safe
characters, percent signs and digits (`mem_encode`).
-/

namespace Encoding.Percent

/-- A hexadecimal digit, in upper case. -/
def digit (n : ℕ) : Char := (Nat.digitChar n).toUpper

/-- The value of a hexadecimal digit in upper case. -/
def value? (c : Char) : Option ℕ :=
  (List.range 16).find? fun n => digit n = c

theorem value?_digit {n : ℕ} (h : n < 16) : value? (digit n) = some n := by
  interval_cases n <;> decide

/-- A byte, encoded. -/
def escape (byte : UInt8) : List Char := ['%', digit (byte.toNat / 16), digit (byte.toNat % 16)]

/-- A text, encoded. -/
def encode (safe : Char → Bool) (text : List Char) : List Char :=
  text.flatMap fun c => if safe c then [c] else (String.utf8EncodeChar c).flatMap escape

/-- The bytes that a text stands for, unless it has a percent sign without two digits. -/
def bytes? : List Char → Option (List UInt8)
  | [] => some []
  | '%' :: a :: b :: text => do
    let high ← value? a
    let low ← value? b
    let rest ← bytes? text
    pure (UInt8.ofNat (16 * high + low) :: rest)
  | '%' :: _ => none
  | c :: text => (bytes? text).map (String.utf8EncodeChar c ++ ·)

/-- The text that is encoded, unless it is none in UTF-8. -/
def decode? (text : List Char) : Option (List Char) := do
  let bytes ← bytes? text
  let chars ← bytes.toByteArray.utf8Decode?
  pure chars.toList

variable {safe : Char → Bool} {text text' : List Char} {c : Char}

/-! ### Decoding what was encoded -/

theorem bytes?_escape (byte : UInt8) :
    bytes? (escape byte ++ text) = (bytes? text).map (byte :: ·) := by
  have hhigh : byte.toNat / 16 < 16 := by
    have := byte.toNat_lt
    omega
  have hbyte : UInt8.ofNat (16 * (byte.toNat / 16) + byte.toNat % 16) = byte := by
    rw [Nat.div_add_mod]
    exact UInt8.ofNat_toNat
  change (do
    let high ← value? (digit (byte.toNat / 16))
    let low ← value? (digit (byte.toNat % 16))
    let rest ← bytes? text
    pure (UInt8.ofNat (16 * high + low) :: rest)) = _
  rw [value?_digit hhigh, value?_digit (Nat.mod_lt _ (by decide))]
  cases bytes? text with
  | none => rfl
  | some rest => exact congrArg (fun byte => some (byte :: rest)) hbyte

theorem bytes?_escapes (bytes : List UInt8) :
    bytes? (bytes.flatMap escape ++ text) = (bytes? text).map (bytes ++ ·) := by
  induction bytes with
  | nil => simp
  | cons byte bytes ih =>
    rw [List.flatMap_cons, List.append_assoc, bytes?_escape, ih, Option.map_map]
    rfl

theorem bytes?_cons (h : c ≠ '%') :
    bytes? (c :: text) = (bytes? text).map (String.utf8EncodeChar c ++ ·) := by
  rw [bytes?]
  · exact fun _ _ _ hc => absurd hc h
  · exact h

theorem bytes?_encode (hsafe : safe '%' = false) :
    bytes? (encode safe text) = some (text.flatMap String.utf8EncodeChar) := by
  induction text with
  | nil => rfl
  | cons c text ih =>
    rw [encode, List.flatMap_cons, ← encode, List.flatMap_cons]
    split
    case isTrue hc =>
      have hne : c ≠ '%' := by
        rintro rfl
        rw [hsafe] at hc
        exact nomatch hc
      rw [List.singleton_append, bytes?_cons hne, ih, Option.map_some]
    case isFalse => rw [bytes?_escapes, ih, Option.map_some]

/-- Decoding gives back what was encoded. -/
theorem decode?_encode (hsafe : safe '%' = false) : decode? (encode safe text) = some text := by
  rw [decode?, bytes?_encode hsafe]
  have hbytes : (text.flatMap String.utf8EncodeChar).toByteArray = text.utf8Encode := rfl
  simp [hbytes]

/-- No two texts are encoded alike. -/
theorem encode_inj (hsafe : safe '%' = false) :
    encode safe text = encode safe text' ↔ text = text' := by
  refine ⟨fun h => ?_, fun h => by rw [h]⟩
  have hdecode : some text = some text' := by
    rw [← decode?_encode hsafe, h, decode?_encode hsafe]
  exact Option.some.inj hdecode

/-! ### What is written -/

theorem encode_append : encode safe (text ++ text') = encode safe text ++ encode safe text' :=
  List.flatMap_append

/-- A character of an encoded text is safe, a percent sign or a digit. -/
theorem mem_encode (h : c ∈ encode safe text) :
    safe c = true ∨ c = '%' ∨ ∃ n < 16, c = digit n := by
  obtain ⟨d, -, hd⟩ := List.mem_flatMap.mp h
  split at hd
  case isTrue hsafe =>
    rw [List.mem_singleton.mp hd]
    exact Or.inl hsafe
  case isFalse =>
    obtain ⟨byte, -, hbyte⟩ := List.mem_flatMap.mp hd
    have hhigh : byte.toNat / 16 < 16 := by
      have := byte.toNat_lt
      omega
    simp only [escape, List.mem_cons, List.not_mem_nil, or_false] at hbyte
    rcases hbyte with rfl | rfl | rfl
    · exact Or.inr (Or.inl rfl)
    · exact Or.inr (Or.inr ⟨_, hhigh, rfl⟩)
    · exact Or.inr (Or.inr ⟨_, Nat.mod_lt _ (by decide), rfl⟩)

/-- A character that is not safe, no percent sign and no digit is not found in an encoded text. -/
theorem notMem_encode (hsafe : safe c = false) (hpercent : c ≠ '%')
    (hdigit : ∀ n < 16, digit n ≠ c) : c ∉ encode safe text := by
  intro h
  rcases mem_encode h with hc | hc | ⟨n, hn, hc⟩
  · rw [hsafe] at hc
    exact nomatch hc
  · exact hpercent hc
  · exact hdigit n hn hc.symm

end Encoding.Percent
