import Mathlib.Data.UInt
import Mathlib.Data.Nat.Notation

/-!
# Hex digits

Bytes written as two hex digits each, and read back.
-/

/-- The two hex digits of a byte. -/
def hexDigits (b : UInt8) : List Char :=
  [Nat.digitChar (b.toNat / 16), Nat.digitChar (b.toNat % 16)]

/-- The value of a hex digit. -/
def hexValue (c : Char) : Option ℕ :=
  if '0' ≤ c ∧ c ≤ '9' then some (c.toNat - '0'.toNat)
  else if 'a' ≤ c ∧ c ≤ 'f' then some (c.toNat - 'a'.toNat + 10)
  else if 'A' ≤ c ∧ c ≤ 'F' then some (c.toNat - 'A'.toNat + 10)
  else none

/-- The bytes written by an even number of hex digits. -/
def unhexlify : List Char → Option (List UInt8)
  | [] => some []
  | [_] => none
  | c :: d :: cs => do
      let hi ← hexValue c
      let lo ← hexValue d
      let bytes ← unhexlify cs
      return UInt8.ofNat (16 * hi + lo) :: bytes

/-- The hex digits of a byte are read back as the byte's two halves. -/
theorem hexValue_digitChar {n : ℕ} (h : n < 16) :
  hexValue (Nat.digitChar n) = some n
  := by
  revert n
  decide

/-- Reading the hex digits of a byte string gives the byte string. -/
theorem unhexlify_flatMap_hexDigits (bytes : List UInt8) :
  unhexlify (bytes.flatMap hexDigits) = some bytes
  := by
  induction bytes with
  | nil => rfl
  | cons b bytes ih =>
      have hb : b.toNat < 256 := b.toNat_lt
      have hbyte : UInt8.ofNat (16 * (b.toNat / 16) + b.toNat % 16) = b := by
        rw [Nat.div_add_mod]
        apply UInt8.ofNat_toNat
      simp only [List.flatMap_cons, hexDigits, List.cons_append, List.nil_append, unhexlify,
        hexValue_digitChar (show b.toNat / 16 < 16 by omega),
        hexValue_digitChar (show b.toNat % 16 < 16 by omega), ih, hbyte, Option.bind_eq_bind,
        Option.bind_some, Option.pure_def]

/-- A byte has two hex digits. -/
theorem length_flatMap_hexDigits (bytes : List UInt8) :
  (bytes.flatMap hexDigits).length = 2 * bytes.length
  := by
  induction bytes with
  | nil => rfl
  | cons b bytes ih =>
      simp only [List.flatMap_cons, List.length_append, ih, List.length_cons, hexDigits,
        List.length_nil]
      omega
