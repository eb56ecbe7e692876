import Mathlib.Data.Nat.Digits.Lemmas
/-!
# Byte strings

Fixed-width numbers in little-endian order, read back from the front of a byte string or, where too
few bytes are left, from what there is; and numbers in decimal digits. Nothing here refers to a
particular program.
-/
namespace MiniDrop.Base

open List

variable {field rest : Bytes} {count value : Nat}

/-- A byte string. -/
abbrev Bytes := List UInt8

/-! ## Little-endian numbers -/

/-- The low bytes of a number, lowest first. -/
def leBytes : Nat → Nat → Bytes
  | 0, _ => []
  | width + 1, value => UInt8.ofNat value :: leBytes width (value / 256)

/-- The number whose bytes are given, lowest first. -/
def leValue : Bytes → Nat
  | [] => 0
  | byte :: rest => byte.toNat + 256 * leValue rest

/-- A number takes its width. -/
@[simp] theorem length_leBytes (width value : Nat) : (leBytes width value).length = width := by
  induction width generalizing value with
  | zero => rfl
  | succ width ih => rw [leBytes, length_cons, ih]

/-- A number that is cut to its width is read back as its remainder. -/
theorem leValue_leBytes_mod (width value : Nat) :
    leValue (leBytes width value) = value % 256 ^ width := by
  induction width generalizing value with
  | zero => simp [leBytes, leValue, Nat.mod_one]
  | succ width ih =>
    rw [leBytes, leValue, ih, Nat.pow_succ', Nat.mod_mul, UInt8.toNat_ofNat']

/-- A number that fits its width is read back. -/
theorem leValue_leBytes {width : Nat} (fits : value < 256 ^ width) :
    leValue (leBytes width value) = value := by
  rw [leValue_leBytes_mod, Nat.mod_eq_of_lt fits]

/-- A number is its low bytes and then its high bytes. -/
theorem leBytes_add (low high value : Nat) :
    leBytes (low + high) value = leBytes low value ++ leBytes high (value / 256 ^ low) := by
  induction low generalizing value with
  | zero => simp [leBytes]
  | succ low ih =>
    rw [Nat.succ_add, leBytes, leBytes, ih, cons_append, Nat.pow_succ', Nat.div_div_eq_div_mul]

/-- The bytes left after a number, if there are enough for it. -/
def splitBytes (count : Nat) (bytes : Bytes) : Option (Bytes × Bytes) :=
  if count ≤ bytes.length then some (bytes.take count, bytes.drop count) else none

/-- A field that is there is split off. -/
@[simp] theorem splitBytes_append :
    splitBytes field.length (field ++ rest) = some (field, rest) := by
  simp [splitBytes]

/-- A field of known length that is there is split off. -/
theorem splitBytes_of_length (length : field.length = count) :
    splitBytes count (field ++ rest) = some (field, rest) := by
  subst length
  exact splitBytes_append

/-- What is split off a byte string is split off every longer one. -/
theorem splitBytes_extend {bytes : Bytes} (split : splitBytes count bytes = some (field, rest))
    (more : Bytes) : splitBytes count (bytes ++ more) = some (field, rest ++ more) := by
  unfold splitBytes at split ⊢
  split at split
  · next enough =>
    cases split
    rw [if_pos (by rw [length_append]; omega), take_append_of_le_length enough,
      drop_append_of_le_length enough]
  · cases split

/-! ## Decimal digits -/

/-- The decimal digits of a number as text. -/
def decimal (value : Nat) : Bytes :=
  if value = 0 then [48]
  else ((Nat.digits 10 value).map fun digit => UInt8.ofNat (48 + digit)).reverse

/-- The number a text of digits stands for. -/
def ofDecimal (text : Bytes) : Nat :=
  text.foldl (fun value byte => 10 * value + (byte.toNat - 48)) 0

/-- The digits are those of ASCII. -/
theorem decimal_digits {byte : UInt8} (mem : byte ∈ decimal value) :
    48 ≤ byte.toNat ∧ byte.toNat ≤ 57 := by
  unfold decimal at mem
  split at mem
  · rw [mem_singleton.mp mem]
    decide
  · rw [mem_reverse, mem_map] at mem
    obtain ⟨digit, digitIn, rfl⟩ := mem
    have small := Nat.digits_lt_base (by decide : 1 < 10) digitIn
    rw [UInt8.toNat_ofNat']
    omega

/-- The decimal text of a number is read back. -/
theorem ofDecimal_decimal (value : Nat) : ofDecimal (decimal value) = value := by
  unfold decimal
  split
  · next zero =>
    rw [zero]
    rfl
  · have read (digits : List Nat) (small : ∀ digit ∈ digits, digit < 10) :
        ofDecimal ((digits.map fun digit => UInt8.ofNat (48 + digit)).reverse) =
          Nat.ofDigits 10 digits := by
      unfold ofDecimal
      induction digits with
      | nil => rfl
      | cons digit rest ih =>
        have own := small digit mem_cons_self
        have later := ih (forall_mem_cons.mp small).2
        rw [map_cons, reverse_cons, foldl_append, later, Nat.ofDigits_cons]
        simp only [foldl_cons, foldl_nil, UInt8.toNat_ofNat']
        omega
    rw [read _ fun digit mem => Nat.digits_lt_base (by decide) mem]
    exact Nat.ofDigits_digits 10 value

end MiniDrop.Base
