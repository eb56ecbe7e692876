import Mathlib.Tactic.IntervalCases
import MiniDrop.Agent.SessionManager
/-!
# Labels in the base 64

The accumulator of the decoder is never cleared and wraps around. What counts are its low bits:
those of the characters that were read and of which no byte was written yet.
-/
namespace MiniDrop.Agent

open List

/-- The character of a value in the standard alphabet: capitals, small letters, digits, plus and
slash. -/
def digit (value : Nat) : Char :=
  if value < 26 then Char.ofNat ('A'.toNat + value)
  else if value < 52 then Char.ofNat ('a'.toNat + (value - 26))
  else if value < 62 then Char.ofNat ('0'.toNat + (value - 52))
  else if value = 62 then '+'
  else '/'

/-- The standard encoding with padding: three bytes in four characters. -/
def stdEncoding : List UInt8 → List Char
  | [] => []
  | [a] => [digit (a.toNat / 4), digit (a.toNat % 4 * 16), '=', '=']
  | [a, b] =>
    [digit (a.toNat / 4), digit (a.toNat % 4 * 16 + b.toNat / 16), digit (b.toNat % 16 * 4), '=']
  | a :: b :: c :: rest =>
    digit (a.toNat / 4) :: digit (a.toNat % 4 * 16 + b.toNat / 16) ::
      digit (b.toNat % 16 * 4 + c.toNat / 64) :: digit (c.toNat % 64) :: stdEncoding rest

namespace Decoder

variable {state : Decoder} {count pending value : Nat} {written : List UInt8}

theorem read_digit (state : Decoder) (small : value < 64) :
    state.read (digit value) = state.push value := by
  have known : ∀ value < 64, kAlphabet.idxOf? (digit value) = some value ∧
      ¬(digit value = '=' ∨ digit value = '\n' ∨ digit value = '\r') := by decide +kernel
  rw [read, if_neg (known value small).2, (known value small).1, Option.elim_some]

theorem read_pad (state : Decoder) : state.read '=' = state := if_pos (.inl rfl)

/-- The bits of which no byte was written yet are the low ones of the accumulator. -/
structure Holds (state : Decoder) (count pending : Nat) (written : List UInt8) : Prop where
  bitCount : state.bitCount = count
  low : state.bits % 2 ^ count = pending
  out : state.out = written

theorem Holds.first (holds : state.Holds 0 pending written) (small : value < 64) :
    (state.push value).Holds 6 value written := by
  simp only [push, holds.bitCount, if_neg (by omega : ¬0 + 6 ≥ 8)]
  refine ⟨rfl, ?_, holds.out⟩
  dsimp only
  omega

theorem Holds.next (holds : state.Holds (count + 2) pending written) (few : count ≤ 4)
    (small : value < 64) : (state.push value).Holds count ((pending * 64 + value) % 2 ^ count)
      (written ++ [UInt8.ofNat ((pending * 64 + value) / 2 ^ count)]) := by
  have low := holds.low
  simp only [push, holds.bitCount, holds.out, if_pos (by omega : count + 2 + 6 ≥ 8)]
  refine ⟨rfl, ?_, congrArg (fun byte => written ++ [UInt8.ofNat byte]) ?_⟩
  · interval_cases count <;> norm_num at low ⊢ <;> omega
  · interval_cases count <;> norm_num at low ⊢ <;> omega

/-- Decoding appends the bytes to those that are written. The characters of a group are read one by
one. -/
theorem foldl_stdEncoding (bytes : List UInt8) (holds : state.Holds 0 pending written) :
    ((stdEncoding bytes).foldl read state).out = written ++ bytes := by
  have byte {n : Nat} (a : UInt8) (same : n = a.toNat) : UInt8.ofNat n = a := by
    rw [same, UInt8.ofNat_toNat]
  induction bytes using stdEncoding.induct generalizing state written pending with
  | case1 => rw [append_nil, stdEncoding, foldl_nil, holds.out]
  | case2 a =>
    have := a.toNat_lt
    rw [stdEncoding]
    simp (disch := omega) only [foldl_cons, foldl_nil, read_pad, read_digit]
    rw [((holds.first (by omega)).next (by omega) (by omega)).out, byte a (by omega)]
  | case3 a b =>
    have := a.toNat_lt
    have := b.toNat_lt
    rw [stdEncoding]
    simp (disch := omega) only [foldl_cons, foldl_nil, read_pad, read_digit]
    rw [(((holds.first (by omega)).next (by omega) (by omega)).next (by omega) (by omega)).out,
      byte a (by omega), byte b (by omega), append_assoc]
    rfl
  | case4 a b c rest ih =>
    have := a.toNat_lt
    have := b.toNat_lt
    have := c.toNat_lt
    rw [stdEncoding]
    simp (disch := omega) only [foldl_cons, read_digit]
    rw [ih ((((holds.first (by omega)).next (by omega) (by omega)).next (by omega) (by omega)).next
      (by omega) (by omega)), byte a (by omega), byte b (by omega), byte c (by omega)]
    simp

end Decoder

/-- **Decoding inverts the standard encoding**, of any length. -/
theorem base64Decode_stdEncoding (bytes : List UInt8) : base64Decode (stdEncoding bytes) = bytes :=
  Decoder.foldl_stdEncoding bytes ⟨rfl, rfl, rfl⟩

end MiniDrop.Agent
