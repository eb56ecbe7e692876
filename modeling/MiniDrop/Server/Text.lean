import Mathlib.Algebra.Ring.Nat
import Mathlib.Data.List.DropRight
import Mathlib.Data.Int.Order.Basic
/-!
# Times, texts, counts and labels

The small values the continuous-profiling server computes with. An instant is an integer, the
whole milliseconds since the epoch, which is the precision the agent and the web client send; the
hour grid is the UTC one.
Texts are Unicode strings under the standard library's trimming and, for letters that compare
against ASCII names, its lower-casing. Counts saturate at the largest signed 64-bit value.
-/
namespace MiniDrop

open List

namespace Time

/-- The zero `time.Time`, midnight of the first day of year one. -/
def zero : Int := -62135596800000

def isZero (t : Int) : Bool := t == zero

def unixMilli (t : Int) : Int := t

/-- One second. -/
def second : Int := 1000

/-- One minute. -/
def minute : Int := 60 * second

/-- One hour. -/
def hour : Int := 60 * minute

/-- `UTC().Truncate(time.Hour)`. -/
def truncateHour (t : Int) : Int := t / hour * hour

/-- Truncation is the last hour boundary at or before the instant. -/
theorem truncateHour_bounds (t : Int) : truncateHour t ≤ t ∧ t < truncateHour t + hour := by
  simp only [truncateHour, hour, minute, second]
  omega

/-- An hour start is its own truncation. -/
theorem truncateHour_idem (t : Int) : truncateHour (truncateHour t) = truncateHour t := by
  simp only [truncateHour, hour, minute, second]
  omega

theorem truncateHour_mono {s t : Int} (order : s ≤ t) : truncateHour s ≤ truncateHour t :=
  Int.mul_le_mul_of_nonneg_right (Int.ediv_le_ediv (by decide) order) (by decide)

/-- An instant between two consecutive hour starts truncates to the first. -/
theorem truncateHour_eq {start t : Int} (boundary : truncateHour start = start)
    (lower : start ≤ t) (upper : t < start + hour) : truncateHour t = start := by
  simp only [truncateHour, hour, minute, second] at *
  omega

end Time

/-- The code points `unicode.IsSpace` accepts. -/
def isSpace (c : Char) : Bool :=
  c == ' ' || (9 ≤ c.toNat && c.toNat ≤ 13) || c.toNat == 0x85 || c.toNat == 0xA0 ||
    c.toNat == 0x1680 || (0x2000 ≤ c.toNat && c.toNat ≤ 0x200a) || c.toNat == 0x2028 ||
    c.toNat == 0x2029 || c.toNat == 0x202f || c.toNat == 0x205f || c.toNat == 0x3000

def trimSpace (s : String) : String :=
  String.ofList (((s.toList.dropWhile isSpace).reverse.dropWhile isSpace).reverse)

/-- A text that neither starts nor ends with a space is its own trimming. -/
theorem trimSpace_eq {s : String} {first last : Char} {front back : List Char}
    (starts : s.toList = first :: front) (ends : s.toList = back ++ [last])
    (firstSolid : isSpace first = false) (lastSolid : isSpace last = false) : trimSpace s = s := by
  unfold trimSpace
  rw [starts, dropWhile_cons_of_neg (by simp [firstSolid]), ← starts, ends,
    reverse_append, reverse_singleton, singleton_append,
    dropWhile_cons_of_neg (by simp [lastSolid]), reverse_cons, reverse_reverse,
    ← ends, String.ofList_toList]

/-- Trimming twice is trimming once. -/
theorem trimSpace_idem (s : String) : trimSpace (trimSpace s) = trimSpace s := by
  unfold trimSpace
  rw [String.toList_ofList]
  congr 1
  generalize inner : s.toList.dropWhile isSpace = solid
  have start : solid.dropWhile isSpace = solid := by
    rw [← inner]
    exact dropWhile_idempotent isSpace s.toList
  -- What is left after trimming at the end starts as before.
  have kept : ((solid.reverse.dropWhile isSpace).reverse).dropWhile isSpace =
      (solid.reverse.dropWhile isSpace).reverse := by
    have starts : (solid.reverse.dropWhile isSpace).reverse <+: solid := by
      have flipped := reverse_prefix.mpr (dropWhile_suffix isSpace (l := solid.reverse))
      rwa [reverse_reverse] at flipped
    cases shape : (solid.reverse.dropWhile isSpace).reverse with
    | nil => rfl
    | cons c rest =>
      rw [shape] at starts
      obtain ⟨tail, same⟩ := starts
      rw [dropWhile_eq_self_iff]
      intro _ space
      have space : isSpace c = true := space
      rw [← same, cons_append, dropWhile_cons_of_pos space] at start
      have bound := (dropWhile_suffix isSpace (l := rest ++ tail)).length_le
      have length := congrArg length start
      rw [length_cons] at length
      omega
  rw [kept, reverse_reverse, dropWhile_idempotent]

/-- Lower case of one code point: the ASCII letters, and the two other code points whose lower case
is an ASCII letter. Further code points never equal a name the server compares against. -/
def lowerChar (c : Char) : Char :=
  if 'A' ≤ c ∧ c ≤ 'Z' then Char.ofNat (c.toNat + 32)
  else if c.toNat = 0x130 then 'i'
  else if c.toNat = 0x212a then 'k'
  else c

def toLower (s : String) : String := String.ofList (s.toList.map lowerChar)

/-- `strings.ToLower(strings.TrimSpace(s))`, the form in which signal names are compared. -/
def lowerTrim (s : String) : String := toLower (trimSpace s)

def hasPrefix (s start : String) : Bool := start.toList.isPrefixOf s.toList

def contains (s part : String) : Bool := s.toList.tails.any fun rest => part.toList.isPrefixOf rest

/-- The first value that is not blank, trimmed; empty when all are blank. -/
def firstNonEmpty : List String → String
  | [] => ""
  | value :: rest => if trimSpace value ≠ "" then trimSpace value else firstNonEmpty rest

/-- `continuousMaxDBCount`: counts are stored in a signed 64-bit column. -/
def continuousMaxDBCount : Nat := 2 ^ 63 - 1

def clampContinuousCount (value : Nat) : Nat :=
  if value > continuousMaxDBCount then continuousMaxDBCount else value

/-- `addContinuousCount`: saturating addition. -/
def addContinuousCount (total value : Nat) : Nat :=
  let value := clampContinuousCount value
  if total ≥ continuousMaxDBCount ∨ value ≥ continuousMaxDBCount then continuousMaxDBCount
  else if total > continuousMaxDBCount - value then continuousMaxDBCount
  else total + value

def firstNonZeroUint64 (value fallback : Nat) : Nat := if value ≠ 0 then value else fallback

/-- `int32(x)`: the low 32 bits, read as a signed number. -/
def int32 (x : Int) : Int := Int.bmod x (2 ^ 32)

/-- A decoded JSON value in a label map. A number carries its shortest decimal text, a nested
structure the text it is printed as. -/
inductive LabelValue where
  | text (value : String)
  | bool (value : Bool)
  | number (formatted : String)
  | nested (printed : String)
  deriving DecidableEq

/-- `map[string]interface{}` of labels, in iteration order. -/
abbrev Labels := List (String × LabelValue)

/-- `map[string]string` of labels, in iteration order. -/
abbrev TextLabels := List (String × String)

/-- The words that make a label sensitive. -/
def sensitiveLabelKeys : List String :=
  ["password", "passwd", "pwd", "token", "secret", "credential", "credentials",
    "db_targets", "db_password", "db_passwd", "api_key", "apikey", "access_key",
    "accesskey", "private_key", "auth", "authorization"]

def isSensitiveLabelKey (key : String) : Bool :=
  sensitiveLabelKeys.any fun sensitive =>
    lowerTrim key == sensitive || contains (lowerTrim key) sensitive

/-- The text a scalar label is stored under. -/
def LabelValue.scalar : LabelValue → Option String
  | .text value => some value
  | .bool true => some "true"
  | .bool false => some "false"
  | .number formatted => some formatted
  | .nested _ => none

/-- `fmt.Sprint` of a label value. -/
def LabelValue.printed : LabelValue → String
  | .text value => value
  | .bool true => "true"
  | .bool false => "false"
  | .number formatted => formatted
  | .nested printed => printed

def labelString (labels : Labels) (key : String) : String :=
  match labels.lookup key with
  | some value => trimSpace value.printed
  | none => ""

/-- `sanitizeContinuousLabels`: scalar labels whose key is not sensitive. -/
def sanitizeContinuousLabels (labels : Labels) : TextLabels :=
  labels.filterMap fun (key, value) =>
    if isSensitiveLabelKey key then none else value.scalar.map fun text => (key, text)

/-- `labels[key] = value` on a map of texts. -/
def setLabel (labels : TextLabels) (key value : String) : TextLabels :=
  labels.filter (fun entry => entry.1 ≠ key) ++ [(key, value)]

/-- A `float64`, by its bits: the server moves these values and compares them for equality. -/
structure Float64 where
  /-- The IEEE 754 encoding. -/
  bits : UInt64
  deriving DecidableEq

end MiniDrop
