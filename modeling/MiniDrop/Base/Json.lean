import Mathlib.Data.Option.Basic
import Mathlib.Tactic.Conv
import Mathlib.Tactic.SplitIfs
/-!
# Flat JSON objects

A reader of objects whose members are strings, integers and truth values, without blanks between the
tokens, without escapes by code point and with at least one member, and a writer that escapes the
strings in a way of its own. What is read is what was written, if this holds of the strings. Nothing
here refers to a particular program.
-/
namespace MiniDrop.Base

open List

inductive JsonScalar where
  | text (value : List Char)
  | number (value : Int)
  | flag (value : Bool)

/-- The character that an escape of one character stands for. -/
def unescape : Char → Option Char
  | '"' => some '"'
  | '\\' => some '\\'
  | '/' => some '/'
  | 'b' => some '\x08'
  | 'f' => some '\x0c'
  | 'n' => some '\n'
  | 'r' => some '\r'
  | 't' => some '\t'
  | _ => none

/-- What is left of a string, and what follows it. Control characters have to be escaped. -/
def readText : List Char → Option (List Char × List Char)
  | [] => none
  | '"' :: rest => some ([], rest)
  | ['\\'] => none
  | '\\' :: c :: rest =>
    (unescape c).bind fun char => (readText rest).map fun read => (char :: read.1, read.2)
  | c :: rest => if c < ' ' then none else (readText rest).map fun read => (c :: read.1, read.2)

/-- The natural number of some digits. -/
def readDigits (digits : List Char) : Option Nat :=
  if digits ≠ [] ∧ digits.all Char.isDigit then some (Nat.ofDigitChars 10 digits 0) else none

def readInt : List Char → Option Int
  | '-' :: digits => (readDigits digits).map fun value => -(value : Int)
  | digits => (readDigits digits).map (↑·)

def isNumeral (c : Char) : Bool := c.isDigit || c = '-'

def readScalar (chars : List Char) : Option (JsonScalar × List Char) :=
  match readInt (chars.takeWhile isNumeral), chars with
  | some value, _ => some (.number value, chars.dropWhile isNumeral)
  | none, '"' :: rest => (readText rest).map fun read => (.text read.1, read.2)
  | none, 't' :: 'r' :: 'u' :: 'e' :: rest => some (.flag true, rest)
  | none, 'f' :: 'a' :: 'l' :: 's' :: 'e' :: rest => some (.flag false, rest)
  | none, _ => none

/-- The members up to the end of the object, of which there are not more than a number. -/
def readMembers : Nat → List Char → Option (List (List Char × JsonScalar))
  | count + 1, '"' :: rest =>
    (readText rest).bind fun name => match name.2 with
      | ':' :: rest => (readScalar rest).bind fun scalar => match scalar.2 with
        | ',' :: rest => (readMembers count rest).map ((name.1, scalar.1) :: ·)
        | ['}'] => some [(name.1, scalar.1)]
        | _ => none
      | _ => none
  | _, _ => none

def readObject : List Char → Option (List (List Char × JsonScalar))
  | '{' :: rest => readMembers rest.length rest
  | _ => none

variable (escape : List Char → List Char) {rest : List Char} {c : Char}

def writeScalar : JsonScalar → List Char
  | .text value => '"' :: escape value ++ ['"']
  | .number value => (toString value).toList
  | .flag value => if value then ['t', 'r', 'u', 'e'] else ['f', 'a', 'l', 's', 'e']

def writeMembers : List (List Char × JsonScalar) → List Char
  | [] => ['}']
  | [member] => '"' :: member.1 ++ '"' :: ':' :: writeScalar escape member.2 ++ ['}']
  | member :: rest =>
    '"' :: member.1 ++ '"' :: ':' :: writeScalar escape member.2 ++ ',' :: writeMembers rest

def writeObject (members : List (List Char × JsonScalar)) : List Char :=
  '{' :: writeMembers escape members

variable {escape} {faithful : List Char → Bool}

theorem readText_cons (quote : c ≠ '"') (slash : c ≠ '\\') :
    readText (c :: rest) = if c < ' ' then none else (readText rest).map fun read =>
    (c :: read.1, read.2) := by
  conv_lhs => unfold readText
  split
  · next same => cases same
  · next same => exact absurd (cons.inj same).1 quote
  · next same => exact absurd (cons.inj same).1 slash
  · next same => exact absurd (cons.inj same).1 slash
  · next same =>
    cases same
    rfl

/-- A scalar that is read back. -/
def JsonScalar.sound (faithful : List Char → Bool) : JsonScalar → Bool
  | .text value => faithful value
  | .number _ | .flag _ => true

/-- The digits of a number. -/
theorem natText_digit {n : Nat} (member : c ∈ (toString n).toList) : c.isDigit = true :=
  Nat.isDigit_of_mem_toDigits (by decide) (by decide) (Nat.toList_repr ▸ member)

theorem readDigits_text (n : Nat) : readDigits (toString n).toList = some n := by
  have text : (toString n).toList = Nat.toDigits 10 n := Nat.toList_repr
  have digits : (toString n).toList ≠ [] ∧ (toString n).toList.all Char.isDigit :=
    ⟨text ▸ Nat.toDigits_ne_nil, all_eq_true.mpr fun _ => natText_digit⟩
  rw [readDigits, if_pos digits, text, Nat.ofDigitChars_ten_toDigits]

/-- A number is written with numerals, and is read from them. -/
theorem readInt_text (n : Int) :
    readInt (toString n).toList = some n ∧ ∀ c ∈ (toString n).toList, isNumeral c = true := by
  have numerals (k : Nat) : ∀ c ∈ (toString k).toList, isNumeral c = true := by
    intro c member
    simp [isNumeral, natText_digit member]
  cases n with
  | ofNat k =>
    refine ⟨?_, numerals k⟩
    show readInt (toString k).toList = some (k : Int)
    unfold readInt
    split
    · next digits signed =>
      have minus : '-' ∈ (toString k).toList := signed ▸ mem_cons_self
      exact absurd (natText_digit minus) (by decide)
    · rw [readDigits_text]
      rfl
  | negSucc k =>
    have text : (toString (Int.negSucc k)).toList = '-' :: (toString (k + 1)).toList :=
      String.toList_append
    rw [text]
    refine ⟨?_, forall_mem_cons.mpr ⟨rfl, numerals (k + 1)⟩⟩
    rw [readInt, readDigits_text]
    rfl

theorem length_le_writeMembers (escape : List Char → List Char)
    (members : List (List Char × JsonScalar)) :
    members.length ≤ (writeMembers escape members).length := by
  induction members with
  | nil => exact Nat.zero_le _
  | cons member rest ih =>
    cases rest with
    | nil => exact Nat.succ_le_succ (Nat.zero_le _)
    | cons =>
      simp only [writeMembers, length_cons, length_append] at ih ⊢
      omega

section Written

/-! ## What was written -/

variable (escapes : ∀ value rest, readText (escape value ++ '"' :: rest) =
  if faithful value then some (value, rest) else none) {members : List (List Char × JsonScalar)}

include escapes

/-- What is read of a scalar that was written, if a mark follows that ends a number. -/
theorem readScalar_write (scalar : JsonScalar) {mark : Char} (ends : isNumeral mark = false) :
    readScalar (writeScalar escape scalar ++ mark :: rest) =
      if scalar.sound faithful then some (scalar, mark :: rest) else none := by
  cases scalar with
  | text value =>
    show Option.map _ (readText ((escape value ++ ['"']) ++ mark :: rest)) = _
    rw [append_assoc, singleton_append, escapes, JsonScalar.sound]
    split_ifs <;> rfl
  | number value =>
    obtain ⟨reads, numerals⟩ := readInt_text value
    have stops : ¬isNumeral mark = true := by simp [ends]
    simp only [readScalar, writeScalar, takeWhile_append_of_pos numerals,
      takeWhile_cons_of_neg stops, append_nil, reads, dropWhile_append_of_pos numerals,
      dropWhile_cons_of_neg stops]
    rfl
  | flag value => cases value <;> rfl

theorem readMembers_write (filled : members ≠ []) (names : ∀ member ∈ members, ∀ rest,
      readText (member.1 ++ '"' :: rest) = some (member.1, rest)) {count : Nat} (enough :
      members.length ≤ count) :
    readMembers count (writeMembers escape members) =
      if members.all (·.2.sound faithful) then some members else none := by
  induction members generalizing count with
  | nil => exact absurd rfl filled
  | cons member rest ih =>
    obtain ⟨count, rfl⟩ := Nat.exists_eq_add_one.mpr (Nat.lt_of_lt_of_le (Nat.succ_pos _) enough)
    have named := names member mem_cons_self
    cases rest with
    | nil =>
      simp only [writeMembers, readMembers, cons_append, append_assoc, named, Option.bind_some,
        readScalar_write escapes member.2 (show isNumeral '}' = false by decide), all_cons, all_nil,
        Bool.and_true]
      split_ifs <;> rfl
    | cons =>
      have later := ih (cons_ne_nil _ _) (forall_mem_cons.mp names).2
        (Nat.le_of_succ_le_succ enough)
      simp only [writeMembers, readMembers, cons_append, append_assoc, named, Option.bind_some,
        readScalar_write escapes member.2 (show isNumeral ',' = false by decide),
        all_cons (a := member)]
      cases member.2.sound faithful with
      | false => rfl
      | true =>
        simp only [if_true, Option.bind_some, later, Bool.true_and]
        split_ifs <;> rfl

/-- **An object that was written is read back exactly if its strings are.** -/
theorem readObject_write (filled : members ≠ [])
    (names : ∀ member ∈ members, ∀ rest, readText (member.1 ++ '"' :: rest) =
      some (member.1, rest)) :
    readObject (writeObject escape members) =
      if members.all (·.2.sound faithful) then some members else none :=
  readMembers_write escapes filled names (length_le_writeMembers escape members)

end Written

end MiniDrop.Base
