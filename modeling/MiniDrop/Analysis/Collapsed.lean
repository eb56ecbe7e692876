import Mathlib.Algebra.Ring.Int.Defs
import MiniDrop.Server.Text
/-!
# Folded stacks

The analyser reads folded stacks, one a line: the frames between semicolons, a space and a count.
One pass counts for the last frame of each line, another one for each frame of it. A dictionary of
counts is the list of what was added to it.
-/
namespace MiniDrop.Analysis

/-- The code points that `str.strip` takes away. -/
def isSpace (c : Char) : Bool := MiniDrop.isSpace c || (0x1c ≤ c.toNat && c.toNat ≤ 0x1f)

def strip (text : List Char) : List Char :=
  ((text.dropWhile isSpace).reverse.dropWhile isSpace).reverse

/-- `line.rsplit(" ", 1)`, if there is a space. -/
def rsplit (line : List Char) : Option (List Char × List Char) :=
  match line.reverse.dropWhile (· ≠ ' ') with
  | [] => none
  | _ :: front => some (front.reverse, (line.reverse.takeWhile (· ≠ ' ')).reverse)

/-- A line with a positive count. -/
structure StackLine where
  functions : List (List Char)
  count : Int

section

-- The numbers that `int` reads; `none` is a `ValueError`.
variable (int : List Char → Option Int)

/-- A line, unless it is passed over. -/
def stackLine (line : List Char) : Option StackLine :=
  if strip line = [] then none
  else
    (rsplit (strip line)).bind fun parts =>
      (int parts.2).bind fun count => if count ≤ 0 then none else some ⟨parts.1.splitOn ';', count⟩

/-- The lines that both passes count. -/
def stackLines (text : List Char) : List StackLine :=
  ((strip text).splitOn '\n').filterMap (stackLine int)

/-- What `parse_collapsed` adds for a line. -/
def selfTime (line : StackLine) : List (List Char × Int) :=
  match line.functions.getLast? with
  | none => []
  | some top => if strip top = [] then [] else [(strip top, line.count)]

def parseCollapsed (text : List Char) : List (List Char × Int) :=
  (stackLines int text).flatMap selfTime

/-- What `compute_inclusive_time` adds for the frames of a line, with the names it has seen. -/
def inclusiveTime (count : Int) : List (List Char) → List (List Char) → List (List Char × Int)
  | [], _ => []
  | func :: functions, seen =>
    if strip func ≠ [] ∧ strip func ∉ seen then
      (strip func, count) :: inclusiveTime count functions (strip func :: seen)
    else inclusiveTime count functions seen

def computeInclusiveTime (text : List Char) : List (List Char × Int) :=
  (stackLines int text).flatMap fun line => inclusiveTime line.count line.functions []

/-- `total_samples` of `analyze_collapsed`. -/
def totalSamples (text : List Char) : Int := ((parseCollapsed int text).map Prod.snd).sum

end

/-- The count of a name. -/
def countOf (name : List Char) (counts : List (List Char × Int)) : Int :=
  ((counts.filter (·.1 = name)).map Prod.snd).sum

end MiniDrop.Analysis
