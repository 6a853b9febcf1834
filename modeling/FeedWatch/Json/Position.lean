import FeedWatch.Text.Decimal
import FeedWatch.Text.Segments

namespace FeedWatch.Json

structure Position where
  line : Nat
  column : Nat
  deriving DecidableEq, Repr

namespace Position

def lineMark : List Char := " at line ".toList

def columnMark : List Char := " column ".toList

def text (p : Position) : String := s!" at line {p.line} column {p.column}"

-- Digits alone, of a number with 64 bits.
def number? (s : List Char) : Option Nat :=
  if s.all Char.isDigit then (Text.readNumber UInt64.size s).toOption else none

def ofText? (s : List Char) : Option Position := do
  let (line, column) ← Text.cut? columnMark s
  return { line := ← number? line, column := ← number? column }

end Position

-- What stands before and after the last occurrence of the mark.
def cutLast? (mark s : List Char) : Option (List Char × List Char) :=
  (Text.cut? mark.reverse s.reverse).map fun (after, before) => (before.reverse, after.reverse)

-- A message as it is shown. A place that is written at its end counts as the place of the
-- error. It is written anew, and left out if there is no such line.
def shownMessage (message : String) : String :=
  match cutLast? Position.lineMark message.toList with
  | none => message
  | some (before, place) =>
    match Position.ofText? place with
    | none => message
    | some p => String.ofList before ++ if p.line = 0 then "" else p.text

end FeedWatch.Json
