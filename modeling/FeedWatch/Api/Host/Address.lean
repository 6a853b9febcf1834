import FeedWatch.Text.Numeral
import FeedWatch.Text.Segments

namespace FeedWatch.Api.Host

open Text

-- A number in base 16, 8 or 10.
def addressNumber? : List Char → Option Nat
  | [] => none
  | '0' :: 'x' :: digits => numeral? 16 digits
  | '0' :: c :: digits => numeral? 8 (c :: digits)
  | digits => numeral? 10 digits

-- A name that ends in a number, the dot at its end left aside, is no name but an
-- address.
def endsInNumber (labels : List (List Char)) : Bool :=
  let last := if labels.getLast? = some [] then labels.dropLast.getLast? else labels.getLast?
  match last with
  | some label => (!label.isEmpty && label.all Char.isDigit) || (addressNumber? label).isSome
  | none => false

-- Up to four numbers. The last one fills the bytes that are left.
def isShortAddress (labels : List (List Char)) : Bool :=
  let parts := if labels.getLast? = some [] then labels.dropLast else labels
  match parts.mapM addressNumber? with
  | none => false
  | some numbers =>
    numbers.length ≤ 4 && numbers.dropLast.all (· < 256) &&
      numbers.getLast?.any (· < Nat.pow 256 (5 - numbers.length))

def isGroup (s : List Char) : Bool :=
  !s.isEmpty && s.length ≤ 4 && s.all fun c => (hexDigit? c).isSome

def isByte (s : List Char) : Bool :=
  s.all Char.isDigit && (s.length = 1 || s.head? != some '0') && (numeral? 10 s).any (· < 256) &&
    !s.isEmpty

def isDotted (s : List Char) : Bool :=
  let parts := segments '.' s
  parts.length = 4 && parts.all isByte

-- How many groups there are. Four bytes with dots may stand for the last two.
def groupCount? : List (List Char) → Option Nat
  | [] => some 0
  | [last] => if isGroup last then some 1 else if isDotted last then some 2 else none
  | group :: rest => if isGroup group then (groupCount? rest).map (· + 1) else none

def groups (s : List Char) : List (List Char) := if s.isEmpty then [] else segments ':' s

-- Two colons stand for one group or more, and they can be there only once.
def isLongAddress (s : List Char) : Bool :=
  match cut? [':', ':'] s with
  | none => groupCount? (groups s) = some 8
  | some (before, after) =>
    (groups before).all isGroup &&
      (groupCount? (groups after)).any (· + (groups before).length ≤ 7)

end FeedWatch.Api.Host
