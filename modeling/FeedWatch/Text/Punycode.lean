namespace FeedWatch.Text.Punycode

-- The letters are the digits from 0 to 25, in both cases, then come the ten digits.
def digit? (c : Char) : Option Nat :=
  if c.isAlpha then some (c.toLower.toNat - 'a'.toNat)
  else if c.isDigit then some (c.toNat - '0'.toNat + 26)
  else none

-- A digit below its threshold is the last one of a number.
def threshold (place bias : Nat) : Nat :=
  if place ≤ bias then 1 else if bias + 26 ≤ place then 26 else place - bias

def scaleDown (delta places : Nat) : Nat × Nat :=
  if 455 < delta then scaleDown (delta / 35) (places + 36) else (delta, places)
termination_by delta
decreasing_by omega

-- The bias after the number `delta`, when the text has `size` characters.
def adapt (delta size : Nat) (isFirst : Bool) : Nat :=
  let damped := if isFirst then delta / 700 else delta / 2
  let (delta, places) := scaleDown (damped + damped / size) 0
  places + 36 * delta / (delta + 38)

-- The text so far, and where the next character goes. Characters are inserted in
-- ascending order, those that are equal from left to right.
structure Insertion where
  text : List Char
  last : Nat := 128
  position : Nat := 0
  bias : Nat := 72

-- Inserts a character. The number steps through the places of the text, and at the end
-- of the text on to the next character.
def Insertion.insert? (s : Insertion) (number : Nat) : Option Insertion :=
  let size := s.text.length + 1
  let reached := s.position + number
  let code := s.last + reached / size
  if code.isValidChar then
    some { text := s.text.insertIdx (reached % size) (Char.ofNat code), last := code,
           position := reached % size + 1, bias := adapt number size (s.position = 0) }
  else none

-- Where in a number the reading stands: the value so far, the weight of the next digit,
-- and its place, which goes up in steps of 36.
structure Reading where
  value : Nat := 0
  weight : Nat := 1
  place : Nat := 36

-- Weights and positions have 32 bits.
def limit : Nat := 0x100000000

-- Reads the numbers of the insertions. The text must not end within a number.
def insertAll? (s : Insertion) (r : Reading) : List Char → Option (List Char)
  | [] => if r.place = 36 then some s.text else none
  | c :: rest =>
    match digit? c with
    | none => none
    | some digit =>
      let value := r.value + digit * r.weight
      let t := threshold r.place s.bias
      if limit ≤ s.position + value then none
      else if digit < t then
        match s.insert? value with
        | some s => insertAll? s {} rest
        | none => none
      else if limit ≤ r.weight * (36 - t) then none
      else insertAll? s ⟨value, r.weight * (36 - t), r.place + 36⟩ rest

-- What stands before the last hyphen is the ASCII part of the text. Without any such
-- part there is no hyphen either.
def decode? (s : List Char) : Option (List Char) :=
  let numbers := (s.reverse.takeWhile (· ≠ '-')).reverse
  if numbers.length = s.length then insertAll? { text := [] } {} numbers
  else
    let ascii := s.take (s.length - numbers.length - 1)
    if ascii.isEmpty || ascii.any (0x80 ≤ ·.toNat) then none
    else insertAll? { text := ascii } {} numbers

end FeedWatch.Text.Punycode
