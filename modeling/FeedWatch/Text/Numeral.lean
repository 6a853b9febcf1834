namespace FeedWatch.Text

def hexDigit? (c : Char) : Option Nat :=
  if '0' ≤ c ∧ c ≤ '9' then some (c.toNat - '0'.toNat)
  else if 'a' ≤ c ∧ c ≤ 'f' then some (c.toNat - 'a'.toNat + 10)
  else if 'A' ≤ c ∧ c ≤ 'F' then some (c.toNat - 'A'.toNat + 10)
  else none

-- The number with these digits. No digits at all are the number 0.
def numeral? (base : Nat) (s : List Char) : Option Nat := do
  let digits ← s.mapM hexDigit?
  if digits.all (· < base) then some (digits.foldl (fun value digit => base * value + digit) 0)
  else none

end FeedWatch.Text
