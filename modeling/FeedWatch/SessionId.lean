import FeedWatch.Text.Numeral
import FeedWatch.Text.Segments

namespace FeedWatch

structure SessionId where
  bits : BitVec 128
  deriving DecidableEq, Repr

namespace SessionId

-- Version 7: ids sort by the time at which they were made. The rest is random,
-- apart from the version and the two bits of the variant.
def ofTime (unixMillis : BitVec 48) (randomA : BitVec 12) (randomB : BitVec 62) : SessionId :=
  ⟨unixMillis ++ (7 : BitVec 4) ++ randomA ++ (2 : BitVec 2) ++ randomB⟩

-- The 13th digit.
def version (id : SessionId) : Nat := (id.bits.extractLsb' 76 4).toNat

-- The lengths of the groups of digits.
def groups : List Nat := [8, 4, 4, 4, 12]

-- The name space of ids like these, as it may stand before an id.
def nameSpace : List Char := "urn:uuid:".toList

-- What stands in braces or after the name space, `none` where neither is there.
def unwrap? (s : List Char) : Option (List Char) :=
  if (s.take nameSpace.length).map Char.toLower = nameSpace then some (s.drop nameSpace.length)
  else if s.head? = some '\x7b' && s.getLast? = some '\x7d' then some (s.drop 1).dropLast
  else none

-- All digits in one group, or in five of the right lengths with hyphens between them.
-- Only the five groups may be wrapped.
def parse? (s : String) : Option SessionId := do
  let wrapped := unwrap? s.toList
  let found := Text.segments '-' (wrapped.getD s.toList)
  let lengths := found.map List.length
  if lengths = groups ∨ (lengths = [32] ∧ wrapped.isNone) then
    let value ← Text.numeral? 16 found.flatten
    some ⟨BitVec.ofNat 128 value⟩
  else none

def digits (id : SessionId) : List Char :=
  (List.range 32).map fun place => Nat.digitChar ((id.bits.toNat >>> (4 * (31 - place))) % 16)

def text (id : SessionId) : String :=
  let d := id.digits
  String.ofList (d.take 8 ++ '-' :: (d.drop 8).take 4 ++ '-' :: (d.drop 12).take 4 ++
    '-' :: (d.drop 16).take 4 ++ '-' :: d.drop 20)

end SessionId

end FeedWatch
