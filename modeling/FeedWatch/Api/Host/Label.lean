import FeedWatch.Api.Host.Joining
import FeedWatch.Api.Host.Meaning
import FeedWatch.Text.Punycode

namespace FeedWatch.Api.Host

open Text

-- ASCII characters that no host name has.
def isDenied (c : Char) : Bool :=
  c.toNat ≤ 0x20 || c.toNat = 0x7F ||
    ['%', '#', '/', ':', '<', '>', '?', '@', '[', '\\', ']', '^', '|'].contains c

-- A character that stands for itself, so it may stand in a decoded label.
def isPlain (c : Char) : Bool := meaning c = .itself && !isDenied c && c ≠ '.'

-- A label in other characters than ASCII may be written in an encoded form. It must be
-- encoded in the form that it has once it is read.
def decodeLabel? (label : List Char) : Option (List Char) :=
  match label with
  | 'x' :: 'n' :: '-' :: '-' :: code =>
    if code.length ≤ 2000 && !code.isEmpty && code.getLast? != some '-' then
      (Punycode.decode? code).filter fun decoded => decoded.all isPlain && isComposed decoded
    else none
  | _ => some label

-- A label starts with no mark. It has no more than 1000 characters, unless all are ASCII.
def isLabel (label : List Char) : Bool :=
  !label.head?.any isMark && areJoinersAllowed [] label &&
    (label.length ≤ 1000 || label.all (·.toNat < 0x80))

end FeedWatch.Api.Host
