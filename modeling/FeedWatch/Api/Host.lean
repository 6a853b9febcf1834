import FeedWatch.Api.Host.Address
import FeedWatch.Api.Host.Direction
import FeedWatch.Api.Host.Label

namespace FeedWatch.Api.Host

open Text

-- The bytes of a text in which `%` and two hexadecimal digits stand for one byte.
def bytes : List Char → List UInt8
  | [] => []
  | '%' :: high :: low :: rest =>
    match hexDigit? high, hexDigit? low with
    | some h, some l => UInt8.ofNat (16 * h + l) :: bytes rest
    | _, _ => 0x25 :: bytes (high :: low :: rest)
  | c :: rest => String.utf8EncodeChar c ++ bytes rest

def text? (s : List Char) : Option (List Char) :=
  (String.fromUTF8? ⟨(bytes s).toArray⟩).map String.toList

-- The signs `<` and `>` are denied, but not when they are struck through.
def strike : List Char → List Char
  | '<' :: '\u0338' :: rest => '\u226e' :: strike rest
  | '>' :: '\u0338' :: rest => '\u226f' :: strike rest
  | c :: rest => c :: strike rest
  | [] => []

-- What a name reads like: its characters are replaced by what they stand for.
def read? (name : List Char) : Option (List Char) := do
  let parts ← name.mapM fun c => (meaning c).read? c
  return strike (sortMarks parts.flatten)

def isName (name : List Char) : Bool :=
  match read? name with
  | none => false
  | some s =>
    let labels := segments '.' s
    !s.isEmpty && !s.any isDenied &&
      (match labels.mapM decodeLabel? with
        | some decoded => decoded.all isLabel && areOrdered decoded
        | none => false) &&
      (!endsInNumber labels || isShortAddress labels)

-- A name, an address of four bytes, or one of eight groups in brackets.
def isValid (host : List Char) : Bool :=
  match host with
  | '[' :: rest => rest.getLast? = some ']' && isLongAddress rest.dropLast
  | _ => (text? host).any isName

end FeedWatch.Api.Host
