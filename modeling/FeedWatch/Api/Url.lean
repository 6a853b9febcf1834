import FeedWatch.Api.Host
import FeedWatch.Api.Post

namespace FeedWatch.Api.Url

-- Percent encoding of one character: each byte of its UTF-8 form as two hexadecimal
-- digits.
def percentEncode (c : Char) : List Char :=
  (String.utf8EncodeChar c).flatMap fun byte =>
    ['%', (Nat.digitChar (byte.toNat / 16)).toUpper, (Nat.digitChar (byte.toNat % 16)).toUpper]

def isControlOrNonAscii (c : Char) : Bool := c.toNat < 0x20 || c.toNat > 0x7E

-- The characters that are encoded in a path, and those in a query.
def isEncodedInPath (c : Char) : Bool :=
  isControlOrNonAscii c || [' ', '"', '#', '<', '>', '?', '\x60', '\x7b', '\x7d'].contains c

def isEncodedInQuery (c : Char) : Bool :=
  isControlOrNonAscii c || [' ', '"', '#', '<', '>', '\''].contains c

def encode (isEncoded : Char → Bool) (s : List Char) : List Char :=
  s.flatMap fun c => if isEncoded c then percentEncode c else [c]

def isSlash (c : Char) : Bool := c = '/' || c = '\\'

-- A dot of a path may be written as %2e.
def plainDots : List Char → List Char
  | '%' :: '2' :: 'e' :: rest => '.' :: plainDots rest
  | '%' :: '2' :: 'E' :: rest => '.' :: plainDots rest
  | c :: rest => c :: plainDots rest
  | [] => []

-- A letter with a colon or a bar, which names a drive.
def isDrive : List Char → Bool
  | [letter, mark] => letter.isAlpha && (mark = ':' || mark = '|')
  | _ => false

-- The segments without the last one, given in reverse. A drive is never left.
def leave : List (List Char) → List (List Char)
  | [] => []
  | last :: above => if isDrive last then last :: above else above

-- The segments of a path, without the dots that stand for this one and the one above.
-- `above` holds the segments so far, the last one first.
def resolveDots (above : List (List Char)) : List (List Char) → List (List Char)
  | [] => above.reverse
  | segment :: rest =>
    let last := if rest.isEmpty then [[]] else []
    if plainDots segment = ['.', '.'] then resolveDots (last ++ leave above) rest
    else if plainDots segment = ['.'] then resolveDots (last ++ above) rest
    else resolveDots (encode isEncodedInPath segment :: above) rest

def path (s : List Char) : List Char :=
  let slashed := s.map fun c => if isSlash c then '/' else c
  (resolveDots [] ((Text.segments '/' slashed).drop 1)).flatMap ('/' :: ·)

def isPort (s : List Char) : Bool :=
  s.all Char.isDigit && s.foldl (fun n c => 10 * n + (c.toNat - '0'.toNat)) 0 < 65536

-- A host, then a port if any. Within brackets a colon belongs to the host.
def isHostAndPort (s : List Char) : Bool :=
  let (inside, rest) := if s.head? = some '[' then s.span (· ≠ ']') else ([], s)
  let (host, port) := rest.span (· ≠ ':')
  Host.isValid (inside ++ host) && isPort port.tail

-- The path and the query of an absolute http or https address with a host, `none` for
-- any other text. What follows a number sign is not sent.
def target? (url : String) : Option String := do
  let s := url.toList.filter fun c => c ≠ '\t' && c ≠ '\n' && c ≠ '\r'
  let s := s.dropWhile (·.toNat ≤ 0x20)
  let (scheme, rest) ← Text.cut? [':'] s
  let scheme := scheme.map Char.toLower
  guard (scheme = "http".toList ∨ scheme = "https".toList)
  let rest := (rest.dropWhile isSlash).takeWhile (· ≠ '#')
  let isEnd (c : Char) : Bool := isSlash c || c = '?'
  let authority := rest.takeWhile (!isEnd ·)
  let host := (authority.reverse.takeWhile (· ≠ '@')).reverse
  guard (isHostAndPort host)
  let after := rest.dropWhile (!isEnd ·)
  let pathPart := after.takeWhile (· ≠ '?')
  let path := if pathPart.isEmpty then ['/'] else path pathPart
  return String.ofList (path ++ encode isEncodedInQuery (after.dropWhile (· ≠ '?')))

-- A header holds no control characters, a tab apart.
def isHeaderValue (s : String) : Bool :=
  s.toList.all fun c => (c.toNat ≥ 0x20 || c = '\t') && c.toNat ≠ 0x7F

end FeedWatch.Api.Url

namespace FeedWatch.Api

-- What a request asks the server for, `none` if it cannot be sent.
def Request.target? (r : Request) : Option String := do
  guard (Url.isHeaderValue r.accept && Url.isHeaderValue r.accessToken)
  Url.target? r.url

-- A request that cannot be sent brings no response, and no reason why.
def Endpoint.exchange (e : Endpoint) (path : String) (answer : Nat → Answer) : Exchange :=
  if (e.request path).target?.isSome then e.post path answer
  else { e.post path (fun _ => .failure "") with moves := [] }

end FeedWatch.Api
