import FeedWatch.Api.Host.Mark

namespace FeedWatch.Api.Host

open Text

inductive Direction where
  | leftToRight
  | rightToLeft
  | arabicNumber
  | europeanNumber
  -- signs that are written in the direction around them
  | neutral
  -- written upon the character before
  | attached
  deriving DecidableEq, Repr

def rightToLeftLetters : CharSet := .ofText
  "5BE-5F4 608 60B 60D 61B-64A 66D-6D5 6E5-6E6 6EE-6EF 6FA-7F5 7FA-8C9 2135-2138 FB1D-FBC2
   FBD3-FD3D FD50-FD8F FD92-FDC7 FDF0-FDFC FE71-FEFC 10800-1091B 10920-10B35 10B40-10D23
   10D40-10D65 10D6F-10D8F 10E80-10ED0 10F00-10FF6 1E800-1EEBB"

def arabicNumbers : CharSet := .ofText
  "660-669 66B-66C 10D30-10D39 10E60-10E7E"

def europeanNumbers : CharSet := .ofText
  "6F0-6F9 102E1-102FB"

def neutralSigns : CharSet := .ofText
  "A1-B1 B6-BF D7 F7 2B9-2BA 2C2-2CF 2D2-2DF 2E5-2ED 2EF-2FF 374-375 387 3F6 58A-58F 606-607
   609-60A 60C 60E-60F 66A 6DE 6E9 7F6-7F9 9F2-9F3 9FB AF1 BF3-BFA C78-C7E E3F F3A-F3D 1390-1399
   1400 169B-169C 17DB 17F0-180A 1940-1945 19DE-19FF 200C-208B 20A0-2104 2108 2114-2125
   2127-2129 212E 213A 2140-214D 218A-2335 237B-2394 2396-26AB 26AD-27FF 2900-2BFF 2CE5-2CEA
   2CF9-2CFF 2E00-2E9E 2EA0-2EF2 3001-3004 3008-3020 3030 3036-3037 303D-303F 30A0 30FB
   31C0-31E5 4DC0-4DFF A490-A4C6 A60D-A60F A673-A67F A700-A721 A788 A828-A82B A838-A839
   A874-A877 AB6A-AB6B FBC3-FBD2 FD3E-FD4F FD90-FD91 FDC8-FDCF FDFD-FE5E FF5F-FF65 FFE0-FFEE
   10101 10140-1018C 10190-101A0 1091F 10B39-10B3F 10D6E 10ED1-10ED8 11052-11065 11660-1166C
   11FD5-11FF1 16FE2 1CC00-1CEF0 1D1E9-1D245 1D300-1D356 1D6C1 1D6DB 1D6FB 1D715 1D735 1D74F
   1D76F 1D789 1D7A9 1D7C3 1E2FF 1EEF0-1F12F 1F16D-1F16F 1F1AD 1F240-1F248 1F260-1FBFA"

def asciiDirection (c : Char) : Direction :=
  if c.isAlpha then .leftToRight else if c.isDigit then .europeanNumber else .neutral

-- The sets of directions run across the marks.
def direction (c : Char) : Direction :=
  if c.toNat < 0x80 then asciiDirection c
  else if nonspacingMarks.contains c then .attached
  else if rightToLeftLetters.contains c then .rightToLeft
  else if arabicNumbers.contains c then .arabicNumber
  else if europeanNumbers.contains c then .europeanNumber
  else if neutralSigns.contains c then .neutral
  else .leftToRight

-- Directions that call for the rule below.
def Direction.turns (d : Direction) : Bool := d = rightToLeft || d = arabicNumber

-- Which directions a label of the given first one may hold.
def Direction.admits (first d : Direction) : Bool :=
  match d with
  | leftToRight => first = leftToRight
  | rightToLeft | arabicNumber => first = rightToLeft
  | europeanNumber | neutral | attached => first = leftToRight || first = rightToLeft

-- A label starts with a letter and keeps the letter's direction. It ends in a letter or
-- in a number, marks left aside, and it does not mix both kinds of numbers.
def isOrdered (label : List Direction) : Bool :=
  match label with
  | [] => true
  | first :: _ =>
    let last := (label.reverse.dropWhile (· = .attached)).head?
    (first = .leftToRight || first = .rightToLeft) && label.all first.admits &&
      last != some .neutral &&
      !(first = .rightToLeft && label.contains .arabicNumber && label.contains .europeanNumber)

-- The rule holds for all labels as soon as one of them needs it.
def areOrdered (labels : List (List Char)) : Bool :=
  let directions := labels.map (·.map direction)
  !directions.any (·.any Direction.turns) || directions.all isOrdered

end FeedWatch.Api.Host
