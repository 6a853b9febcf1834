namespace FeedWatch.Text

-- The characters with the Unicode property White_Space. There are 25 of them,
-- among them the no-break space, and the zero-width space is none.
def isBlank (c : Char) : Bool :=
  let n := c.toNat
  (9 ≤ n && n ≤ 13) || n == 0x20 || n == 0x85 || n == 0xA0 || n == 0x1680 ||
    (0x2000 ≤ n && n ≤ 0x200A) || n == 0x2028 || n == 0x2029 || n == 0x202F || n == 0x205F ||
    n == 0x3000

def trimStart (s : List Char) : List Char := s.dropWhile isBlank

def trimEnd (s : List Char) : List Char := (s.reverse.dropWhile isBlank).reverse

-- The text from its first to its last character that is no blank.
def trim (s : List Char) : List Char := trimEnd (trimStart s)

end FeedWatch.Text
