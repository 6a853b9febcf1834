namespace FeedWatch.Text

-- The pieces between the separators: one more than there are separators, so the
-- empty text has one empty piece.
def segments (separator : Char) : List Char → List (List Char)
  | [] => [[]]
  | c :: rest =>
    if c = separator then [] :: segments separator rest
    else
      match segments separator rest with
      | [] => [[c]]
      | first :: others => (c :: first) :: others

-- What stands before and after the first occurrence of the mark, `none` if it
-- does not occur. The first occurrence is the one that starts first.
def cut? (mark : List Char) : List Char → Option (List Char × List Char)
  | [] => if mark.isEmpty then some ([], []) else none
  | c :: rest =>
    if mark.isPrefixOf (c :: rest) then some ([], (c :: rest).drop mark.length)
    else (cut? mark rest).map fun (before, after) => (c :: before, after)

end FeedWatch.Text
