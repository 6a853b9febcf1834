namespace FeedWatch

-- A number counts as an integer by its spelling: without a fraction and without an
-- exponent. Any other number is kept as its text.
inductive Json where
  | null
  | bool (b : Bool)
  | int (i : Int)
  | decimal (text : String)
  | str (s : String)
  | arr (items : List Json)
  | obj (fields : List (String × Json))
  deriving Repr, Inhabited

namespace Json

def bool? : Json → Option Bool
  | .bool b => some b
  | _ => none

def str? : Json → Option String
  | .str s => some s
  | _ => none

def arr? : Json → Option (List Json)
  | .arr items => some items
  | _ => none

-- An integer from `low` up to `high`, `high` left out.
def intIn? (low high : Int) : Json → Option Int
  | .int i => if low ≤ i ∧ i < high then some i else none
  | _ => none

def uint16? (j : Json) : Option UInt16 :=
  (j.intIn? 0 0x10000).map fun i => UInt16.ofNat i.toNat

def uint32? (j : Json) : Option UInt32 :=
  (j.intIn? 0 0x100000000).map fun i => UInt32.ofNat i.toNat

def uint64? (j : Json) : Option UInt64 :=
  (j.intIn? 0 0x10000000000000000).map fun i => UInt64.ofNat i.toNat

def int32? (j : Json) : Option Int32 :=
  (j.intIn? (-0x80000000) 0x80000000).map Int32.ofInt

def int64? (j : Json) : Option Int64 :=
  (j.intIn? (-0x8000000000000000) 0x8000000000000000).map Int64.ofInt

-- `null` stands for a missing value.
def nullable? (read : Json → Option α) : Json → Option (Option α)
  | .null => some none
  | j => (read j).map some

def list? (read : Json → Option α) (j : Json) : Option (List α) := do
  (← j.arr?).mapM read

-- A word may also be written as the only field of an object. Its value is null then,
-- and within a record that is tagged with its kind it may be an empty object too.
inductive WordForm where
  | plain
  | tagged
  deriving DecidableEq, Repr

def WordForm.isNothing : WordForm → Json → Bool
  | _, .null => true
  | tagged, .obj [] => true
  | _, _ => false

def word? (form : WordForm) : Json → Option String
  | .str s => some s
  | .obj [(s, value)] => if form.isNothing value then some s else none
  | _ => none

-- One of several words.
def oneOf? (values : List α) (word : α → String) (form : WordForm) (j : Json) : Option α := do
  let w ← j.word? form
  values.find? fun a => word a == w

def ofNullable (write : α → Json) : Option α → Json
  | none => .null
  | some a => write a

end Json

end FeedWatch
