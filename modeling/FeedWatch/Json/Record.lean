import FeedWatch.Json

namespace FeedWatch.Json

-- The values of a record that is being read. In an object they have names, and
-- names that are not asked for are ignored. In an array they come in the order of
-- the record's declaration.
inductive Fields where
  | named (fields : List (String × Json))
  | listed (values : List Json)

def fields? : Json → Option Fields
  | .obj fields => some (.named fields)
  | .arr values => some (.listed values)
  | _ => none

namespace Fields

-- The value of the next field, if it is there, and what is left to be read.
def next (name : String) : Fields → Option Json × Fields
  | named fields => (fields.lookup name, named fields)
  | listed [] => (none, listed [])
  | listed (value :: rest) => (some value, listed rest)

-- An array must not hold more values than the record has fields.
def isRead : Fields → Bool
  | named _ => true
  | listed rest => rest.isEmpty

end Fields

-- Reads a record field by field.
abbrev Reading := StateT Fields Option

namespace Reading

def required (name : String) (read : Json → Option α) : Reading α := fun fields =>
  match fields.next name with
  | (some value, rest) => (read value).map (·, rest)
  | (none, _) => none

-- A field that may be null, and that an object may leave out.
def optional (name : String) (read : Json → Option α) : Reading (Option α) := fun fields =>
  match fields.next name, fields with
  | (some value, rest), _ => (nullable? read value).map (·, rest)
  | (none, rest), .named _ => some (none, rest)
  | (none, _), .listed _ => none

-- A field that may be left out, also at the end of an array.
def withDefault (name : String) (default : α) (read : Json → Option α) : Reading α := fun fields =>
  match fields.next name with
  | (some value, rest) => (read value).map (·, rest)
  | (none, rest) => some (default, rest)

end Reading

def record? (reading : Reading α) (j : Json) : Option α := do
  let (value, rest) ← reading (← j.fields?)
  if rest.isRead then some value else none

end FeedWatch.Json
