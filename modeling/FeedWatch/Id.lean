import Std.Data.ExtTreeMap

namespace FeedWatch

-- Given by the feed, for example 1 for live odds and 3 for prematch.
@[ext] structure ProducerId where
  value : UInt32
  deriving DecidableEq, Repr, Inhabited

-- Goes out with a recovery request and comes back with every message of the replay.
@[ext] structure RequestId where
  value : UInt32
  deriving DecidableEq, Repr, Inhabited

namespace ProducerId

def text (id : ProducerId) : String := toString id.value.toNat

instance : Ord ProducerId := ⟨fun a b => compare a.value b.value⟩

instance : Std.TransOrd ProducerId where
  eq_swap := Std.OrientedOrd.eq_swap (α := UInt32)
  isLE_trans := Std.TransOrd.isLE_trans (α := UInt32)

instance : Std.LawfulEqOrd ProducerId where
  compare_self := Std.ReflOrd.compare_self (α := UInt32)
  eq_of_compare h := ProducerId.ext (Std.LawfulEqOrd.eq_of_compare (α := UInt32) h)

end ProducerId

namespace RequestId

def zero : RequestId := ⟨0⟩

def isZero (id : RequestId) : Bool := id.value == 0

def text (id : RequestId) : String := toString id.value.toNat

instance : Ord RequestId := ⟨fun a b => compare a.value b.value⟩

instance : Std.TransOrd RequestId where
  eq_swap := Std.OrientedOrd.eq_swap (α := UInt32)
  isLE_trans := Std.TransOrd.isLE_trans (α := UInt32)

instance : Std.LawfulEqOrd RequestId where
  compare_self := Std.ReflOrd.compare_self (α := UInt32)
  eq_of_compare h := RequestId.ext (Std.LawfulEqOrd.eq_of_compare (α := UInt32) h)

end RequestId

-- Unix milliseconds.
abbrev Instant := Int64

-- Milliseconds from an earlier instant to this one. A difference that does not fit 64
-- bits wraps around.
def Instant.since (now earlier : Instant) : Int := (now - earlier).toInt

namespace Instant

-- The difference is as the clock would have it.
def IsExact (now earlier : Instant) : Prop := now.since earlier = now.toInt - earlier.toInt

instance (now earlier : Instant) : Decidable (now.IsExact earlier) :=
  inferInstanceAs (Decidable (_ = _))

theorem isExact_iff {now earlier : Instant} : now.IsExact earlier ↔
    -0x8000000000000000 ≤ now.toInt - earlier.toInt ∧
      now.toInt - earlier.toInt < 0x8000000000000000 := by
  rw [IsExact, since, Int64.toInt_sub]
  constructor
  · intro h
    rw [← h, ← Int64.toInt_sub]
    exact ⟨Int64.le_toInt _, Int64.toInt_lt _⟩
  · exact fun h => Int.bmod_eq_of_le (by omega) (by omega)

-- An instant that is too far back comes out as one that is still to come.
example : since 600000 Int64.minValue < 0 := by decide

@[simp] theorem since_self (now : Instant) : now.since now = 0 := by simp [since]

@[simp] theorem since_zero (now : Instant) : now.since 0 = now.toInt := by simp [since]

end Instant

end FeedWatch
