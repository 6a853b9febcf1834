import FeedWatch.RequestIds
import Mathlib.Data.List.Nodup
import Mathlib.Data.Nat.ModEq
import Mathlib.Data.Nat.Prime.Basic

namespace FeedWatch
namespace RequestIds

-- The sequence once so many ids were drawn.
def skip (ids : RequestIds) (n : Nat) : RequestIds :=
  { ids with last := ids.last + UInt32.ofNat n * ids.step }

variable {ids : RequestIds}

@[simp] theorem skip_zero (ids : RequestIds) : ids.skip 0 = ids := by simp [skip]

@[simp] theorem step_skip (n : Nat) : (ids.skip n).step = ids.step := rfl

theorem next_skip (n : Nat) : (ids.skip n).next.2 = ids.skip (n + 1) := by
  simp only [next, skip, RequestIds.mk.injEq, and_true]
  rw [UInt32.ofNat_add, UInt32.add_mul, UInt32.add_assoc]
  simp

theorem skip_next (n : Nat) : ids.next.2.skip n = ids.skip (n + 1) := by
  simp only [next, skip, RequestIds.mk.injEq, and_true]
  rw [UInt32.ofNat_add, UInt32.add_mul, UInt32.add_assoc, UInt32.add_comm ids.step]
  simp

theorem draw_eq_map (n : Nat) :
    ids.draw n = (List.range n).map fun k => (ids.skip k).next.1 := by
  induction n generalizing ids with
  | zero => rfl
  | succ n ih =>
    rw [draw, ih, List.range_succ_eq_map, List.map_cons, List.map_map, skip_zero]
    simp only [skip_next, Function.comp_def]

theorem draw_succ (n : Nat) : ids.draw (n + 1) = ids.draw n ++ [(ids.skip n).next.1] := by
  rw [draw_eq_map, draw_eq_map, List.range_succ, List.map_append]
  rfl

-- Two ids of the sequence are the same if their places are as many steps apart, modulo
-- 2 ^ 32.
theorem next_skip_eq_iff {i j : Nat} :
    (ids.skip i).next.1 = (ids.skip j).next.1 ↔
      i * ids.step.toNat ≡ j * ids.step.toNat [MOD 2 ^ 32] := by
  have hmul (k : Nat) : (UInt32.ofNat k * ids.step).toNat = k * ids.step.toNat % 2 ^ 32 := by
    rw [UInt32.toNat_mul, UInt32.toNat_ofNat', Nat.mod_mul_mod]
  simp only [next, skip, RequestId.mk.injEq, UInt32.add_left_inj, UInt32.add_right_inj]
  rw [← UInt32.toNat_inj, hmul, hmul, Nat.ModEq]

-- With an odd step the sequence comes round after 2 ^ 32 ids, and no sooner.
theorem nodup_draw (hodd : ids.step.toNat % 2 = 1) {n : Nat} (hn : n ≤ 2 ^ 32) :
    (ids.draw n).Nodup := by
  have hcoprime : Nat.gcd (2 ^ 32) ids.step.toNat = 1 :=
    Nat.Coprime.pow_left 32 (Nat.coprime_two_left.mpr (Nat.odd_iff.mpr hodd))
  rw [draw_eq_map]
  refine List.Nodup.map_on ?_ List.nodup_range
  intro i hi j hj heq
  have hi' := List.mem_range.mp hi
  have hj' := List.mem_range.mp hj
  have hmod := Nat.ModEq.cancel_right_of_coprime hcoprime (next_skip_eq_iff.mp heq)
  exact Nat.ModEq.eq_of_lt_of_lt hmod (by omega) (by omega)

-- A sequence with an odd step moves on.
theorem next_ne (hodd : ids.step.toNat % 2 = 1) : ids.next.2 ≠ ids := by
  intro h
  have hlast : ids.last + ids.step = ids.last := congrArg RequestIds.last h
  have hzero : ids.step = 0 := by simpa using hlast
  rw [hzero] at hodd
  exact absurd hodd (by decide)

end RequestIds
end FeedWatch
