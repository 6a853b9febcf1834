import FeedWatch.Proofs.RequestIds
import Mathlib.Data.List.Induction
import Mathlib.Dynamics.PeriodicPts.Defs

namespace FeedWatch
namespace RequestIds

variable {ids : RequestIds} {i j k n : Nat}

-- After so many ids the sequence comes round.
def period (ids : RequestIds) : Nat := 2 ^ 32 / Nat.gcd ids.step.toNat (2 ^ 32)

theorem gcd_pos : 0 < Nat.gcd ids.step.toNat (2 ^ 32) := Nat.gcd_pos_of_pos_right _ (by decide)

-- What the step and 2 ^ 32 have in common is taken out of both, and what is left of the step
-- does not help to get to a multiple.
theorem period_dvd_iff : ids.period ∣ n ↔ 2 ^ 32 ∣ n * ids.step.toNat := by
  have hmodulus : Nat.gcd ids.step.toNat (2 ^ 32) * ids.period = 2 ^ 32 :=
    Nat.mul_div_cancel' (Nat.gcd_dvd_right _ _)
  have hstep : Nat.gcd ids.step.toNat (2 ^ 32) *
      (ids.step.toNat / Nat.gcd ids.step.toNat (2 ^ 32)) = ids.step.toNat :=
    Nat.mul_div_cancel' (Nat.gcd_dvd_left _ _)
  have hcoprime : Nat.Coprime ids.period
      (ids.step.toNat / Nat.gcd ids.step.toNat (2 ^ 32)) :=
    (Nat.coprime_div_gcd_div_gcd gcd_pos).symm
  rw [← hcoprime.dvd_mul_right, ← Nat.mul_dvd_mul_iff_left gcd_pos, hmodulus, Nat.mul_left_comm,
    hstep]

theorem period_of_odd (hodd : ids.step.toNat % 2 = 1) : ids.period = 2 ^ 32 := by
  have hcoprime : Nat.Coprime ids.step.toNat (2 ^ 32) :=
    (Nat.coprime_two_right.mpr (Nat.odd_iff.mpr hodd)).pow_right 32
  rw [period, hcoprime, Nat.div_one]

theorem toNat_next_skip (k : Nat) : (ids.skip k).next.1.value.toNat =
    (ids.last.toNat + (k + 1) * ids.step.toNat) % 2 ^ 32 := by
  simp only [next, skip, UInt32.toNat_add, UInt32.toNat_mul, UInt32.toNat_ofNat']
  rw [Nat.mod_add_mod, Nat.add_assoc, Nat.mod_mul_mod]
  simp [Nat.add_mod, Nat.succ_mul]

theorem next_skip_eq_iff_dvd (h : i ≤ j) :
    (ids.skip i).next.1 = (ids.skip j).next.1 ↔ 2 ^ 32 ∣ (j - i) * ids.step.toNat := by
  rw [next_skip_eq_iff, Nat.modEq_iff_dvd' (Nat.mul_le_mul_right _ h), Nat.sub_mul]

-- The last id tells the whole state of the sequence.
theorem skip_eq_iff : ids.skip i = ids.skip j ↔ (ids.skip i).next.1 = (ids.skip j).next.1 := by
  simp only [next, skip, RequestIds.mk.injEq, RequestId.mk.injEq, and_true, UInt32.add_left_inj]

theorem iterate_next (n : Nat) : (fun s : RequestIds => s.next.2)^[n] ids = ids.skip n := by
  induction n with
  | zero => exact (skip_zero ids).symm
  | succ n ih => rw [Function.iterate_succ_apply', ih, next_skip]

theorem minimalPeriod_next :
    Function.minimalPeriod (fun s : RequestIds => s.next.2) ids = ids.period := by
  have hperiodic (n : Nat) : Function.IsPeriodicPt (fun s : RequestIds => s.next.2) n ids ↔
      ids.period ∣ n := by
    rw [Function.IsPeriodicPt, Function.IsFixedPt, iterate_next, period_dvd_iff]
    conv_lhs => rhs; rw [← skip_zero ids]
    rw [eq_comm, skip_eq_iff, next_skip_eq_iff_dvd (Nat.zero_le n), Nat.sub_zero]
  refine Nat.dvd_antisymm ?_ ?_
  · exact Function.IsPeriodicPt.minimalPeriod_dvd ((hperiodic _).mpr (Nat.dvd_refl _))
  · exact (hperiodic _).mp (Function.isPeriodicPt_minimalPeriod _ ids)

theorem getElem?_draw : (ids.draw n)[k]? = if k < n then some (ids.skip k).next.1 else none := by
  rw [draw_eq_map, List.getElem?_map]
  split <;> rename_i hk
  · rw [List.getElem?_range hk]
    rfl
  · rw [List.getElem?_eq_none (by simpa using hk)]
    rfl

theorem of_getElem?_draw {id : RequestId} (h : (ids.draw n)[k]? = some id) :
    k < n ∧ id = (ids.skip k).next.1 := by
  rw [getElem?_draw] at h
  split at h <;> rename_i hk
  · exact ⟨hk, (Option.some.inj h).symm⟩
  · cases h

-- Ids that stand less than a period apart differ.
theorem eq_of_next_skip_eq (h : (ids.skip i).next.1 = (ids.skip j).next.1) (hij : i ≤ j)
    (hnear : j < i + ids.period) : i = j := by
  have hdvd : ids.period ∣ j - i := period_dvd_iff.mpr ((next_skip_eq_iff_dvd hij).mp h)
  have hzero : j - i = 0 := Nat.eq_zero_of_dvd_of_lt hdvd (by omega)
  omega

end RequestIds

-- A call that draws an id. It takes the last id and moves the sequence on at one blow; the step it
-- adds by itself, and any other calls may come in between.
structure DrawCall (κ : Type) where
  caller : κ
  taken : UInt32
  drawn : Option RequestId := none

-- The call stands at this place of the sequence: it returns the id that stands there.
structure DrawCall.StandsAt {κ : Type} (c : DrawCall κ) (ids : RequestIds) (place : Nat) :
    Prop where
  taken : c.taken = (ids.skip place).last
  drawn : ∀ id, c.drawn = some id → id = (ids.skip place).next.1

-- A sequence that callers share, with their calls in the order in which they moved it on.
structure SharedIds (κ : Type) where
  ids : RequestIds
  calls : List (DrawCall κ) := []

inductive DrawTurn (κ : Type) where
  | take (caller : κ)
  -- the call that was the so-many-th to take returns its id
  | finish (place : Nat)

namespace SharedIds

variable {κ : Type} {s : SharedIds κ} {ids : RequestIds}

def turn (s : SharedIds κ) : DrawTurn κ → SharedIds κ
  | .take caller => { ids := s.ids.next.2, calls := s.calls ++ [{ caller, taken := s.ids.last }] }
  | .finish place =>
    { s with
      calls := s.calls.modify place fun c => { c with drawn := some ⟨c.taken + s.ids.step⟩ } }

def play (s : SharedIds κ) (turns : List (DrawTurn κ)) : SharedIds κ := turns.foldl turn s

-- Each call stands at the place at which it took.
structure Follows (s : SharedIds κ) (ids : RequestIds) : Prop where
  moved : s.ids = ids.skip s.calls.length
  placed : ∀ (i : Nat) (c : DrawCall κ), s.calls[i]? = some c → c.StandsAt ids i

theorem Follows.turn (h : s.Follows ids) (t : DrawTurn κ) : (s.turn t).Follows ids := by
  obtain ⟨hmoved, hplaced⟩ := h
  cases t with
  | take caller =>
    constructor
    · simp only [SharedIds.turn, List.length_append, List.length_singleton]
      rw [hmoved, RequestIds.next_skip]
    · intro i c hc
      have hi : i < s.calls.length + 1 := by
        simpa [SharedIds.turn] using (List.getElem?_eq_some_iff.mp hc).1
      rcases Nat.lt_succ_iff_lt_or_eq.mp hi with hbefore | rfl
      · rw [SharedIds.turn, List.getElem?_append_left hbefore] at hc
        exact hplaced i c hc
      · rw [SharedIds.turn, List.getElem?_concat_length] at hc
        obtain rfl := Option.some.inj hc
        exact ⟨congrArg RequestIds.last hmoved, nofun⟩
  | finish place =>
    constructor
    · simpa only [SharedIds.turn, List.length_modify] using hmoved
    · intro i c hc
      rw [SharedIds.turn, List.getElem?_modify] at hc
      obtain ⟨c, hbefore, rfl⟩ := Option.map_eq_some_iff.mp hc
      obtain ⟨htaken, hdrawn⟩ := hplaced i c hbefore
      split
      · refine ⟨htaken, fun id hid => ?_⟩
        obtain rfl := Option.some.inj hid
        rw [htaken, hmoved]
        rfl
      · exact ⟨htaken, hdrawn⟩

theorem follows_play (ids : RequestIds) (turns : List (DrawTurn κ)) :
    (play { ids } turns).Follows ids := by
  induction turns using List.reverseRecOn with
  | nil => exact ⟨(RequestIds.skip_zero ids).symm, nofun⟩
  | append_singleton turns t ih =>
    rw [play, List.foldl_concat]
    exact ih.turn t

-- A call that returns now returns the id at its place.
theorem Follows.drawn_finish (h : s.Follows ids) {i : Nat} {c : DrawCall κ}
    (hc : s.calls[i]? = some c) :
    ∃ c', (s.turn (.finish i)).calls[i]? = some c' ∧ c'.drawn = some (ids.skip i).next.1 := by
  refine ⟨{ c with drawn := some ⟨c.taken + s.ids.step⟩ }, ?_, ?_⟩
  · rw [SharedIds.turn, List.getElem?_modify_eq, hc]
    rfl
  · rw [(h.placed i c hc).taken, h.moved]
    rfl

end SharedIds

-- A window of a list of which no two elements that stand near to each other are related otherwise.
theorem pairwise_window {α : Type} {R : α → α → Prop} {l : List α} {width : Nat}
    (h : ∀ i j a b, i < j → j < i + width → l[i]? = some a → l[j]? = some b → R a b) (m : Nat) :
    ((l.drop m).take width).Pairwise R := by
  rw [List.pairwise_iff_getElem]
  intro i j hi hj hij
  have hwidth : j < width := by
    simp only [List.length_take] at hj
    omega
  refine h (m + i) (m + j) _ _ (by omega) (by omega) ?_ ?_
  · rw [List.getElem_take, List.getElem_drop, List.getElem?_eq_getElem]
  · rw [List.getElem_take, List.getElem_drop, List.getElem?_eq_getElem]

-- Callers that share a sequence get its ids in the order in which they took, however long each of
-- them waits before it returns. Ids that were taken within a period of each other are apart.
structure SharedIds.HandsOut {κ : Type} (s : SharedIds κ) (ids : RequestIds) : Prop where
  returned : ∀ i c id, s.calls[i]? = some c → c.drawn = some id → (ids.draw (i + 1))[i]? = some id
  returns : ∀ i c, s.calls[i]? = some c → ∃ c', (s.turn (.finish i)).calls[i]? = some c' ∧
    c'.drawn = (ids.draw (i + 1))[i]?
  apart : ∀ m, (((s.calls.drop m).take (2 ^ 32 / Nat.gcd ids.step.toNat (2 ^ 32))).filterMap
    DrawCall.drawn).Nodup

theorem SharedIds.Follows.handsOut {κ : Type} {s : SharedIds κ} {ids : RequestIds}
    (h : s.Follows ids) : s.HandsOut ids := by
  have hplace (i : Nat) : (ids.draw (i + 1))[i]? = some (ids.skip i).next.1 := by
    rw [RequestIds.getElem?_draw, if_pos (Nat.lt_succ_self i)]
  constructor
  case returned =>
    intro i c id hc hid
    rw [hplace, (h.placed i c hc).drawn id hid]
  case returns =>
    intro i c hc
    rw [hplace]
    exact h.drawn_finish hc
  case apart =>
    intro m
    rw [List.Nodup, List.pairwise_filterMap]
    refine pairwise_window (fun i j c d hij hnear hc hd a ha b hb heq => ?_) m
    rw [(h.placed i c hc).drawn a ha, (h.placed j d hd).drawn b hb] at heq
    exact hij.ne (RequestIds.eq_of_next_skip_eq heq hij.le hnear)

-- What is true of a sequence of ids, whatever its seed and its step: the ids are the multiples of
-- the step above the seed, the sequence comes round after its period and no sooner, and this is so
-- for callers that share it, too.
structure RequestIds.ComesRound (ids : RequestIds) : Prop where
  period : Function.minimalPeriod (fun s : RequestIds => s.next.2) ids =
    2 ^ 32 / Nat.gcd ids.step.toNat (2 ^ 32)
  odd : ids.step.toNat % 2 = 1 → 2 ^ 32 / Nat.gcd ids.step.toNat (2 ^ 32) = 2 ^ 32
  value : ∀ n k, k < n → ∃ id, (ids.draw n)[k]? = some id ∧
    id.value.toNat = (ids.last.toNat + (k + 1) * ids.step.toNat) % 2 ^ 32
  same : ∀ n i j a b, i ≤ j → (ids.draw n)[i]? = some a → (ids.draw n)[j]? = some b →
    (a = b ↔ 2 ^ 32 ∣ (j - i) * ids.step.toNat)
  apart : ∀ n m, (((ids.draw n).drop m).take (2 ^ 32 / Nat.gcd ids.step.toNat (2 ^ 32))).Nodup
  shared : ∀ (κ : Type) (turns : List (DrawTurn κ)), (SharedIds.play { ids } turns).HandsOut ids

theorem RequestIds.comesRound (ids : RequestIds) : ids.ComesRound := by
  constructor
  case period => exact minimalPeriod_next
  case odd => exact period_of_odd
  case value =>
    intro n k hk
    exact ⟨_, by rw [getElem?_draw, if_pos hk], toNat_next_skip k⟩
  case same =>
    intro n i j a b hij ha hb
    obtain ⟨-, rfl⟩ := of_getElem?_draw ha
    obtain ⟨-, rfl⟩ := of_getElem?_draw hb
    exact next_skip_eq_iff_dvd hij
  case apart =>
    intro n m
    refine pairwise_window (fun i j a b hij hnear ha hb heq => ?_) m
    obtain ⟨-, rfl⟩ := of_getElem?_draw ha
    obtain ⟨-, rfl⟩ := of_getElem?_draw hb
    exact hij.ne (eq_of_next_skip_eq heq hij.le hnear)
  case shared => exact fun κ turns => (SharedIds.follows_play ids turns).handsOut

end FeedWatch
