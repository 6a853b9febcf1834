import FeedWatch.Config

namespace FeedWatch
namespace Config

variable {c : Config}

theorem toInt_toInt64 {n : UInt64} (h : n.toNat < 0x8000000000000000) :
    n.toInt64.toInt = n.toNat := by
  have hlt : 2 * n.toBitVec.toNat < 2 ^ 64 := by
    have hn : n.toBitVec.toNat = n.toNat := rfl
    omega
  rw [← Int64.toInt_toBitVec, UInt64.toBitVec_toInt64, BitVec.toInt_eq_toNat_of_lt hlt]
  rfl

theorem bounds_of_validate (h : c.validate = .ok ()) :
    (10 ≤ c.maxInactivitySeconds.toNat ∧ c.maxInactivitySeconds.toNat ≤ 180) ∧
      1 ≤ c.maxRecoveryMinutes.toNat ∧ c.maxRecoveryMinutes.toNat ≤ 10080 := by
  unfold validate at h
  split at h
  · exact absurd h nofun
  rename_i hinactivity
  split at h
  · exact absurd h nofun
  rename_i hzero
  split at h
  · exact absurd h nofun
  rename_i hrecovery
  have hz : c.maxRecoveryMinutes.toNat ≠ 0 := fun hn => hzero (UInt64.toNat_inj.mp hn)
  simp only [not_or, UInt64.lt_iff_toNat_lt, minInactivitySeconds, maxInactivitySecondsAllowed,
    maxRecoveryMinutesAllowed, UInt64.toNat_ofNat, UInt64.toNat_mul] at hinactivity hrecovery
  omega

theorem toInt_maxInactivityMillis (h : c.validate = .ok ()) :
    c.maxInactivityMillis.toInt = c.maxInactivitySeconds.toNat * 1000 := by
  obtain ⟨⟨-, hmax⟩, -⟩ := bounds_of_validate h
  have hthousand : (1000 : Int64).toInt = 1000 := rfl
  rw [maxInactivityMillis, Int64.toInt_mul, toInt_toInt64 (by omega), hthousand]
  exact Int.bmod_eq_of_le (by omega) (by omega)

theorem toInt_maxRecoveryMillis (h : c.validate = .ok ()) :
    c.maxRecoveryMillis.toInt = c.maxRecoveryMinutes.toNat * 60000 := by
  obtain ⟨-, -, hmax⟩ := bounds_of_validate h
  have hminute : (60000 : Int64).toInt = 60000 := rfl
  rw [maxRecoveryMillis, Int64.toInt_mul, toInt_toInt64 (by omega), hminute]
  exact Int.bmod_eq_of_le (by omega) (by omega)

theorem capacity_pos (h : c.validate = .ok ()) : 0 < c.capacity.toNat := by
  have hcapacity : c.capacity ≠ 0 := by
    rintro hzero
    simp only [validate, hzero, if_true] at h
    split at h
    · exact absurd h nofun
    · split at h
      · exact absurd h nofun
      · split at h
        · exact absurd h nofun
        · exact absurd h nofun
  exact Nat.pos_of_ne_zero fun hzero => hcapacity (UInt64.toNat_inj.mp hzero)

end Config
end FeedWatch
