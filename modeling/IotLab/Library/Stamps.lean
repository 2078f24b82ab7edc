import IotLab.Library.RingBuffer

/-!
# Time stamps of a clock that wraps

A clock counts modulo `period`.  The difference of two stamps is the time between them as
long as that is less than a period.
-/

namespace IotLab.Library

variable {period : ℕ}

/-- The difference of two stamps, modulo the period. -/
def stampSub (period later earlier : ℕ) : ℕ := (later + (period - earlier)) % period

theorem stampSub_mod {start distance : ℕ} (near : distance < period) :
    stampSub period ((start + distance) % period) (start % period) = distance := by
  have inside := Nat.mod_lt start (Nat.zero_lt_of_lt near)
  have later := RingBuffer.add_mod_eq inside near
  rw [Nat.mod_add_mod] at later
  rw [stampSub, later]
  split
  · rw [show start % period + distance + (period - start % period) = distance + period by omega,
      Nat.add_mod_right, Nat.mod_eq_of_lt near]
  · rw [show start % period + distance - period + (period - start % period) = distance by omega,
      Nat.mod_eq_of_lt near]

theorem stampSub_mod_of_le {earlier later : ℕ} (ordered : earlier ≤ later)
    (near : later - earlier < period) :
    stampSub period (later % period) (earlier % period) = later - earlier := by
  obtain ⟨distance, rfl⟩ := Nat.exists_eq_add_of_le ordered
  rw [Nat.add_sub_cancel_left] at near ⊢
  exact stampSub_mod near

theorem stampSub_mod_of_lt {now ahead : ℕ} (before : now < ahead) (near : ahead - now < period) :
    stampSub period (now % period) (ahead % period) = period - (ahead - now) := by
  have gap : period - (ahead - now) < period := by omega
  have shifted : now + period = ahead + (period - (ahead - now)) := by omega
  rw [← Nat.add_mod_right now period, shifted]
  exact stampSub_mod gap

end IotLab.Library
