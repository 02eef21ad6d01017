import SwaylockPlugin.Construction.Loop

namespace SwaylockPlugin

namespace Timespec

/-- A reading in nanoseconds. -/
def nanos (reading : Timespec) : Int := reading.tvSec * 1000000000 + reading.tvNsec

/-- The system clock reads the nanoseconds within a second. -/
def normal (reading : Timespec) : Bool := decide (0 ≤ reading.tvNsec) && decide (reading.tvNsec < 1000000000)

theorem after_nanos (now : Timespec) (ms : Int) : (now.after ms).nanos = now.nanos + ms * 1000000 := by
  have parts := Int.mul_tdiv_add_tmod ms 1000
  unfold after nanos
  dsimp only
  split
  · dsimp only
    omega
  · dsimp only
    omega

theorem nanos_le {first second : Timespec} (one : first.normal = true) (two : second.normal = true)
    (late : second.before first = false) : first.nanos ≤ second.nanos := by
  simp only [normal, Bool.and_eq_true, decide_eq_true_eq] at one two
  simp only [before, Bool.or_eq_false_iff, Bool.and_eq_false_imp, decide_eq_false_iff_not, beq_iff_eq] at late
  unfold nanos
  omega

theorem after_normal {now : Timespec} {ms : Int} (normal : now.normal = true) (ahead : 0 ≤ ms) :
    (now.after ms).normal = true := by
  simp only [Timespec.normal, Bool.and_eq_true, decide_eq_true_eq] at normal ⊢
  have lower := Int.tmod_nonneg 1000 ahead
  have upper := Int.tmod_lt_of_pos ms (by decide : (0 : Int) < 1000)
  unfold after
  dsimp only
  split
  · dsimp only
    omega
  · dsimp only
    omega

end Timespec

end SwaylockPlugin
