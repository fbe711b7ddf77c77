import Mathlib.Tactic.Linarith
import TelemetryBridge.Backoff

/-!
# Timers

Whether a timer that is set to a delay runs until the delay is over. A punctual one always does; the
timer of the system has whole milliseconds and a longest delay, and is over at once beyond it.
-/

namespace TelemetryBridge

/-- Of two numbers the first is the smaller if, begun together, it is over whenever the other is. -/
lemma Number.le_iff_after (begun : Rat) (a b : Number) : le a b = true ↔
    ∀ t, le (b.after begun) (.finite t) = true → le (a.after begun) (.finite t) = true := by
  constructor
  · intro hle t hover
    cases a with
    | finite x => cases b with
      | finite y =>
        simp only [le, after, decide_eq_true_eq] at hle hover ⊢
        linarith
      | infinite negative => cases negative with
        | false => cases hover
        | true => cases hle
    | infinite negative => cases negative with
      | false => cases b with
        | finite y => cases hle
        | infinite negative' => cases negative' with
          | false => cases hover
          | true => cases hle
      | true => rfl
  · intro hover
    cases a with
    | finite x => cases b with
      | finite y => simpa [le, after] using hover (begun + y)
      | infinite negative => cases negative with
        | false => rfl
        | true =>
          have hearly := hover (begun + x - 1) rfl
          simp only [le, after, decide_eq_true_eq] at hearly
          linarith
    | infinite negative => cases negative with
      | false => cases b with
        | finite y => simpa [le, after] using hover (begun + y)
        | infinite negative' => cases negative' with
          | false => rfl
          | true => exact hover 0 rfl
      | true => rfl

namespace Backoff

/-- A timer keeps a delay if it runs at least as long. -/
def Timer.Keeps (timer : Timer) (delay : Number) : Prop := Number.le delay (timer delay) = true

lemma punctual_keeps (delay : Number) : punctual.Keeps delay := by
  cases delay with
  | finite d => exact decide_eq_true le_rfl
  | infinite negative => cases negative <;> rfl

lemma le_floor_iff {d : Rat} (hd : 0 ≤ d) : d ≤ d.floor ↔ ∃ n : Nat, d = n := by
  constructor
  · intro hle
    have hwhole : d = d.floor := le_antisymm hle (Rat.floor_le d)
    have hfloor : 0 ≤ d.floor := Rat.le_floor_iff.mpr (by exact_mod_cast hd)
    obtain ⟨n, hn⟩ := Int.eq_ofNat_of_zero_le hfloor
    exact ⟨n, by rw [hwhole, hn, Int.cast_natCast]⟩
  · rintro ⟨n, rfl⟩
    have hfloor : (n : Int) ≤ (n : Rat).floor := Rat.le_floor_iff.mpr (by rw [Int.cast_natCast])
    exact_mod_cast hfloor

/-- The timer of the system keeps whole delays up to the longest, and those that are over within a
millisecond. -/
lemma systemTimer_keeps_iff (delay : Number) : systemTimer.Keeps delay ↔
    Number.le delay 1 = true ∨ ∃ n : Nat, n ≤ longestTimer ∧ delay = .ofNat n := by
  unfold Timer.Keeps
  cases delay with
  | infinite negative => cases negative <;> simp [systemTimer, Number.le, Number.ofNat, OfNat.ofNat]
  | finite d =>
    have hliteral : (1 : Number) = .finite 1 := congrArg Number.finite Nat.cast_one
    have hshort : Number.le (.finite d) 1 = true ↔ d ≤ 1 := by
      rw [hliteral]
      exact decide_eq_true_iff
    by_cases hrange : 1 ≤ d ∧ d ≤ longestTimer
    · have htimer : systemTimer (.finite d) = .finite d.floor := if_pos hrange
      obtain ⟨hone, hlong⟩ := hrange
      have hkeeps : Number.le (.finite d) (.finite d.floor) = true ↔ ∃ n : Nat, d = n :=
        decide_eq_true_iff.trans (le_floor_iff (by linarith))
      rw [htimer, hkeeps, hshort]
      constructor
      · rintro ⟨n, rfl⟩
        exact .inr ⟨n, by exact_mod_cast hlong, rfl⟩
      · rintro (hle | ⟨n, -, hn⟩)
        · exact ⟨1, by rw [Nat.cast_one]; exact le_antisymm hle hone⟩
        · exact ⟨n, Number.finite.inj hn⟩
    · have htimer : systemTimer (.finite d) = 1 := if_neg hrange
      rw [htimer, or_iff_left_of_imp]
      rintro ⟨n, hn, hd⟩
      obtain rfl : d = n := Number.finite.inj hd
      rw [hshort]
      by_contra hlong
      exact hrange ⟨(not_le.mp hlong).le, by exact_mod_cast hn⟩

end Backoff

end TelemetryBridge
