import Mathlib.Data.Rat.Floor
import Mathlib.Tactic.Linarith
import Mathlib.Tactic.Positivity
import TelemetryBridge.Service

/-!
# Bands of retry delays

Kept exactly, the delay after `n` failures in a row lies in a band around `initial · 2 ^ (n - 1)`:
from 3/4 of it to 5/4, rounded and capped. As 5/4 is less than twice 3/4, the band of one failure
more begins above the end of this one. So delays grow whatever random numbers are drawn.
-/

namespace TelemetryBridge

lemma Number.min_finite (x y : Rat) :
    Number.min (.finite x) (.finite y) = .finite (Min.min x y) := by
  by_cases h : x ≤ y <;> simp [Number.min, Number.le, h, min_def]

namespace Backoff

lemma draws_of_pos {initial : Rat} (hi : 0 < initial) {n : Nat} (hn : 1 ≤ n) :
    draws initial n = true := by
  simp only [draws, Bool.and_eq_true, decide_eq_true_eq]
  exact ⟨hi, by exact_mod_cast hn⟩

/-- The delay after some failures in a row, when the jitter is the given factor. -/
def jittered (initial cap : Int) (factor : Rat) (failures : Nat) : Int :=
  min (initial * 2 ^ (failures - 1) * factor + 1 / 2 : Rat).floor cap

section

variable {initial cap : Int} {factor factor' : Rat} {n : Nat}

lemma nearest_jittered (initial cap : Int) (factor : Rat) (n : Nat) :
    min (nearest (factor * initial * 2 ^ (n - 1))) (cap : Rat) = jittered initial cap factor n := by
  have hx : factor * initial * 2 ^ (n - 1) = initial * 2 ^ (n - 1) * factor := by ring
  rw [hx, nearest, jittered]
  exact (Int.cast_min ..).symm

lemma jittered_le_cap (initial cap : Int) (factor : Rat) (n : Nat) :
    jittered initial cap factor n ≤ cap :=
  min_le_right _ _

/-- A greater factor asks for no shorter delay. -/
lemma jittered_mono (hi : 1 ≤ initial) (hf : factor ≤ factor') (n : Nat) :
    jittered initial cap factor n ≤ jittered initial cap factor' n := by
  have hbase : (0 : Rat) ≤ initial * 2 ^ (n - 1) := by
    have hinitial : (1 : Rat) ≤ initial := by exact_mod_cast hi
    positivity
  have hx : (initial * 2 ^ (n - 1) * factor + 1 / 2 : Rat) ≤
      initial * 2 ^ (n - 1) * factor' + 1 / 2 := by
    have := mul_le_mul_of_nonneg_left hf hbase
    linarith
  exact min_le_min_right cap (Rat.floor_monotone hx)

/-- One failure more doubles the delay, as twice the factor does. -/
lemma jittered_succ (initial cap : Int) (factor : Rat) (hn : 1 ≤ n) :
    jittered initial cap factor (n + 1) = jittered initial cap (2 * factor) n := by
  obtain ⟨m, rfl⟩ := Nat.exists_eq_add_of_le' hn
  have hx : (initial * 2 ^ (m + 1 + 1 - 1) * factor : Rat) =
      initial * 2 ^ (m + 1 - 1) * (2 * factor) := by
    simp only [Nat.add_sub_cancel]
    ring
  rw [jittered, jittered, hx]

/-- No delay is rounded to nothing. -/
lemma one_le_jittered (hi : 1 ≤ initial) (hc : 1 ≤ cap) (hf : 3 / 4 ≤ factor) (n : Nat) :
    1 ≤ jittered initial cap factor n := by
  have hinitial : (1 : Rat) ≤ initial := by exact_mod_cast hi
  have hpower : (1 : Rat) ≤ 2 ^ (n - 1) := one_le_pow₀ (by norm_num)
  have hbase : (1 : Rat) ≤ initial * 2 ^ (n - 1) := one_le_mul_of_one_le_of_one_le hinitial hpower
  have hx : ((1 : Int) : Rat) ≤ initial * 2 ^ (n - 1) * factor + 1 / 2 := by
    have := mul_le_mul hbase hf (by norm_num) (by linarith)
    push_cast
    linarith
  exact le_min (Rat.le_floor_iff.mpr hx) hc

/-- The bands of two failures that follow each other do not overlap. -/
lemma jittered_le_succ (hi : 1 ≤ initial) (hf : factor ≤ 5 / 4) (hf' : 3 / 4 ≤ factor')
    (hn : 1 ≤ n) : jittered initial cap factor n ≤ jittered initial cap factor' (n + 1) := by
  rw [jittered_succ initial cap factor' hn]
  exact jittered_mono hi (by linarith) n

/-- A factor of the band that reaches the cap keeps every later band there. -/
lemma jittered_of_cap (hi : 1 ≤ initial) {m : Nat} (hn : 1 ≤ n) (hm : n < m)
    (hf : factor ≤ 5 / 4) (hf' : 3 / 4 ≤ factor') (hcap : jittered initial cap factor n = cap) :
    jittered initial cap factor' m = cap := by
  refine le_antisymm (jittered_le_cap ..) ?_
  induction m, hm using Nat.le_induction generalizing factor' with
  | base => exact hcap.symm.trans_le (jittered_le_succ hi hf hf' hn)
  | succ m hm ih =>
    -- Any factor of the band will do for the delay in between.
    exact (ih le_rfl).trans (jittered_le_succ hi (by norm_num) hf' (by omega))

/-- Kept exactly, the delay is that of the factor that was drawn. -/
lemma exponential_exact (hi : 1 ≤ initial) (random : Nat → Rat) (k : Nat) (hn : 1 ≤ n) :
    exponential exact initial cap random k n =
      .finite (jittered initial cap (3 / 4 + random k / 2) n) := by
  have hinitial : (0 : Rat) < initial := by exact_mod_cast (by omega : (0 : Int) < initial)
  rw [exponential, if_pos (draws_of_pos hinitial hn)]
  change Number.min (.finite (nearest (initial * 2 ^ (n - 1) * (3 / 4 + random k / 2))))
    (.finite cap) = _
  rw [Number.min_finite, ← nearest_jittered]
  ring_nf

end

/-- For whole numbers of milliseconds and any random numbers, the policy of a configuration, kept
exactly, asks for whole delays between 1 and the cap. After `n` failures in a row the delay lies
between 3/4 and 5/4 of `initial · 2 ^ (n - 1)`, both rounded and capped. It is never longer than after
one failure more, and once it is the cap every later one is, whatever is drawn for either. -/
theorem exact_delays_grow (initial cap : Int) (hi : 1 ≤ initial) (hc : 1 ≤ cap)
    (random : Nat → Rat) (hr : ∀ k, 0 ≤ random k ∧ random k < 1) :
    let policy := exponential exact initial cap random
    RetryConfig.policy exact random ⟨.finite initial, .finite cap⟩ = policy ∧
      ∃ delay : Nat → Nat → Int, ∀ k n : Nat, 1 ≤ n →
        policy k n = .finite (delay k n) ∧ 1 ≤ delay k n ∧ delay k n ≤ cap ∧
        min (nearest (3 / 4 * initial * 2 ^ (n - 1))) (cap : Rat) ≤ delay k n ∧
        delay k n ≤ min (nearest (5 / 4 * initial * 2 ^ (n - 1))) (cap : Rat) ∧
        (∀ l, delay k n ≤ delay l (n + 1)) ∧
        (delay k n = cap → ∀ l m : Nat, n < m → delay l m = cap) := by
  intro policy
  have hlow : ∀ k, 3 / 4 ≤ 3 / 4 + random k / 2 := fun k => by linarith [(hr k).1]
  have hhigh : ∀ k, 3 / 4 + random k / 2 ≤ 5 / 4 := fun k => by linarith [(hr k).2]
  have hpositive : (0 : Rat) < initial := by exact_mod_cast (by omega : (0 : Int) < initial)
  refine ⟨if_pos hpositive, fun k n => jittered initial cap (3 / 4 + random k / 2) n, ?_⟩
  intro k n hn
  refine ⟨exponential_exact hi random k hn, one_le_jittered hi hc (hlow k) n,
    jittered_le_cap .., ?_, ?_, fun l => jittered_le_succ hi (hhigh k) (hlow l) hn,
    fun hcap l m hm => jittered_of_cap hi hn hm (hhigh k) (hlow l) hcap⟩
  · rw [nearest_jittered]
    exact_mod_cast jittered_mono hi (hlow k) n
  · rw [nearest_jittered]
    exact_mod_cast jittered_mono hi (hhigh k) n

/-- Delays of a second at first and half a minute at most. When the random numbers climb from 0, the
sixth failure in a row reaches the cap. -/
theorem sixth_delay_reaches_cap :
    let random : Nat → Rat := fun k => k / (k + 1)
    let policy := exponential exact 1000 30000 random
    policy 0 5 = .finite 12000 ∧ policy 5 6 = .finite 30000 ∧
      ∀ l m : Nat, 6 < m → policy l m = .finite 30000 := by
  intro random policy
  have hr : ∀ k, 0 ≤ random k ∧ random k < 1 := by
    intro k
    have hk : (0 : Rat) ≤ k := Nat.cast_nonneg k
    refine ⟨by positivity, ?_⟩
    rw [div_lt_one (by linarith)]
    linarith
  obtain ⟨-, delay, hdelay⟩ := exact_delays_grow 1000 30000 (by decide) (by decide) random hr
  have hsixth : policy 5 6 = .finite 30000 := by decide +kernel
  refine ⟨by decide +kernel, hsixth, fun l m hm => ?_⟩
  obtain ⟨hpolicy, -, -, -, -, -, hlater⟩ := hdelay 5 6 (by decide)
  have hcap : delay 5 6 = 30000 := by
    have hfinite : (delay 5 6 : Rat) = 30000 := Number.finite.inj (hpolicy.symm.trans hsixth)
    exact_mod_cast hfinite
  have hlast : policy l m = .finite (delay l m) := (hdelay l m (by omega)).1
  rw [hlast, hlater hcap l m hm, Int.cast_ofNat]

end Backoff

end TelemetryBridge
