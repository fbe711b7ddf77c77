/-!
# UTF-16 code units

A text is a sequence of UTF-16 code units, in which a surrogate may stand without its partner. Such
a unit is held as a private character that stands for it; the few characters whose place is taken
are held as their two surrogates. Key names are listed in the order of their units, which differs
from the order of code points above U+D7FF only.
-/

namespace TelemetryBridge.Text

/-! ## Surrogates that stand alone -/

/-- The first half of a pair of surrogates. -/
def isHigh (unit : Nat) : Bool := 0xD800 ≤ unit && unit < 0xDC00

/-- The second half of a pair of surrogates. -/
def isLow (unit : Nat) : Bool := 0xDC00 ≤ unit && unit < 0xE000

/-- The code point of a pair of surrogates. -/
def pairCode (high low : Nat) : Nat := 0x10000 + (high - 0xD800) * 0x400 + (low - 0xDC00)

/-- The character that stands for a surrogate. -/
def standIn (unit : Nat) : Char := Char.ofNat (0x100000 + unit)

/-- The surrogate for which a character stands. -/
def surrogate? (c : Char) : Option Nat :=
  if 0x10D800 ≤ c.toNat ∧ c.toNat < 0x10E000 then some (c.toNat - 0x100000) else none

/-- The two surrogates of a character beyond the basic plane. -/
def surrogates (c : Char) : List Nat :=
  [0xD800 + (c.toNat - 0x10000) / 0x400, 0xDC00 + (c.toNat - 0x10000) % 0x400]

/-- A character as a text holds it. -/
def spell (c : Char) : List Char :=
  match surrogate? c with
  | none => [c]
  | some _ => (surrogates c).map standIn

/-- The text that holds the given characters. -/
def spelled (s : String) : String := .ofList (s.toList.flatMap spell)

/-- The code points of a text. A surrogate that stands alone is one of them. -/
def codes : List Char → List Nat
  | [] => []
  | [a] => [(surrogate? a).getD a.toNat]
  | a :: b :: cs =>
    match surrogate? a, surrogate? b with
    | some high, some low =>
      if isHigh high && isLow low then pairCode high low :: codes cs else high :: codes (b :: cs)
    | some unit, none => unit :: codes (b :: cs)
    | none, _ => a.toNat :: codes (b :: cs)

/-! ## The order of code units -/

def charUnits (c : Char) : List Nat :=
  match surrogate? c with
  | some unit => [unit]
  | none => if c.toNat < 0x10000 then [c.toNat] else surrogates c

/-- The UTF-16 code units of a text. -/
def units (s : String) : List Nat :=
  s.toList.flatMap charUnits

/-- Lexicographic order of unit lists; a shorter list precedes its extensions. -/
def unitsLe : List Nat → List Nat → Bool
  | [], _ => true
  | _ :: _, [] => false
  | a :: as, b :: bs => decide (a < b) || (a == b && unitsLe as bs)

theorem unitsLe_refl (a : List Nat) : unitsLe a a = true := by
  induction a with
  | nil => rfl
  | cons x xs ih => simp [unitsLe, ih]

theorem unitsLe_total (a b : List Nat) : (unitsLe a b || unitsLe b a) = true := by
  induction a generalizing b with
  | nil => simp [unitsLe]
  | cons x xs ih =>
    cases b with
    | nil => simp [unitsLe]
    | cons y ys =>
      have h := ih ys
      simp only [unitsLe, Bool.or_eq_true, decide_eq_true_eq, Bool.and_eq_true, beq_iff_eq] at *
      rcases Nat.lt_trichotomy x y with hxy | rfl | hxy
      · exact .inl (.inl hxy)
      · exact h.imp (fun k => .inr ⟨rfl, k⟩) (fun k => .inr ⟨rfl, k⟩)
      · exact .inr (.inl hxy)

theorem unitsLe_trans {a b c : List Nat} (hab : unitsLe a b = true) (hbc : unitsLe b c = true) :
    unitsLe a c = true := by
  induction a generalizing b c with
  | nil => rfl
  | cons x xs ih =>
    cases b with
    | nil => simp [unitsLe] at hab
    | cons y ys =>
      cases c with
      | nil => simp [unitsLe] at hbc
      | cons z zs =>
        simp only [unitsLe, Bool.or_eq_true, decide_eq_true_eq, Bool.and_eq_true,
          beq_iff_eq] at *
        rcases hab with h | ⟨rfl, h⟩ <;> rcases hbc with k | ⟨rfl, k⟩
        · exact .inl (by omega)
        · exact .inl h
        · exact .inl k
        · exact .inr ⟨rfl, ih h k⟩

/-- Text order by UTF-16 code units. -/
def textLe (a b : String) : Bool :=
  unitsLe (units a) (units b)

end TelemetryBridge.Text
