import Mathlib.Data.List.Forall2

/-!
# Outcomes

A computation that may fail is taken apart: what each of its parts returned when the whole returned
something, and which part failed when the whole failed.
-/

namespace TelemetryBridge

variable {ε ε' α β : Type} {x : Except ε α}

/-! ## Results -/

lemma bind_eq_ok {f : α → Except ε β} {b : β} :
    (x >>= f) = .ok b ↔ ∃ a, x = .ok a ∧ f a = .ok b := by
  cases x <;> simp [bind, Except.bind]

lemma map_eq_ok {f : α → β} {b : β} : x.map f = .ok b ↔ ∃ a, x = .ok a ∧ f a = b := by
  cases x <;> simp [Except.map]

lemma mapError_eq_ok {f : ε → ε'} {a : α} : x.mapError f = .ok a ↔ x = .ok a := by
  cases x <;> simp [Except.mapError]

lemma toOption_eq_some {a : α} : x.toOption = some a ↔ x = .ok a := by
  cases x <;> simp [Except.toOption]

lemma throw_or_eq_ok {fault : ε} {f : α → Except ε β} {c : Prop} [Decidable c] {y : Except ε β}
    {b : β} : (if c then throw fault >>= f else y) = .ok b ↔ ¬c ∧ y = .ok b := by
  split <;> simp [*, throw, throwThe, MonadExceptOf.throw, bind, Except.bind]

lemma forall₂_of_mapM_ok {f : α → Except ε β} {as : List α} {bs : List β}
    (h : as.mapM f = .ok bs) : List.Forall₂ (fun a b => f a = .ok b) as bs := by
  induction as generalizing bs with
  | nil =>
    cases h
    exact .nil
  | cons a as ih =>
    rw [List.mapM_cons] at h
    obtain ⟨b, hb, h⟩ := bind_eq_ok.mp h
    obtain ⟨bs', hrest, h⟩ := bind_eq_ok.mp h
    cases h
    exact .cons hb (ih hrest)

/-! ## Failures -/

section

variable {e : ε}

lemma bind_eq_error {f : α → Except ε β} :
    (x >>= f) = .error e ↔ x = .error e ∨ ∃ a, x = .ok a ∧ f a = .error e := by
  cases x <;> simp [bind, Except.bind]

lemma map_eq_error {f : α → β} : x.map f = .error e ↔ x = .error e := by
  cases x <;> simp [Except.map]

lemma mapError_eq_error {f : ε → ε'} {e' : ε'} :
    x.mapError f = .error e' ↔ ∃ e, x = .error e ∧ f e = e' := by
  cases x <;> simp [Except.mapError]

lemma throw_or_eq_error {fault : ε} {f : α → Except ε β} {c : Prop} [Decidable c]
    {y : Except ε β} : (if c then throw fault >>= f else y) = .error e ↔
      (c ∧ fault = e) ∨ (¬c ∧ y = .error e) := by
  split <;> simp [*, throw, throwThe, MonadExceptOf.throw, bind, Except.bind]

lemma exists_of_mapM_error {f : α → Except ε β} {as : List α} (h : as.mapM f = .error e) :
    ∃ a ∈ as, f a = .error e := by
  induction as with
  | nil => cases h
  | cons a as ih =>
    rw [List.mapM_cons] at h
    rcases bind_eq_error.mp h with hfirst | ⟨b, -, h⟩
    · exact ⟨a, List.mem_cons_self, hfirst⟩
    · rcases bind_eq_error.mp h with hrest | ⟨bs, -, h⟩
      · obtain ⟨a', hmem, ha'⟩ := ih hrest
        exact ⟨a', List.mem_cons_of_mem a hmem, ha'⟩
      · cases h

end

end TelemetryBridge
