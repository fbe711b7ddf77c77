import Mathlib.Data.Nat.Digits.Defs
import Mathlib.Data.Rat.Floor
import Mathlib.Tactic.FieldSimp
import TelemetryBridge.Address.Basic

/-!
# Parts of addresses

A port is read as a binary64 number, but its range keeps to the exact value of the digits: small
numbers are read exactly, and no large one is rounded down to a small one. An IP literal is made of
letters, digits and a few marks, so it has no bracket, no slash and no blank.
-/

namespace TelemetryBridge

/-! ## Port numbers -/

namespace Number

variable {n : Nat}

lemma le_ofNat (m n : Nat) : le (ofNat m) (ofNat n) = decide (m ≤ n) := by
  rw [ofNat, ofNat, le, decide_eq_decide]
  exact Nat.cast_le

lemma scaled_zero (n : Nat) : scaled n 0 = n := by
  have hpower : Nat.pow 10 (0 : Int).toNat = 1 := rfl
  rw [scaled, neg_zero, hpower, Nat.cast_one, mul_one, Rat.mkRat_one, Int.cast_natCast]

lemma lastBit_natCast (hn : n ≠ 0) : lastBit n 1 = (n.log2 : Int) - 52 := by
  have hlog : ((n.log2 : Int) - (Nat.log2 1 : Int)) = n.log2 := Int.sub_zero _
  have hneg : (-(n.log2 : Int)).toNat = 0 := by omega
  have hpower : 1 * Nat.pow 2 (n.log2 : Int).toNat ≤ n * Nat.pow 2 (-(n.log2 : Int)).toNat := by
    rw [hneg, Int.toNat_natCast, Nat.one_mul]
    exact (Nat.log2_self_le hn).trans (Nat.le_mul_of_pos_right n Nat.one_pos)
  rw [lastBit, hlog, if_pos hpower]
  exact max_eq_left (by omega)

/-- What a positive whole number is rounded to. The exponent of the range is given by a name, so that
no proof evaluates the power. -/
lemma binary64_natCast (hn : n ≠ 0) {e : Int} (he : e = (n.log2 : Int) - 52) {limit : Nat}
    (hlimit : limit = 1024) : binary64 n =
      if Nat.pow 2 limit ≤ significand n 1 e * Nat.pow 2 e.toNat then .infinite false
      else .finite (mkRat ((significand n 1 e * Nat.pow 2 e.toNat : Nat) : Int)
        (Nat.pow 2 (-e).toNat)) := by
  have hne : (n : Rat) ≠ 0 := Nat.cast_ne_zero.mpr hn
  have hpos : ¬(n : Rat) < 0 := not_lt.mpr (Nat.cast_nonneg n)
  rw [binary64, if_neg hne, Rat.num_natCast, Rat.den_natCast, Int.natAbs_natCast,
    lastBit_natCast hn, ← he]
  dsimp only
  rw [decide_eq_false hpos, if_neg hpos, Nat.cast_mul, ← hlimit]

/-- A whole number of up to 53 bits is kept as it is. -/
lemma binary64_of_lt (h : n < 2 ^ 53) : binary64 n = .ofNat n := by
  rcases Nat.eq_zero_or_pos n with rfl | hpos
  · rfl
  have hn := Nat.pos_iff_ne_zero.mp hpos
  have hlog : n.log2 < 53 := (Nat.log2_lt hn).mpr h
  obtain ⟨k, hk⟩ : ∃ k : Nat, k = 52 - n.log2 := ⟨_, rfl⟩
  obtain ⟨limit, hlimit⟩ : ∃ limit : Nat, limit = 1024 := ⟨_, rfl⟩
  have he : (-k : Int) = (n.log2 : Int) - 52 := by omega
  have htoNat : (-k : Int).toNat = 0 := by omega
  have hneg : (-(-k : Int)).toNat = k := by omega
  have hone : Nat.pow 2 0 = 1 := rfl
  have hsignificand : significand n 1 (-k) = n * 2 ^ k := by
    rw [significand, htoNat, hneg, hone, roundQuotient, Nat.mod_one, Nat.div_one]
    rfl
  have hfits : ¬Nat.pow 2 limit ≤ n * 2 ^ k := by
    rw [Nat.not_le]
    calc n * 2 ^ k
      _ ≤ 2 ^ 53 * 2 ^ 52 :=
        Nat.mul_le_mul h.le (Nat.pow_le_pow_right Nat.two_pos (by omega))
      _ = 2 ^ 105 := (Nat.pow_add 2 53 52).symm
      _ < 2 ^ limit := Nat.pow_lt_pow_right Nat.one_lt_two (by omega)
  rw [binary64_natCast hn he hlimit, hsignificand, htoNat, hneg, hone, Nat.mul_one, if_neg hfits,
    Rat.mkRat_eq_div, ofNat, Nat.pow_eq]
  congr 1
  push_cast
  field_simp

lemma div_le_roundQuotient (m d : Nat) : m / d ≤ roundQuotient m d := by
  unfold roundQuotient
  dsimp only
  split_ifs <;> omega

/-- A longer one is not rounded to one of fewer bits. -/
lemma binary64_of_le (h : 2 ^ 53 ≤ n) :
    binary64 n = .infinite false ∨ ∃ m : Nat, 2 ^ 52 ≤ m ∧ binary64 n = .ofNat m := by
  have hn : n ≠ 0 := by omega
  have hlog : 53 ≤ n.log2 := (Nat.le_log2 hn).mpr h
  obtain ⟨k, hk⟩ : ∃ k : Nat, n.log2 = 52 + k := ⟨n.log2 - 52, by omega⟩
  have he : (k : Int) = (n.log2 : Int) - 52 := by omega
  have hneg : (-(k : Int)).toNat = 0 := by omega
  have hone : Nat.pow 2 0 = 1 := rfl
  have hsignificand : 2 ^ 52 ≤ significand n 1 k := by
    have hpower : 2 ^ 52 * 2 ^ k ≤ n := by
      rw [← Nat.pow_add, ← hk]
      exact Nat.log2_self_le hn
    calc 2 ^ 52
      _ ≤ n / 2 ^ k := (Nat.le_div_iff_mul_le (Nat.two_pow_pos k)).mpr hpower
      _ ≤ roundQuotient n (2 ^ k) := div_le_roundQuotient n (2 ^ k)
      _ = significand n 1 k := by
        rw [significand, hneg, Int.toNat_natCast, hone, Nat.mul_one, Nat.one_mul]
        rfl
  rw [binary64_natCast hn he rfl, hneg, Int.toNat_natCast, hone, Rat.mkRat_one]
  split
  · exact Or.inl rfl
  · refine Or.inr ⟨significand n 1 k * Nat.pow 2 k, ?_, by rw [ofNat, Int.cast_natCast]⟩
    exact hsignificand.trans (Nat.le_mul_of_pos_right _ (Nat.two_pow_pos k))

/-- Reading digits rounds as well: it keeps a short number as it is. -/
lemma ofDecimal_of_lt (h : n < 2 ^ 53) : ofDecimal false n 0 = .ofNat n := by
  rcases Nat.eq_zero_or_pos n with rfl | hpos
  · rfl
  have hlength : (Nat.repr n).length ≤ 16 := Nat.repr_length n 16 (by decide) (by omega)
  have hmagnitude : ¬310 ≤ ((Nat.repr n).length : Int) + 0 := by omega
  have hnotTiny : ¬((Nat.repr n).length : Int) + 0 ≤ -324 := by omega
  rw [ofDecimal, if_neg (Nat.pos_iff_ne_zero.mp hpos)]
  dsimp only
  rw [if_neg hmagnitude, if_neg hnotTiny, if_neg Bool.false_ne_true, scaled_zero, binary64_of_lt h]

/-- A long one is read as a number of more than 52 bits, or as infinite. -/
lemma ofDecimal_of_le (h : 2 ^ 53 ≤ n) :
    ofDecimal false n 0 = .infinite false ∨
      ∃ m : Nat, 2 ^ 52 ≤ m ∧ ofDecimal false n 0 = .ofNat m := by
  have hn : n ≠ 0 := by omega
  have hnotTiny : ¬((Nat.repr n).length : Int) + 0 ≤ -324 := by omega
  rw [ofDecimal, if_neg hn]
  dsimp only
  by_cases hlarge : 310 ≤ ((Nat.repr n).length : Int) + 0
  · exact Or.inl (if_pos hlarge)
  · rw [if_neg hlarge, if_neg hnotTiny, if_neg Bool.false_ne_true, scaled_zero]
    exact binary64_of_le h

end Number

namespace Address

/-- Whether a port is in its range can be told from the exact value of its digits. -/
lemma portNumber_inRange {digits : List Char} :
    (Number.lt (portNumber digits) 1 || Number.lt 65535 (portNumber digits)) = false ↔
      1 ≤ Number.ofDigits digits ∧ Number.ofDigits digits ≤ 65535 := by
  have hone : (1 : Number) = .ofNat 1 := rfl
  have hlast : (65535 : Number) = .ofNat 65535 := rfl
  rw [portNumber, hone, hlast]
  generalize Number.ofDigits digits = n
  rcases Nat.lt_or_ge n (2 ^ 53) with hshort | hlong
  · rw [Number.ofDecimal_of_lt hshort]
    simp [Number.lt, Number.le_ofNat]
  · have hout : ¬(1 ≤ n ∧ n ≤ 65535) := by omega
    rw [iff_false_right hout]
    rcases Number.ofDecimal_of_le hlong with hinfinite | ⟨m, hm, hfinite⟩
    · rw [hinfinite]
      exact Bool.true_eq_false_eq_False
    · rw [hfinite]
      have hmore : ¬m ≤ 65535 := by omega
      simp [Number.lt, Number.le_ofNat, hmore]

/-! ## Up to a stop -/

section

variable {p : Char → Bool} {before cs rest : List Char} {stop : Char}

lemma takeWhile_stop (h : ∀ c ∈ before, p c = true) (hstop : p stop = false) (rest : List Char) :
    (before ++ stop :: rest).takeWhile p = before := by
  rw [List.takeWhile_append_of_pos h, List.takeWhile_cons_of_neg (Bool.not_eq_true _ ▸ hstop),
    List.append_nil]

lemma dropWhile_stop (h : ∀ c ∈ before, p c = true) (hstop : p stop = false) (rest : List Char) :
    (before ++ stop :: rest).dropWhile p = stop :: rest := by
  rw [List.dropWhile_append_of_pos h, List.dropWhile_cons_of_neg (Bool.not_eq_true _ ▸ hstop)]

lemma eq_of_dropWhile (h : cs.dropWhile p = stop :: rest) :
    p stop = false ∧ cs = cs.takeWhile p ++ stop :: rest := by
  have hhead := List.head?_dropWhile_not p cs
  rw [h] at hhead
  refine ⟨by simpa using hhead, ?_⟩
  rw [← h, List.takeWhile_append_dropWhile]

lemma forall_bne (h : stop ∉ before) : ∀ c ∈ before, (c != stop) = true := by
  intro c hc
  rw [bne_iff_ne]
  rintro rfl
  exact h hc

lemma takeWhile_bne (h : stop ∉ before) (rest : List Char) :
    (before ++ stop :: rest).takeWhile (· != stop) = before :=
  takeWhile_stop (forall_bne h) (bne_self_eq_false stop) rest

lemma dropWhile_bne (h : stop ∉ before) (rest : List Char) :
    (before ++ stop :: rest).dropWhile (· != stop) = stop :: rest :=
  dropWhile_stop (forall_bne h) (bne_self_eq_false stop) rest

end

/-! ## IP literals -/

section

variable {c : Char} {cs part : List Char}

lemma mem_pieces (separator : Char) (h : c ∈ cs) :
    c = separator ∨ ∃ piece ∈ Text.pieces separator cs, c ∈ piece := by
  fun_induction Text.pieces separator cs with
  | case1 => exact absurd h List.not_mem_nil
  | case2 cs ih =>
    rcases List.mem_cons.mp h with rfl | h
    · exact Or.inl rfl
    · refine (ih h).imp_right ?_
      rintro ⟨piece, hpiece, hc⟩
      exact ⟨piece, List.mem_cons_of_mem _ hpiece, hc⟩
  | case3 d cs _ hnil ih =>
    rcases List.mem_cons.mp h with rfl | h
    · exact Or.inr ⟨_, List.mem_singleton_self _, List.mem_singleton_self _⟩
    · refine (ih h).imp_right ?_
      rintro ⟨piece, hpiece, -⟩
      exact absurd (hnil ▸ hpiece) List.not_mem_nil
  | case4 d cs _ first rest heq ih =>
    rcases List.mem_cons.mp h with rfl | h
    · exact Or.inr ⟨_, List.mem_cons_self, List.mem_cons_self⟩
    · refine (ih h).imp_right ?_
      rintro ⟨piece, hpiece, hc⟩
      rcases List.mem_cons.mp (heq ▸ hpiece) with rfl | hpiece
      · exact ⟨_, List.mem_cons_self, List.mem_cons_of_mem d hc⟩
      · exact ⟨piece, List.mem_cons_of_mem _ hpiece, hc⟩

lemma isZoneChar_of_isDigit (h : c.isDigit = true) : isZoneChar c = true := by
  simp [isZoneChar, Char.isAlphanum, h]

lemma isZoneChar_of_digitValue (h : (Number.digitValue? 16 c).isSome = true) :
    isZoneChar c = true := by
  have hletter : c.isAlpha = true → isZoneChar c = true := by
    intro h
    simp [isZoneChar, Char.isAlphanum, h]
  simp only [Number.digitValue?] at h
  split_ifs at h with hdigit hlower hupper
  · exact isZoneChar_of_isDigit hdigit
  · have hlast : c.val ≤ 'z'.val := UInt32.le_trans hlower.2 (by decide)
    have hisLower : c.isLower = true :=
      Bool.and_eq_true_iff.mpr ⟨decide_eq_true hlower.1, decide_eq_true hlast⟩
    exact hletter (Bool.or_eq_true_iff.mpr (Or.inr hisLower))
  · have hlast : c.val ≤ 'Z'.val := UInt32.le_trans hupper.2 (by decide)
    have hisUpper : c.isUpper = true := decide_eq_true ⟨hupper.1, hlast⟩
    exact hletter (Bool.or_eq_true_iff.mpr (Or.inl hisUpper))
  · cases h

lemma isZoneChar_of_isGroup (h : isGroup part = true) : ∀ c ∈ part, isZoneChar c = true := by
  rw [isGroup, Bool.and_eq_true, List.all_eq_true] at h
  exact fun c hc => isZoneChar_of_digitValue (h.2 c hc)

lemma isZoneChar_of_isIPv4 (h : isIPv4 cs = true) : ∀ c ∈ cs, isZoneChar c = true := by
  intro c hc
  simp only [isIPv4, Bool.and_eq_true, List.all_eq_true] at h
  rcases mem_pieces '.' hc with rfl | ⟨octet, hoctet, hc⟩
  · rfl
  · have hdigits := h.2 octet hoctet
    simp only [isOctet, Bool.and_eq_true, List.all_eq_true] at hdigits
    exact isZoneChar_of_isDigit (hdigits.1.1.1.2 c hc)

lemma isZoneChar_of_groupCount {parts : List (List Char)} {n : Nat}
    (h : groupCount? parts = some n) : ∀ part ∈ parts, ∀ c ∈ part, isZoneChar c = true := by
  fun_induction groupCount? parts generalizing n with
  | case1 => simp
  | case2 part hgroup => simpa using isZoneChar_of_isGroup hgroup
  | case3 part _ hquad => simpa using isZoneChar_of_isIPv4 hquad
  | case4 => cases h
  | case5 part parts hparts hgroup ih =>
    obtain ⟨m, hm, -⟩ := Option.map_eq_some_iff.mp h
    exact List.forall_mem_cons.mpr ⟨isZoneChar_of_isGroup hgroup, ih hm⟩
  | case6 => cases h

lemma splitGap_eq (cs : List Char) :
    cs = (splitGap cs).1 ++ (splitGap cs).2.elim [] (':' :: ':' :: ·) := by
  fun_induction splitGap cs with
  | case1 => rfl
  | case2 c cs hne before after heq ih =>
    rw [heq] at ih
    exact congrArg (c :: ·) ih
  | case3 => rfl

lemma isZoneChar_of_pieces
    (h : ∀ part ∈ Text.pieces ':' cs, ∀ c ∈ part, isZoneChar c = true) :
    ∀ c ∈ cs, isZoneChar c = true := by
  intro c hc
  rcases mem_pieces ':' hc with rfl | ⟨part, hpart, hc⟩
  · rfl
  · exact h part hpart c hc

lemma isZoneChar_of_sideParts (h : ∀ part ∈ sideParts cs, ∀ c ∈ part, isZoneChar c = true) :
    ∀ c ∈ cs, isZoneChar c = true := by
  intro c hc
  rw [sideParts, if_neg (List.ne_nil_of_mem hc)] at h
  exact isZoneChar_of_pieces h c hc

lemma isZoneChar_of_isGroups (h : isGroups cs = true) : ∀ c ∈ cs, isZoneChar c = true := by
  have hcs := splitGap_eq cs
  unfold isGroups at h
  split at h
  · next all heq =>
    rw [heq] at hcs
    rw [hcs, Option.elim_none, List.append_nil]
    exact isZoneChar_of_pieces (isZoneChar_of_groupCount (beq_iff_eq.mp h))
  · next before after heq =>
    rw [heq, Option.elim_some] at hcs
    rw [Bool.and_eq_true, List.all_eq_true] at h
    obtain ⟨hbefore, hafter⟩ := h
    rw [hcs, List.forall_mem_append, List.forall_mem_cons, List.forall_mem_cons]
    refine ⟨isZoneChar_of_sideParts fun part hpart => isZoneChar_of_isGroup (hbefore part hpart),
      rfl, rfl, ?_⟩
    split at hafter
    · next n hcount => exact isZoneChar_of_sideParts (isZoneChar_of_groupCount hcount)
    · cases hafter

/-- An IP literal is made of letters, digits, `-`, `.`, `:` and `%`. -/
lemma chars_of_isIPv6 (h : isIPv6 cs = true) : ∀ c ∈ cs, isZoneChar c = true ∨ c = '%' := by
  simp only [isIPv6, Bool.and_eq_true, Bool.or_eq_true, List.all_eq_true] at h
  obtain ⟨hgroups, hzone⟩ := h
  rw [← List.takeWhile_append_dropWhile (p := (· != '%')) (l := cs), List.forall_mem_append]
  refine ⟨fun c hc => Or.inl (isZoneChar_of_isGroups hgroups c hc), ?_⟩
  rcases hzone with hnone | ⟨-, htail⟩
  · rw [beq_iff_eq.mp hnone]
    exact nofun
  · cases hrest : cs.dropWhile (· != '%') with
    | nil => exact nofun
    | cons mark zone =>
      obtain ⟨hmark, -⟩ := eq_of_dropWhile hrest
      rw [hrest] at htail
      refine List.forall_mem_cons.mpr ⟨Or.inr (bne_eq_false_iff_eq.mp hmark), ?_⟩
      exact fun c hc => Or.inl (htail c hc)

/-- So a character of another kind is in no IP literal. -/
lemma notMem_of_isIPv6 (h : isIPv6 cs = true) (hc : isZoneChar c = false) (hpercent : c ≠ '%') :
    c ∉ cs := by
  intro hmem
  rcases chars_of_isIPv6 h c hmem with hzone | heq
  · exact Bool.false_ne_true (hc.symm.trans hzone)
  · exact hpercent heq

end

end Address

end TelemetryBridge
