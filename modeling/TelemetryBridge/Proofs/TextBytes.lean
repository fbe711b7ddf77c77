import Mathlib.Data.List.Basic
import TelemetryBridge.Request.Wire

/-!
# Texts as bytes

A text that was written in UTF-8 is read as the same text, and a text without surrogates that stand
alone is written on the wire in UTF-8. Such a text is the spelling of some characters.
-/

namespace TelemetryBridge.Text

lemma toNat_byte {n : Nat} (h : n < 256) : (UInt8.ofNat n).toNat = n :=
  UInt8.toNat_ofNat_of_lt' h

lemma continuation_byte {value n : Nat} {range : Nat × Nat} {ranges : List (Nat × Nat)}
    {bytes : Bytes} (hrange : range.1 ≤ n ∧ n ≤ range.2) (hbyte : n < 256) :
    continuation value (range :: ranges) (UInt8.ofNat n :: bytes) =
      continuation (value * 64 + n % 64) ranges bytes := by
  rw [continuation, toNat_byte hbyte, if_pos hrange]

lemma leadingByte_two {b : Nat} (hlo : 0xC2 ≤ b) (hhi : b < 0xE0) :
    leadingByte b = some (b - 0xC0, [(0x80, 0xBF)]) := by
  rw [leadingByte, if_neg (by omega), if_neg (by omega), if_pos hhi]

lemma leadingByte_three {b : Nat} (hlo : 0xE0 ≤ b) (hhi : b < 0xF0) :
    leadingByte b = some (b - 0xE0, [if b = 0xE0 then (0xA0, 0xBF)
      else if b = 0xED then (0x80, 0x9F) else (0x80, 0xBF), (0x80, 0xBF)]) := by
  rw [leadingByte, if_neg (by omega), if_neg (by omega), if_neg (by omega), if_pos hhi]

lemma leadingByte_four {b : Nat} (hlo : 0xF0 ≤ b) (hhi : b < 0xF5) :
    leadingByte b = some (b - 0xF0, [if b = 0xF0 then (0x90, 0xBF)
      else if b = 0xF4 then (0x80, 0x8F) else (0x80, 0xBF), (0x80, 0xBF), (0x80, 0xBF)]) := by
  rw [leadingByte, if_neg (by omega), if_neg (by omega), if_neg (by omega), if_neg (by omega),
    if_pos hhi]

/-- The bytes of a character are read as that character, and reading goes on behind them. -/
lemma decodeChars_char (c : Char) (rest : Bytes) :
    decodeChars (String.utf8EncodeChar c ++ rest) = c :: decodeChars rest := by
  have hvalid : c.toNat < 0xD800 ∨ 0xDFFF < c.toNat ∧ c.toNat < 0x110000 := c.valid
  have hchar : Char.ofNat c.toNat = c := Char.ofNat_toNat c
  have hval : c.val.toNat = c.toNat := rfl
  generalize c.toNat = n at hvalid hchar hval
  suffices ∃ b bytes, String.utf8EncodeChar c = UInt8.ofNat b :: bytes ∧
      nextChar (UInt8.ofNat b) (bytes ++ rest) = (c, rest) by
    obtain ⟨b, bytes, heq, hnext⟩ := this
    rw [heq, List.cons_append, decodeChars, hnext]
  rw [String.utf8EncodeChar, hval]
  by_cases h1 : n ≤ 127
  · rw [if_pos h1]
    refine ⟨_, _, rfl, ?_⟩
    rw [nextChar, toNat_byte (by omega), leadingByte, if_pos (by omega)]
    simp [continuation, hchar]
  rw [if_neg h1]
  by_cases h2 : n ≤ 2047
  · rw [if_pos h2]
    refine ⟨_, _, rfl, ?_⟩
    have hcode : (n / 64 % 32 + 192 - 0xC0) * 64 + (n % 64 + 128) % 64 = n := by omega
    rw [nextChar, toNat_byte (by omega), leadingByte_two (by omega) (by omega)]
    simp only [List.cons_append, List.nil_append]
    rw [continuation_byte (by omega) (by omega), continuation, hcode]
    simp only [hchar]
  rw [if_neg h2]
  by_cases h3 : n ≤ 65535
  · rw [if_pos h3]
    refine ⟨_, _, rfl, ?_⟩
    have hcode : ((n / 4096 % 16 + 224 - 0xE0) * 64 + (n / 64 % 64 + 128) % 64) * 64 +
        (n % 64 + 128) % 64 = n := by omega
    rw [nextChar, toNat_byte (by omega), leadingByte_three (by omega) (by omega)]
    simp only [List.cons_append, List.nil_append]
    generalize hrange : ite (n / 4096 % 16 + 224 = 0xE0) _ _ = range
    have hsecond : range.1 ≤ n / 64 % 64 + 128 ∧ n / 64 % 64 + 128 ≤ range.2 := by
      subst hrange
      split_ifs <;> constructor <;> simp only <;> omega
    rw [continuation_byte hsecond (by omega), continuation_byte (by omega) (by omega),
      continuation, hcode]
    simp only [hchar]
  · rw [if_neg h3]
    refine ⟨_, _, rfl, ?_⟩
    have hcode : (((n / 262144 % 8 + 240 - 0xF0) * 64 + (n / 4096 % 64 + 128) % 64) * 64 +
        (n / 64 % 64 + 128) % 64) * 64 + (n % 64 + 128) % 64 = n := by omega
    rw [nextChar, toNat_byte (by omega), leadingByte_four (by omega) (by omega)]
    simp only [List.cons_append, List.nil_append]
    generalize hrange : ite (n / 262144 % 8 + 240 = 0xF0) _ _ = range
    have hsecond : range.1 ≤ n / 4096 % 64 + 128 ∧ n / 4096 % 64 + 128 ≤ range.2 := by
      subst hrange
      split_ifs <;> constructor <;> simp only <;> omega
    rw [continuation_byte hsecond (by omega), continuation_byte (by omega) (by omega),
      continuation_byte (by omega) (by omega), continuation, hcode]
    simp only [hchar]

lemma decodeChars_utf8 (cs : List Char) : decodeChars (cs.flatMap String.utf8EncodeChar) = cs := by
  induction cs with
  | nil => rw [List.flatMap_nil, decodeChars]
  | cons c cs ih => rw [List.flatMap_cons, decodeChars_char, ih]

/-- A text is read from its bytes. -/
lemma decode_utf8 (s : String) : decode (utf8 s) = s := by
  rw [decode, utf8, decodeChars_utf8, String.ofList_toList]

/-! ## Texts without lone surrogates -/

/-- The text is the spelling of some characters: no surrogate in it stands alone. -/
def IsWhole (s : String) : Prop := ∃ t, spelled t = s

lemma toNat_standIn {unit : Nat} (h : unit < 0xE000) : (standIn unit).toNat = 0x100000 + unit := by
  have hvalid : (0x100000 + unit).isValidChar := Or.inr ⟨by omega, by omega⟩
  rw [standIn, Char.ofNat, dif_pos hvalid]
  rfl

lemma surrogate?_standIn {unit : Nat} (hlo : 0xD800 ≤ unit) (hhi : unit < 0xE000) :
    surrogate? (standIn unit) = some unit := by
  rw [surrogate?, toNat_standIn hhi, if_pos ⟨by omega, by omega⟩, Nat.add_sub_cancel_left]

lemma codes_plain {c : Char} (h : surrogate? c = none) (cs : List Char) :
    codes (c :: cs) = c.toNat :: codes cs := by
  cases cs with
  | nil => simp [codes, h]
  | cons d ds => simp [codes, h]

lemma codes_pair {high low : Nat} (hhigh : isHigh high = true) (hlow : isLow low = true)
    (cs : List Char) : codes (standIn high :: standIn low :: cs) = pairCode high low :: codes cs := by
  have h1 : 0xD800 ≤ high ∧ high < 0xDC00 := by simpa [isHigh] using hhigh
  have h2 : 0xDC00 ≤ low ∧ low < 0xE000 := by simpa [isLow] using hlow
  rw [codes, surrogate?_standIn (by omega) (by omega), surrogate?_standIn (by omega) (by omega)]
  simp [hhigh, hlow]

/-- The code point of a spelled character is that of the character. -/
lemma codes_spell (c : Char) (cs : List Char) : codes (spell c ++ cs) = c.toNat :: codes cs := by
  rw [spell]
  cases h : surrogate? c with
  | none => exact codes_plain h cs
  | some unit =>
    have hc : 0x10D800 ≤ c.toNat ∧ c.toNat < 0x10E000 := by
      by_contra hc
      rw [surrogate?, if_neg hc] at h
      cases h
    have hhigh : isHigh (0xD800 + (c.toNat - 0x10000) / 0x400) = true := by
      simp only [isHigh, Bool.and_eq_true, decide_eq_true_eq]
      omega
    have hlow : isLow (0xDC00 + (c.toNat - 0x10000) % 0x400) = true := by
      simp only [isLow, Bool.and_eq_true, decide_eq_true_eq]
      omega
    have hcode : pairCode (0xD800 + (c.toNat - 0x10000) / 0x400)
        (0xDC00 + (c.toNat - 0x10000) % 0x400) = c.toNat := by
      unfold pairCode
      omega
    simp only [surrogates, List.map_cons, List.map_nil, List.cons_append, List.nil_append]
    rw [codes_pair hhigh hlow, hcode]

lemma codes_spelled (cs : List Char) : codes (cs.flatMap spell) = cs.map Char.toNat := by
  induction cs with
  | nil => rfl
  | cons c cs ih => rw [List.flatMap_cons, codes_spell, ih, List.map_cons]

lemma code_toNat (short : Bool) (c : Char) : Wire.code short c.toNat = String.utf8EncodeChar c := by
  have hvalid : c.toNat < 0xD800 ∨ 0xDFFF < c.toNat ∧ c.toNat < 0x110000 := c.valid
  have hhigh : isHigh c.toNat = false := by
    simp only [isHigh, Bool.and_eq_false_iff, decide_eq_false_iff_not]
    omega
  have hlow : isLow c.toNat = false := by
    simp only [isLow, Bool.and_eq_false_iff, decide_eq_false_iff_not]
    omega
  rw [Wire.code, hhigh, hlow, Bool.or_false, if_neg Bool.false_ne_true, Char.ofNat_toNat]

/-- A text without lone surrogates is written in UTF-8. -/
lemma textBytes_spelled (t : String) : Wire.textBytes (spelled t) = utf8 t := by
  rw [Wire.textBytes, spelled, String.toList_ofList, codes_spelled, List.flatMap_map, utf8]
  exact List.flatMap_congr fun c _ => code_toNat _ c

end TelemetryBridge.Text
