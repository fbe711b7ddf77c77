import Mathlib.Algebra.Group.Nat.Defs
import Mathlib.Data.List.Basic
import TelemetryBridge.Request.Wire

/-!
# Fields on the wire

A reader of protobuf messages that knows no schema: a message is a sequence of fields, each a tag
with a payload behind it. `Frames` says that bytes are read as fields wherever they stand in front of
others, so what was written one behind the other is read one behind the other.
-/

namespace TelemetryBridge.Wire

/-! ## Reading fields -/

/-- A number in base 128 of at most so many bytes, and the bytes behind it. -/
def readVarint : Nat → Bytes → Option (Nat × Bytes)
  | 0, _ => none
  | _ + 1, [] => none
  | limit + 1, b :: bytes =>
    if b.toNat < 128 then some (b.toNat, bytes)
    else (readVarint limit bytes).map fun (n, rest) => (b.toNat - 128 + 128 * n, rest)

/-- What stands behind a tag. -/
inductive Payload where
  | number (value : Nat)
  | message (body : Bytes)
  | fixed (bytes : Bytes)
deriving DecidableEq

structure Field where
  number : Nat
  payload : Payload
deriving DecidableEq

/-- So many bytes, and the bytes behind them. -/
def readBytes (count : Nat) (bytes : Bytes) : Option (Bytes × Bytes) :=
  if count ≤ bytes.length then some (bytes.take count, bytes.drop count) else none

/-- Lengths and tags are numbers of 32 bits. -/
def lengthLimit : Nat := 2 ^ 32

/-- A payload by its wire type. Groups are refused. -/
def readPayload (wireType : Nat) (bytes : Bytes) : Option (Payload × Bytes) :=
  match wireType with
  | 0 => (readVarint 10 bytes).map fun (n, rest) => (.number (n % 2 ^ 64), rest)
  | 1 => (readBytes 8 bytes).map fun (fixed, rest) => (.fixed fixed, rest)
  | 2 =>
    match readVarint 10 bytes with
    | none => none
    | some (length, rest) =>
      if length < lengthLimit then
        (readBytes length rest).map fun (body, rest) => (.message body, rest)
      else none
  | 5 => (readBytes 4 bytes).map fun (fixed, rest) => (.fixed fixed, rest)
  | _ => none

/-- The first field and the bytes behind it. -/
def readField (bytes : Bytes) : Option (Field × Bytes) :=
  match readVarint 10 bytes with
  | none => none
  | some (tag, rest) =>
    if 8 ≤ tag ∧ tag < lengthLimit then
      (readPayload (tag % 8) rest).map fun (payload, rest) => (⟨tag / 8, payload⟩, rest)
    else none

lemma readVarint_rest_lt {limit n : Nat} {bytes rest : Bytes}
    (h : readVarint limit bytes = some (n, rest)) : rest.length < bytes.length := by
  induction limit generalizing n bytes with
  | zero => cases h
  | succ limit ih =>
    cases bytes with
    | nil => cases h
    | cons b bytes =>
      rw [readVarint] at h
      split at h
      · cases h
        exact Nat.lt_succ_self _
      · obtain ⟨⟨m, tail⟩, hread, heq⟩ := Option.map_eq_some_iff.mp h
        cases heq
        exact Nat.lt_trans (ih hread) (Nat.lt_succ_self _)

lemma readBytes_rest_le {count : Nat} {bytes taken rest : Bytes}
    (h : readBytes count bytes = some (taken, rest)) : rest.length ≤ bytes.length := by
  unfold readBytes at h
  split at h
  · cases h
    rw [List.length_drop]
    exact Nat.sub_le _ _
  · cases h

lemma readPayload_rest_le {wireType : Nat} {bytes rest : Bytes} {payload : Payload}
    (h : readPayload wireType bytes = some (payload, rest)) : rest.length ≤ bytes.length := by
  unfold readPayload at h
  split at h
  · obtain ⟨⟨n, tail⟩, hread, heq⟩ := Option.map_eq_some_iff.mp h
    cases heq
    exact Nat.le_of_lt (readVarint_rest_lt hread)
  · obtain ⟨⟨fixed, tail⟩, hread, heq⟩ := Option.map_eq_some_iff.mp h
    cases heq
    exact readBytes_rest_le hread
  · split at h
    · cases h
    · next length tail hlength =>
      split at h
      · obtain ⟨⟨body, tail'⟩, hread, heq⟩ := Option.map_eq_some_iff.mp h
        cases heq
        exact Nat.le_trans (readBytes_rest_le hread) (Nat.le_of_lt (readVarint_rest_lt hlength))
      · cases h
  · obtain ⟨⟨fixed, tail⟩, hread, heq⟩ := Option.map_eq_some_iff.mp h
    cases heq
    exact readBytes_rest_le hread
  · cases h

lemma readField_rest_lt {bytes rest : Bytes} {field : Field}
    (h : readField bytes = some (field, rest)) : rest.length < bytes.length := by
  unfold readField at h
  split at h
  · cases h
  · next tag tail htag =>
    split at h
    · obtain ⟨⟨payload, tail'⟩, hread, heq⟩ := Option.map_eq_some_iff.mp h
      cases heq
      exact Nat.lt_of_le_of_lt (readPayload_rest_le hread) (readVarint_rest_lt htag)
    · cases h

/-- The fields of a message. All of its bytes have to be read. -/
def readFields (bytes : Bytes) : Option (List Field) :=
  if bytes = [] then some []
  else
    match _h : readField bytes with
    | none => none
    | some (field, rest) => (readFields rest).map (field :: ·)
termination_by bytes.length
decreasing_by exact readField_rest_lt ‹_›

/-! ## What was written -/

/-- In front of any others, the bytes are read as the fields. -/
def Frames (bytes : Bytes) (fields : List Field) : Prop :=
  ∀ rest, readFields (bytes ++ rest) = (readFields rest).map (fields ++ ·)

section

variable {bytes bytes' rest : Bytes} {fields fields' : List Field}

lemma frames_nil : Frames [] [] := by
  intro rest
  simp

lemma Frames.append (h : Frames bytes fields) (h' : Frames bytes' fields') :
    Frames (bytes ++ bytes') (fields ++ fields') := by
  intro rest
  rw [List.append_assoc, h, h', Option.map_map]
  congr 1
  funext more
  exact (List.append_assoc _ _ _).symm

lemma frames_flatMap {α : Type} {items : List α} {write : α → Bytes} {field : α → Field}
    (h : ∀ a ∈ items, Frames (write a) [field a]) :
    Frames (items.flatMap write) (items.map field) := by
  induction items with
  | nil => exact frames_nil
  | cons a items ih =>
    have hrest := ih fun b hb => h b (List.mem_cons_of_mem a hb)
    exact (h a List.mem_cons_self).append hrest

lemma Frames.readFields_eq (h : Frames bytes fields) : readFields bytes = some fields := by
  have hnil : readFields [] = some [] := by rw [readFields, if_pos rfl]
  have hall := h []
  rwa [List.append_nil, hnil, Option.map_some, List.append_nil] at hall

lemma frames_field {field : Field}
    (h : ∀ rest, readField (bytes ++ rest) = some (field, rest)) : Frames bytes [field] := by
  intro rest
  have hne : bytes ++ rest ≠ [] := by
    intro hnil
    have hread := h rest
    rw [hnil] at hread
    cases hread
  rw [readFields, if_neg hne]
  split
  · next hnone =>
    rw [h rest] at hnone
    cases hnone
  · next field' rest' hsome =>
    rw [h rest] at hsome
    cases hsome
    rfl

/-- A number is read as it was written if it takes no more bytes than allowed. -/
lemma readVarint_varint {limit n : Nat} (h : n < 128 ^ (limit + 1)) (rest : Bytes) :
    readVarint (limit + 1) (varint n ++ rest) = some (n, rest) := by
  have hbyte (m : Nat) (hm : m < 256) : (UInt8.ofNat m).toNat = m := UInt8.toNat_ofNat_of_lt' hm
  induction limit generalizing n with
  | zero =>
    rw [varint, if_pos (by omega), List.singleton_append, readVarint, hbyte n (by omega),
      if_pos (by omega)]
  | succ limit ih =>
    by_cases hlast : n < 128
    · rw [varint, if_pos hlast, List.singleton_append, readVarint, hbyte n (by omega), if_pos hlast]
    · have hrest : n / 128 < 128 ^ (limit + 1) := by
        rw [Nat.div_lt_iff_lt_mul (by decide), ← Nat.pow_succ]
        exact h
      have hvalue : n % 128 + 128 - 128 + 128 * (n / 128) = n := by omega
      rw [varint, if_neg hlast, List.cons_append, readVarint, hbyte _ (by omega),
        if_neg (by omega), ih hrest]
      simp only [Option.map_some, hvalue]

lemma readBytes_append (body rest : Bytes) :
    readBytes body.length (body ++ rest) = some (body, rest) := by
  rw [readBytes, if_pos (by simp), List.take_left, List.drop_left]

lemma frames_message {field : Nat} {body : Bytes} (hpos : 0 < field) (hfield : field < 2 ^ 29)
    (hbody : body.length < lengthLimit) : Frames (message field body) [⟨field, .message body⟩] := by
  apply frames_field
  intro rest
  have htag : readVarint 10 (message field body ++ rest) =
      some (field * 8 + 2, varint body.length ++ (body ++ rest)) := by
    rw [message, List.append_assoc, List.append_assoc]
    exact readVarint_varint (by omega) _
  have hlength : readVarint 10 (varint body.length ++ (body ++ rest)) =
      some (body.length, body ++ rest) :=
    readVarint_varint (Nat.lt_trans hbody (by decide)) _
  have htype : (field * 8 + 2) % 8 = 2 := by omega
  have hnumber : (field * 8 + 2) / 8 = field := by omega
  have hpayload : readPayload 2 (varint body.length ++ (body ++ rest)) =
      some (.message body, rest) := by
    simp only [readPayload, hlength, if_pos hbody, readBytes_append, Option.map_some]
  have hlimit : 8 ≤ field * 8 + 2 ∧ field * 8 + 2 < lengthLimit := by
    unfold lengthLimit
    omega
  simp only [readField, htag, if_pos hlimit, htype, hnumber, hpayload, Option.map_some]

lemma frames_number {field value : Nat} (hpos : 0 < field) (hfield : field < 2 ^ 29)
    (hvalue : value < 2 ^ 64) : Frames (number field value) [⟨field, .number value⟩] := by
  apply frames_field
  intro rest
  have htag : readVarint 10 (number field value ++ rest) =
      some (field * 8, varint value ++ rest) := by
    rw [number, List.append_assoc]
    exact readVarint_varint (by omega) _
  have hread : readVarint 10 (varint value ++ rest) = some (value, rest) :=
    readVarint_varint (Nat.lt_trans hvalue (by decide)) _
  have htype : field * 8 % 8 = 0 := by omega
  have hnumber : field * 8 / 8 = field := by omega
  have hpayload : readPayload 0 (varint value ++ rest) = some (.number value, rest) := by
    simp only [readPayload, hread, Option.map_some, Nat.mod_eq_of_lt hvalue]
  have hlimit : 8 ≤ field * 8 ∧ field * 8 < lengthLimit := by
    unfold lengthLimit
    omega
  simp only [readField, htag, if_pos hlimit, htype, hnumber, hpayload, Option.map_some]

end

end TelemetryBridge.Wire
