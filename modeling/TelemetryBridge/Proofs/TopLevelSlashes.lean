import TelemetryBridge.Proofs.WrittenPaths

/-!
# Top-level slashes

One scan over a whole text tells which of its slashes are top-level: outside brackets, and not escaped.
The scan that starts afresh behind every cut finds the same slashes, as the one scan stands at each
of them where it started. So nothing but these slashes is lost when a text is cut at them.
-/

namespace TelemetryBridge

namespace Path

/-! ## One scan -/

/-- Where a scan stands behind a text. -/
def ScanState.after (s : ScanState) (cs : List Char) : ScanState := cs.foldl ScanState.next s

/-- The places of the slashes at which a single scan over the text is outside brackets and not behind
an escaping backslash. -/
def slashes (s : ScanState) (cs : List Char) : List Nat :=
  (List.range cs.length).filter fun i => (cs[i]?).any (s.after (cs.take i)).cuts

section

variable {s s' : ScanState} {cs : List Char}

@[simp]
lemma slashes_nil (s : ScanState) : slashes s [] = [] := rfl

lemma slashes_cons (s : ScanState) (c : Char) (cs : List Char) : slashes s (c :: cs) =
    (if s.cuts c then [0] else []) ++ (slashes (s.next c) cs).map (· + 1) := by
  have htail : (fun i => ((c :: cs)[i]?).any (s.after ((c :: cs).take i)).cuts) ∘ Nat.succ =
      fun i => (cs[i]?).any ((s.next c).after (cs.take i)).cuts := rfl
  rw [slashes, List.length_cons, List.range_succ_eq_map, List.filter_cons, List.filter_map, htail]
  change (if s.cuts c = true then 0 :: (slashes (s.next c) cs).map Nat.succ
    else (slashes (s.next c) cs).map Nat.succ) = _
  split <;> rfl

lemma slashes_append (s : ScanState) (cs cs' : List Char) : slashes s (cs ++ cs') =
    slashes s cs ++ (slashes (s.after cs) cs').map (· + cs.length) := by
  induction cs generalizing s with
  | nil => simp [ScanState.after]
  | cons c cs ih =>
    rw [List.cons_append, slashes_cons, slashes_cons, ih, List.map_append, List.map_map,
      List.append_assoc]
    rfl

/-- A scan that cuts nothing meets no top-level slash. -/
lemma Passes.slashes_eq_nil (h : Passes s cs s') : slashes s cs = [] := by
  induction h with
  | nil s => exact slashes_nil s
  | cons kept _ ih => rw [slashes_cons, kept, ih, if_neg Bool.false_ne_true, List.map_nil,
      List.append_nil]

lemma Passes.after_eq (h : Passes s cs s') : s.after cs = s' := by
  induction h with
  | nil => rfl
  | cons _ _ ih => exact ih

/-- At a cut the single scan stands where it started, and so it does behind the slash. -/
lemma Passes.slashes_cut (h : Passes .initial cs .initial) (rest : List Char) :
    slashes .initial (cs ++ '/' :: rest) =
      cs.length :: (slashes .initial rest).map (· + (cs.length + 1)) := by
  have hslash : slashes .initial ('/' :: rest) = 0 :: (slashes .initial rest).map (· + 1) :=
    slashes_cons .initial '/' rest
  rw [slashes_append, h.slashes_eq_nil, h.after_eq, hslash, List.nil_append, List.map_cons,
    List.map_map, Nat.zero_add]
  congr 2
  funext i
  simp only [Function.comp_apply]
  omega

end

/-! ## Cuts -/

/-- What is said of a text at its cuts: of no text, of a last segment, and of a segment with a slash and
more behind it. -/
lemma cut_induction {motive : List Char → Prop} (nil : motive [])
    (last : ∀ cs s, cs ≠ [] → Passes .initial cs s → motive cs)
    (cut : ∀ cs rest, Passes .initial cs .initial → motive rest → motive (cs ++ '/' :: rest))
    (cs : List Char) : motive cs := by
  fun_induction segments cs with
  | case1 => exact nil
  | case2 cs hne ih =>
    obtain ⟨s, hpasses, hend⟩ := passes_segment .initial cs
    have happend := segment_append .initial cs
    rcases segment_rest .initial cs with hrest | ⟨tail, hrest⟩
    · rw [hrest, List.append_nil] at happend
      exact last cs s hne (happend ▸ hpasses)
    · rw [hrest] at ih happend hend
      obtain rfl := hend (List.cons_ne_nil _ _)
      exact happend ▸ cut _ tail hpasses ih

/-- Whether the last character of a text is a top-level slash. -/
def EndsAtCut (cs : List Char) : Prop := cs.length - 1 ∈ slashes .initial cs

instance (cs : List Char) : Decidable (EndsAtCut cs) := inferInstanceAs (Decidable (_ ∈ _))

section

variable {s : ScanState} {cs rest : List Char}

lemma lt_of_mem_slashes {i : Nat} (h : i ∈ slashes s cs) : i < cs.length :=
  List.mem_range.mp (List.mem_filter.mp h).1

lemma Passes.not_endsAtCut (h : Passes .initial cs s) : ¬EndsAtCut cs := by
  rw [EndsAtCut, h.slashes_eq_nil]
  exact List.not_mem_nil

lemma Passes.endsAtCut_cut (h : Passes .initial cs .initial) :
    EndsAtCut (cs ++ '/' :: rest) ↔ rest = [] ∨ EndsAtCut rest := by
  rw [EndsAtCut, h.slashes_cut, List.mem_cons, List.mem_map, List.length_append, List.length_cons]
  apply or_congr
  · rw [← List.length_eq_zero_iff]
    omega
  · constructor
    · rintro ⟨i, hi, heq⟩
      have hlast : rest.length - 1 = i := by omega
      rwa [EndsAtCut, hlast]
    · intro hend
      have := lt_of_mem_slashes hend
      exact ⟨_, hend, by omega⟩

/-- No segment has a top-level slash of its own. -/
lemma segments_uncut (cs : List Char) : ∀ piece ∈ segments cs, slashes .initial piece = [] := by
  induction cs using cut_induction with
  | nil => simp [segments]
  | last cs s hne hpasses =>
    rw [hpasses.segments_eq hne, List.forall_mem_singleton]
    exact hpasses.slashes_eq_nil
  | cut cs rest hpasses ih =>
    rw [hpasses.segments_cut, List.forall_mem_cons]
    exact ⟨hpasses.slashes_eq_nil, ih⟩

lemma segments_eq_nil : segments cs = [] ↔ cs = [] := by
  constructor
  · intro h
    by_contra hne
    rw [segments, dif_neg hne] at h
    cases h
  · rintro rfl
    rw [segments, dif_pos rfl]

lemma intercalate_cons {α : Type} (separator piece : List α) {pieces : List (List α)}
    (hne : pieces ≠ []) :
    separator.intercalate (piece :: pieces) = piece ++ separator ++ separator.intercalate pieces := by
  obtain ⟨next, pieces, rfl⟩ := List.exists_cons_of_ne_nil hne
  exact List.intercalate_cons_cons

/-- The segments with slashes between them are the text, less a top-level slash at its end. -/
lemma intercalate_segments (cs : List Char) :
    ['/'].intercalate (segments cs) = if EndsAtCut cs then cs.dropLast else cs := by
  induction cs using cut_induction with
  | nil => simp [segments, List.intercalate]
  | last cs s hne hpasses =>
    rw [hpasses.segments_eq hne, if_neg hpasses.not_endsAtCut, List.intercalate_singleton]
  | cut cs rest hpasses ih =>
    rw [hpasses.segments_cut]
    by_cases hrest : rest = []
    · rw [if_pos (hpasses.endsAtCut_cut.mpr (Or.inl hrest)), hrest, segments_eq_nil.mpr rfl,
        List.intercalate_singleton, List.dropLast_concat]
    · have hdrop : (cs ++ '/' :: rest).dropLast = cs ++ ['/'] ++ rest.dropLast := by
        rw [List.dropLast_append_of_ne_nil (List.cons_ne_nil _ _),
          List.dropLast_cons_of_ne_nil hrest, List.append_assoc]
        rfl
      rw [intercalate_cons _ _ (mt segments_eq_nil.mp hrest), ih, hdrop]
      simp only [hpasses.endsAtCut_cut, hrest, false_or]
      split
      · rfl
      · rw [List.append_assoc]
        rfl

/-- One segment more than top-level slashes, unless the text ends with one or is empty. -/
lemma length_segments (cs : List Char) : (segments cs).length =
    if cs = [] then 0
    else (slashes .initial cs).length + 1 - if EndsAtCut cs then 1 else 0 := by
  induction cs using cut_induction with
  | nil => simp [segments]
  | last cs s hne hpasses =>
    rw [hpasses.segments_eq hne, if_neg hne, if_neg hpasses.not_endsAtCut, hpasses.slashes_eq_nil]
    rfl
  | cut cs rest hpasses ih =>
    rw [hpasses.segments_cut, hpasses.slashes_cut, List.length_cons, List.length_cons,
      List.length_map, ih, if_neg (List.append_ne_nil_of_right_ne_nil _ (List.cons_ne_nil _ _))]
    by_cases hrest : rest = []
    · rw [if_pos (hpasses.endsAtCut_cut.mpr (Or.inl hrest)), if_pos hrest, hrest]
      rfl
    · simp only [hpasses.endsAtCut_cut, hrest, false_or, if_false]
      split
      · next hend =>
        have := List.length_pos_of_mem hend
        omega
      · rfl

/-- The segments end at the top-level slashes of the text, and the last at the end of the text. -/
lemma mem_slashes_iff (cs : List Char) (i : Nat) : i ∈ slashes .initial cs ↔
    i < cs.length ∧ ∃ k < (segments cs).length,
      i = (['/'].intercalate ((segments cs).take (k + 1))).length := by
  induction cs using cut_induction generalizing i with
  | nil => simp
  | last cs s hne hpasses =>
    rw [hpasses.segments_eq hne, hpasses.slashes_eq_nil]
    constructor
    · exact fun h => absurd h List.not_mem_nil
    · rintro ⟨hlt, k, -, rfl⟩
      simp at hlt
  | cut cs rest hpasses ih =>
    have hlength (k : Nat) (hk : k < (segments rest).length) :
        (['/'].intercalate (cs :: (segments rest).take (k + 1))).length =
          (['/'].intercalate ((segments rest).take (k + 1))).length + (cs.length + 1) := by
      have hne : (segments rest).take (k + 1) ≠ [] := by
        rw [← List.length_pos_iff, List.length_take]
        omega
      rw [intercalate_cons _ _ hne, List.length_append, List.length_append, List.length_singleton]
      omega
    rw [hpasses.segments_cut, hpasses.slashes_cut, List.mem_cons, List.mem_map, List.length_append,
      List.length_cons, List.length_cons]
    constructor
    · rintro (rfl | ⟨j, hj, rfl⟩)
      · exact ⟨by omega, 0, by omega, by simp⟩
      · obtain ⟨hlt, k, hk, rfl⟩ := (ih j).mp hj
        exact ⟨by omega, k + 1, by omega, by rw [List.take_succ_cons, hlength k hk]⟩
    · rintro ⟨hlt, k, hk, rfl⟩
      cases k with
      | zero => exact Or.inl (by simp)
      | succ k =>
        rw [List.take_succ_cons, hlength k (by omega)] at hlt ⊢
        exact Or.inr ⟨_, (ih _).mpr ⟨by omega, k, by omega, rfl⟩, rfl⟩

end

/-- Cutting a text at its top-level slashes loses nothing but these slashes. One leading slash is no
part of what is cut. Each cut leaves less to be cut. No piece has a top-level slash of its own. The
pieces with slashes between them are the text, less a top-level slash at its end. There is one piece
more than there are top-level slashes, unless the text is empty or ends with one. And the pieces end
where one scan over the whole text meets these slashes. -/
theorem split_at_top_level (text : String) :
    let t := dropSlash text.toList
    (∀ rest ≠ [], (dropSlash (segment .initial rest).2).length < rest.length) ∧
    (∀ piece ∈ split text, slashes .initial piece.toList = []) ∧
    ("/".intercalate (split text)).toList = (if EndsAtCut t then t.dropLast else t) ∧
    (split text).length =
      (if t = [] then 0 else (slashes .initial t).length + 1 - if EndsAtCut t then 1 else 0) ∧
    ∀ i, i ∈ slashes .initial t ↔ i < t.length ∧ ∃ k < (split text).length,
      i = ("/".intercalate ((split text).take (k + 1))).length := by
  intro t
  have htexts : (split text).map String.toList = segments t := by
    rw [split, List.map_map]
    exact (List.map_congr_left fun _ _ => String.toList_ofList).trans (List.map_id _)
  have hlength : (split text).length = (segments t).length := by rw [← htexts, List.length_map]
  have hjoined (k : Nat) : ("/".intercalate ((split text).take k)).length =
      (['/'].intercalate ((segments t).take k)).length := by
    rw [← String.length_toList, String.toList_intercalate, List.map_take, htexts]
    rfl
  refine ⟨fun rest hne => dropSlash_segment_lt .initial hne, ?_, ?_, ?_, ?_⟩
  · intro piece hpiece
    exact segments_uncut t _ (htexts ▸ List.mem_map_of_mem hpiece)
  · rw [String.toList_intercalate, htexts]
    exact intercalate_segments t
  · rw [hlength]
    exact length_segments t
  · intro i
    simp only [hlength, hjoined]
    exact mem_slashes_iff t i

/-- A second leading slash and a final one are top-level, those behind a backslash or in brackets are
not. -/
example : slashes .initial "/a\\/b[c/d]/".toList = [0, 10] ∧
    split "//a\\/b[c/d]/" = ["", "a\\/b[c/d]"] := by
  decide +kernel

end Path

end TelemetryBridge
