import TelemetryBridge.Proofs.ElementGrammar
import TelemetryBridge.Proofs.PathRoundTrip

/-!
# Paths that were read

Every path that has been read can be written and read again: its keys have names that can be set, and
no part that has to be there is empty. A segment that ends at a slash has closed its brackets, so an
element inside such a path leaves a bracket of its name open only if the groups that closed it have
left no key.
-/

namespace TelemetryBridge

namespace KeyMap

variable {α : Type}

/-- What a map holds was assigned to a name that can be set. -/
lemma mem_foldl_assign {pairs : List (String × α)} {m : KeyMap α} {entry : String × α}
    (h : entry ∈ (pairs.foldl (fun m e => m.assign e.1 e.2) m).entries) :
    entry ∈ m.entries ∨ entry ∈ pairs ∧ entry.1 ≠ "__proto__" := by
  induction pairs generalizing m with
  | nil => exact Or.inl h
  | cons pair pairs ih =>
    rw [List.foldl_cons] at h
    rcases ih h with hassigned | ⟨hmem, hset⟩
    · unfold assign at hassigned
      split at hassigned
      · exact Or.inl hassigned
      · next hset =>
        rcases mem_assignTo.mp hassigned with rfl | ⟨-, hold⟩
        · exact Or.inr ⟨List.mem_cons_self, hset⟩
        · exact Or.inl hold
    · exact Or.inr ⟨List.mem_cons_of_mem pair hmem, hset⟩

lemma mem_ofList {pairs : List (String × α)} {entry : String × α}
    (h : entry ∈ (ofList pairs).entries) : entry ∈ pairs ∧ entry.1 ≠ "__proto__" :=
  (mem_foldl_assign h).resolve_left List.not_mem_nil

end KeyMap

namespace Path

/-! ## Elements that were read can be read again -/

lemma ofList_plain_ne {ms : List Mark} (h : ms ≠ []) : String.ofList (plain ms) ≠ "" := by
  intro hempty
  exact h (plain_eq_nil.mp (String.ofList_eq_empty_iff.mp hempty))

lemma KeyGroup.IsFilled.isReadable {g : KeyGroup} (h : g.IsFilled)
    (hset : g.entry.1 ≠ "__proto__") : IsReadable g.entry :=
  ⟨ofList_plain_ne h.named, hset, _, ofList_plain_ne h.valued, rfl⟩

lemma parseElem_readable {text : String} {e : PathElem} (h : parseElem text = .ok e) :
    e.IsReadable := by
  obtain ⟨name, groups, element, rfl⟩ := isElement_of_parseElem h
  constructor
  · intro hkeys
    apply ofList_plain_ne
    apply element.named
    rintro rfl
    exact hkeys rfl
  · intro entry hentry
    obtain ⟨hmem, hset⟩ := KeyMap.mem_ofList hentry
    obtain ⟨g, hg, rfl⟩ := List.mem_map.mp hmem
    exact (element.filled g hg).isReadable hset

/-- Every element of a path that was read stands for its segment. -/
lemma elems_of_parse {text : String} {p : Path} (h : parse text = .ok p) :
    List.Forall₂ (fun segment e => parseElem segment = .ok e) (split text) p.elem := by
  rw [parse_eq] at h
  obtain ⟨elems, helems, rfl⟩ := map_eq_ok.mp h
  exact forall₂_of_mapM_ok helems

lemma parse_readable {text : String} {p : Path} (h : parse text = .ok p) :
    ∀ e ∈ p.elem, e.IsReadable := by
  intro e he
  obtain ⟨i, hi, rfl⟩ := List.mem_iff_getElem.mp he
  exact parseElem_readable ((List.forall₂_iff_get.mp (elems_of_parse h)).2 i
    ((elems_of_parse h).length_eq ▸ hi) hi)

/-! ## Brackets of segments -/

/-- Every segment but the last ends outside all groups. -/
lemma segments_closed {cs : List Char} :
    ∀ segment ∈ (segments cs).dropLast, Passes .initial segment .initial := by
  fun_induction segments cs with
  | case1 => simp
  | case2 cs hne ih =>
    by_cases hlast : segments (dropSlash (segment .initial cs).2) = []
    · simp [hlast]
    · rw [List.dropLast_cons_of_ne_nil hlast]
      intro piece hpiece
      rcases List.mem_cons.mp hpiece with rfl | hpiece
      · obtain ⟨s, hpasses, hend⟩ := passes_segment .initial cs
        have hrest : (segment .initial cs).2 ≠ [] := by
          intro hnil
          exact hlast (by simp [hnil, dropSlash, segments])
        exact hend hrest ▸ hpasses
      · exact ih piece hpiece

lemma split_closed {text segment : String} {i : Nat} (inside : i + 1 < (split text).length)
    (h : (split text)[i]? = some segment) : Passes .initial segment.toList .initial := by
  rw [split, List.length_map] at inside
  rw [split, List.getElem?_map, Option.map_eq_some_iff] at h
  obtain ⟨cs, hcs, rfl⟩ := h
  rw [String.toList_ofList]
  have hdrop : (segments (dropSlash text.toList)).dropLast[i]? = some cs := by
    rw [List.getElem?_dropLast, if_pos (Nat.lt_sub_of_add_lt inside), hcs]
  exact segments_closed cs (List.mem_of_getElem? hdrop)

/-- A bracket that the name of a segment leaves open, the segment leaves open too. -/
lemma opens_of_passes {before inBrackets : Bool} {cs name : List Char} {s : ScanState}
    (hcut : cut '[' cs = (name, none)) (hpasses : Passes ⟨inBrackets, false⟩ cs s)
    (hbefore : before = true → inBrackets = true) (hopens : opens before name = true) :
    s.inBrackets = true := by
  fun_induction cut '[' cs generalizing before inBrackets name with
  | case1 =>
    cases hcut
    cases hpasses
    exact hbefore hopens
  | case2 c cs text rest heq ih =>
    cases hcut
    cases hpasses with
    | cons _ hpasses =>
      cases hpasses with
      | cons _ hpasses =>
        have hnext : ScanState.next ⟨inBrackets, true⟩ c =
            ⟨if c = '[' then true else inBrackets, false⟩ := by
          unfold ScanState.next
          split <;> simp_all
        have hstate : (ScanState.next ⟨inBrackets, false⟩ '\\').next c =
            ⟨if c = '[' then true else inBrackets, false⟩ := hnext
        rw [hstate] at hpasses
        refine ih heq hpasses ?_ hopens
        split <;> simp_all
  | case3 => cases hcut
  | case4 c cs hpair hc text rest heq ih =>
    cases hcut
    cases hpasses with
    | cons _ hpasses =>
      by_cases hbackslash : c = '\\'
      · -- A backslash at the very end is all that is left.
        subst hbackslash
        cases cs with
        | nil =>
          cases heq
          cases hpasses
          exact hbefore hopens
        | cons d ds => exact absurd rfl (hpair d ds rfl)
      · rw [next_of_ne_backslash inBrackets hbackslash, if_neg hc] at hpasses
        refine ih heq hpasses ?_ hopens
        rw [if_neg hc]
        split <;> simp_all

/-- An element that leaves a bracket open, and is not the last of those read, stands for a segment
with key groups. -/
lemma grouped_of_leavesOpen {text : String} {p : Path} (h : parse text = .ok p) {i : Nat}
    (inside : i + 1 < p.elem.length) {segment : String} (hsegment : (split text)[i]? = some segment)
    {e : PathElem} (he : p.elem[i]? = some e) (hopen : e.leavesOpen = true) :
    ∃ name rest, cut '[' segment.toList = (name, some rest) := by
  rcases hcut : cut '[' segment.toList with ⟨name, rest⟩
  cases rest with
  | some rest => exact ⟨name, rest, rfl⟩
  | none =>
    exfalso
    have hall := elems_of_parse h
    have hclosed := split_closed (hall.length_eq ▸ inside) hsegment
    have hread : parseElem segment = .ok e := by
      obtain ⟨hi, rfl⟩ := List.getElem?_eq_some_iff.mp he
      obtain ⟨hi', rfl⟩ := List.getElem?_eq_some_iff.mp hsegment
      exact (List.forall₂_iff_get.mp hall).2 i hi' hi
    rw [parseElem, hcut] at hread
    have hname : e.name.toList = name := by
      rw [← Except.ok.inj hread, String.toList_ofList]
    have hopens := (Bool.and_eq_true_iff.mp hopen).2
    rw [hname] at hopens
    exact Bool.false_ne_true (opens_of_passes hcut hclosed (fun hbefore => hbefore) hopens)

/-- What is read from the text that is written for a path that was read: its rejoined elements,
without an empty name at the end. They are those of the path, less one empty name at the end, if and
only if no element but the last leaves a bracket of its name open. One that does stands for a segment
whose key groups have left no key. -/
theorem reread_path {text : String} {p : Path} (h : parse text = .ok p) :
    ∃ q, parse p.format = .ok q ∧
      q.same { p with elem := dropBlankEnd (rejoined p.elem) } = true ∧
      (q.same { p with elem := dropBlankEnd p.elem } = true ↔
        ∀ e ∈ p.elem.dropLast, e.leavesOpen = false) ∧
      (∀ (i : Nat) (segment : String) (e : PathElem), i + 1 < p.elem.length →
        (split text)[i]? = some segment → p.elem[i]? = some e → e.leavesOpen = true →
          e.key.entries = [] ∧ ∃ name rest, cut '[' segment.toList = (name, some rest)) := by
  obtain ⟨q, hparse, halike⟩ := parse_format p (parse_readable h)
  refine ⟨q, hparse, same_iff.mpr halike, ?_, ?_⟩
  · rw [same_iff]
    constructor
    · intro hsame
      exact closed_of_names (halike.names.symm.trans hsame.names)
    · intro closed
      rwa [rejoined_of_closed closed] at halike
  · intro i segment e inside hsegment he hopen
    exact ⟨List.isEmpty_iff.mp (Bool.and_eq_true_iff.mp hopen).1,
      grouped_of_leavesOpen h inside hsegment he hopen⟩

/-- The group `[__proto__=x]` closes the bracket of the first segment and leaves no key, so the second
reading misses the slash. -/
theorem reread_without_keys :
    ∃ p q, parse "/a\\[b[__proto__=x]/c" = .ok p ∧ parse p.format = .ok q ∧
      q.same { p with elem := dropBlankEnd p.elem } = false := by
  have h : parse "/a\\[b[__proto__=x]/c" =
      .ok { element := some ["a\\[b[__proto__=x]", "c"], elem := [⟨"a[b", ∅⟩, ⟨"c", ∅⟩] } := by
    decide +kernel
  obtain ⟨q, hq, -, hsame, -⟩ := reread_path h
  refine ⟨_, q, h, hq, ?_⟩
  rw [Bool.eq_false_iff, ne_eq, hsame]
  decide

end Path

end TelemetryBridge
