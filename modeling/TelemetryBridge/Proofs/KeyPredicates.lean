import TelemetryBridge.Proofs.ElementGrammar

/-!
# Key predicates of a segment

Seen by its brackets alone, a segment has a predicate in every stretch from an unescaped opening
bracket to the next unescaped closing one. Reading looks for the equals sign first. So where the name
of a group holds an unescaped closing bracket, stretches are merged into one group, and a group that
is named `__proto__` is lost. In every other segment that is read no predicate is.
-/

namespace TelemetryBridge

/-! ## What a key map finds -/

namespace KeyMap

variable {α : Type}

lemma get?_assign (m : KeyMap α) (name key : String) (value : α) :
    (m.assign name value).get? key =
      if key = name ∧ name ≠ "__proto__" then some value else m.get? key := by
  by_cases hset : name = "__proto__"
  · rw [assign, if_pos hset, if_neg fun h => h.2 hset]
  · have hentries : (m.assign name value).entries = assignTo name value m.entries := by
      rw [assign, if_neg hset]
    ext v
    rw [get?, lookup_iff_mem (m.assign name value).nodup, hentries, mem_assignTo]
    by_cases hkey : key = name
    · simp [hkey, hset, eq_comm]
    · rw [if_neg fun h => hkey h.1, get?, lookup_iff_mem m.nodup]
      simp [hkey]

/-- Of several assignments to a name the last one counts. -/
lemma get?_foldl_assign (pairs : List (String × α)) (m : KeyMap α) (key : String) :
    (pairs.foldl (fun m e => m.assign e.1 e.2) m).get? key =
      if key = "__proto__" then m.get? key else (pairs.reverse.lookup key).or (m.get? key) := by
  induction pairs generalizing m with
  | nil => simp
  | cons pair pairs ih =>
    obtain ⟨name, value⟩ := pair
    rw [List.foldl_cons, ih, get?_assign, List.reverse_cons, List.lookup_append]
    by_cases hproto : key = "__proto__"
    · rw [if_pos hproto, if_pos hproto, if_neg]
      rintro ⟨rfl, hset⟩
      exact hset hproto
    · rw [if_neg hproto, if_neg hproto, Option.or_assoc]
      by_cases hkey : key = name
      · subst hkey
        simp [hproto]
      · simp [hkey, List.lookup_cons, beq_false_of_ne hkey]

lemma get?_ofList (pairs : List (String × α)) (key : String) :
    (ofList pairs).get? key = if key = "__proto__" then none else pairs.reverse.lookup key := by
  have hempty : (∅ : KeyMap α).get? key = none := rfl
  rw [ofList, get?_foldl_assign, hempty, Option.or_none]

lemma mem_names {m : KeyMap α} {key : String} : key ∈ m.names ↔ (m.get? key).isSome = true := by
  rw [get?, List.lookup_isSome_iff, names, List.mem_map]
  simp only [beq_iff_eq, eq_comm (a := key)]

end KeyMap

namespace Path

/-! ## Stretches between brackets -/

/-- What stands between an unescaped opening bracket and the next unescaped closing one, stretch by
stretch. A stretch that has begun comes with its marks so far. -/
def stretches : Option (List Mark) → List Mark → List (List Mark)
  | _, [] => []
  | none, m :: ms => stretches (if m = bare '[' then some [] else none) ms
  | some inside, m :: ms =>
    if m = bare ']' then inside :: stretches none ms else stretches (some (inside ++ [m])) ms

/-- A stretch as a key: the name up to its first unescaped equals sign, and the value behind it. -/
def stretchEntry (stretch : List Mark) : String × Option String :=
  (.ofList (plain (stretch.takeWhile (· ≠ bare '='))),
    some (.ofList (plain (stretch.dropWhile (· ≠ bare '=')).tail)))

/-- Whether no predicate of a text is lost or merged: every stretch has an equals sign, there is a key
for every name that a stretch gives and no other, and its value is that of the last such stretch. -/
structure KeepsPredicates (text : List Mark) (keys : KeyMap (Option String)) : Prop where
  equals : ∀ stretch ∈ stretches none text, bare '=' ∈ stretch
  names : ∀ key, key ∈ keys.names ↔ ∃ stretch ∈ stretches none text, (stretchEntry stretch).1 = key
  values : ∀ key ∈ keys.names,
    keys.get? key = ((stretches none text).map stretchEntry).reverse.lookup key

lemma stretches_outside {ms : List Mark} (h : bare '[' ∉ ms) (rest : List Mark) :
    stretches none (ms ++ rest) = stretches none rest := by
  induction ms with
  | nil => rfl
  | cons m ms ih =>
    obtain ⟨hne, h⟩ := not_or.mp fun hm => h (List.mem_cons.mpr hm)
    rw [List.cons_append, stretches, if_neg (Ne.symm hne), ih h]

lemma stretches_inside {ms : List Mark} (h : bare ']' ∉ ms) (inside rest : List Mark) :
    stretches (some inside) (ms ++ bare ']' :: rest) = (inside ++ ms) :: stretches none rest := by
  induction ms generalizing inside with
  | nil => rw [List.nil_append, stretches, if_pos rfl, List.append_nil]
  | cons m ms ih =>
    obtain ⟨hne, h⟩ := not_or.mp fun hm => h (List.mem_cons.mpr hm)
    rw [List.cons_append, stretches, if_neg (Ne.symm hne), ih h, List.append_assoc]
    rfl

lemma stretches_bracketed {ms : List Mark} (h : bare ']' ∉ ms) (rest : List Mark) :
    stretches none (bare '[' :: (ms ++ bare ']' :: rest)) = ms :: stretches none rest := by
  rw [stretches, if_pos rfl, stretches_inside h, List.nil_append]

namespace KeyGroup

/-- What stands between the brackets of a group. -/
def inside (g : KeyGroup) : List Mark := g.name ++ bare '=' :: g.value

lemma written_eq (g : KeyGroup) (rest : List Mark) :
    g.written ++ rest = bare '[' :: (g.inside ++ bare ']' :: rest) := by
  simp [written, inside]

lemma IsDelimited.notMem_inside {g : KeyGroup} (h : g.IsDelimited) (closed : bare ']' ∉ g.name) :
    bare ']' ∉ g.inside := by
  have hne : bare ']' ≠ bare '=' := by decide
  simp [inside, closed, hne, h.value]

lemma IsDelimited.stretchEntry_inside {g : KeyGroup} (h : g.IsDelimited) :
    stretchEntry g.inside = g.entry := by
  have hfree : ∀ m ∈ g.name, (decide (m ≠ bare '=')) = true := by
    intro m hm
    rw [decide_eq_true_iff]
    rintro rfl
    exact h.name hm
  rw [stretchEntry, inside, List.takeWhile_append_of_pos hfree, List.dropWhile_append_of_pos hfree]
  simp [entry]

end KeyGroup

variable {gs : List KeyGroup}

/-- Groups whose names hold no unescaped closing bracket are the stretches of the text. -/
lemma stretches_of_closed (delimited : ∀ g ∈ gs, g.IsDelimited)
    (closed : ∀ g ∈ gs, bare ']' ∉ g.name) :
    stretches none (gs.flatMap KeyGroup.written) = gs.map KeyGroup.inside := by
  induction gs with
  | nil => rfl
  | cons g gs ih =>
    obtain ⟨hg, delimited⟩ := List.forall_mem_cons.mp delimited
    obtain ⟨hclosed, closed⟩ := List.forall_mem_cons.mp closed
    rw [List.flatMap_cons, KeyGroup.written_eq, stretches_bracketed (hg.notMem_inside hclosed),
      ih delimited closed, List.map_cons]

/-- If every stretch has an equals sign, no name of a group holds an unescaped closing bracket. -/
lemma closed_of_stretches (delimited : ∀ g ∈ gs, g.IsDelimited)
    (equals : ∀ stretch ∈ stretches none (gs.flatMap KeyGroup.written), bare '=' ∈ stretch) :
    ∀ g ∈ gs, bare ']' ∉ g.name := by
  induction gs with
  | nil => exact fun g hg => absurd hg List.not_mem_nil
  | cons g gs ih =>
    obtain ⟨hg, delimited⟩ := List.forall_mem_cons.mp delimited
    have hclosed : bare ']' ∉ g.name := by
      intro hmem
      -- The first stretch ends inside the name, before the equals sign.
      obtain ⟨before, after, hname, hbefore⟩ := List.eq_append_cons_of_mem hmem
      have hfirst : before ∈ stretches none ((g :: gs).flatMap KeyGroup.written) := by
        rw [List.flatMap_cons, KeyGroup.written_append, hname, List.append_assoc,
          List.cons_append, stretches_bracketed hbefore]
        exact List.mem_cons_self
      apply hg.name
      rw [hname]
      exact List.mem_append_left _ (equals before hfirst)
    rw [List.flatMap_cons, KeyGroup.written_eq,
      stretches_bracketed (hg.notMem_inside hclosed)] at equals
    exact List.forall_mem_cons.mpr ⟨hclosed, ih delimited (List.forall_mem_cons.mp equals).2⟩

/-! ## What is kept -/

section

variable {name : List Mark} {groups : List KeyGroup}

/-- There is a key for every name of a group that can be set, and no other. -/
lemma mem_names_elementOf {key : String} : key ∈ (elementOf name groups).key.names ↔
    key ≠ "__proto__" ∧ ∃ g ∈ groups, g.entry.1 = key := by
  rw [KeyMap.mem_names, elementOf, KeyMap.get?_ofList]
  by_cases hproto : key = "__proto__"
  · simp [hproto]
  · rw [if_neg hproto, List.lookup_isSome_iff, and_iff_right hproto]
    simp only [List.mem_reverse, List.mem_map, exists_exists_and_eq_and, beq_iff_eq,
      eq_comm (a := key)]

namespace IsElement

variable {text : List Mark} (h : IsElement text name groups)

include h

lemma stretches_eq : stretches none text = stretches none (groups.flatMap KeyGroup.written) := by
  rw [h.text, stretches_outside h.nameEnds]

lemma isDelimited : ∀ g ∈ groups, g.IsDelimited := fun g hg => (h.filled g hg).toIsDelimited

lemma map_stretchEntry (closed : ∀ g ∈ groups, bare ']' ∉ g.name) :
    (stretches none text).map stretchEntry = groups.map KeyGroup.entry := by
  rw [h.stretches_eq, stretches_of_closed h.isDelimited closed, List.map_map]
  apply List.map_congr_left
  intro g hg
  exact (h.isDelimited g hg).stretchEntry_inside

lemma exists_stretch (closed : ∀ g ∈ groups, bare ']' ∉ g.name) {key : String} :
    (∃ stretch ∈ stretches none text, (stretchEntry stretch).1 = key) ↔
      ∃ g ∈ groups, g.entry.1 = key := by
  have hentries : (∃ entry ∈ (stretches none text).map stretchEntry, entry.1 = key) ↔
      ∃ entry ∈ groups.map KeyGroup.entry, entry.1 = key := by
    rw [h.map_stretchEntry closed]
  simpa only [List.mem_map, exists_exists_and_eq_and] using hentries

lemma closed_of_keeps {keys : KeyMap (Option String)} (kept : KeepsPredicates text keys) :
    ∀ g ∈ groups, bare ']' ∉ g.name :=
  closed_of_stretches h.isDelimited (h.stretches_eq ▸ kept.equals)

lemma keeps_of_closed (closed : ∀ g ∈ groups, bare ']' ∉ g.name)
    (settable : ∀ g ∈ groups, g.entry.1 ≠ "__proto__") :
    KeepsPredicates text (elementOf name groups).key := by
  refine ⟨?_, ?_, ?_⟩
  · intro stretch hstretch
    rw [h.stretches_eq, stretches_of_closed h.isDelimited closed] at hstretch
    obtain ⟨g, -, rfl⟩ := List.mem_map.mp hstretch
    simp [KeyGroup.inside]
  · intro key
    rw [mem_names_elementOf, h.exists_stretch closed]
    constructor
    · exact And.right
    · rintro ⟨g, hg, rfl⟩
      exact ⟨settable g hg, g, hg, rfl⟩
  · intro key hkey
    rw [h.map_stretchEntry closed, elementOf, KeyMap.get?_ofList,
      if_neg (mem_names_elementOf.mp hkey).1]

end IsElement

end

/-- A segment that is read has the keys of its groups, each with the value of the last group of that
name, save that no key has the name `__proto__`. No predicate is lost or merged if and only if no
group has that name, and none has an unescaped closing bracket in its name. -/
theorem predicates_kept_iff {text : String} {e : PathElem} (h : parseElem text = .ok e) :
    ∃ name groups, IsElement (marks text.toList) name groups ∧
      (∀ key, e.key.get? key =
        if key = "__proto__" then none else (groups.map KeyGroup.entry).reverse.lookup key) ∧
      (KeepsPredicates (marks text.toList) e.key ↔
        ∀ g ∈ groups, bare ']' ∉ g.name ∧ g.entry.1 ≠ "__proto__") := by
  obtain ⟨name, groups, element, rfl⟩ := isElement_of_parseElem h
  refine ⟨name, groups, element, KeyMap.get?_ofList _, ?_⟩
  constructor
  · intro kept g hg
    have hclosed := element.closed_of_keeps kept
    have hkey : g.entry.1 ∈ (elementOf name groups).key.names :=
      (kept.names _).mpr ((element.exists_stretch hclosed).mpr ⟨g, hg, rfl⟩)
    exact ⟨hclosed g hg, (mem_names_elementOf.mp hkey).1⟩
  · intro hgroups
    exact element.keeps_of_closed (fun g hg => (hgroups g hg).1) fun g hg => (hgroups g hg).2

/-- Of three predicates one key is left: the first has no equals sign and is merged with the second,
and the third is lost. -/
theorem merged_and_lost :
    let text := "a[name][k=v][__proto__=x]"
    ∃ e, parseElem text = .ok e ∧ e.key.entries = [("name][k", some "v")] ∧
      (stretches none (marks text.toList)).map plain =
        ["name".toList, "k=v".toList, "__proto__=x".toList] ∧
      ¬KeepsPredicates (marks text.toList) e.key ∧
      ∃ name groups, IsElement (marks text.toList) name groups ∧
        ∃ g ∈ groups, bare ']' ∈ g.name ∨ g.entry.1 = "__proto__" := by
  intro text
  have h : parseElem text = .ok ⟨"a", ⟨[("name][k", some "v")], by decide⟩⟩ := by decide +kernel
  have hkept : ¬KeepsPredicates (marks text.toList) ⟨[("name][k", some "v")], by decide⟩ := by
    intro kept
    have hequals := kept.equals
    revert hequals
    decide +kernel
  obtain ⟨name, groups, element, -, hiff⟩ := predicates_kept_iff h
  refine ⟨_, h, rfl, by decide +kernel, hkept, name, groups, element, ?_⟩
  by_contra hnone
  apply hkept
  apply hiff.mpr
  intro g hg
  exact not_or.mp fun hor => hnone ⟨g, hg, hor⟩

end Path

end TelemetryBridge
