import Mathlib.Data.List.Forall2
import Mathlib.Data.List.Nodup
import Mathlib.Data.List.Perm.Basic
import TelemetryBridge.Path.Parser
import TelemetryBridge.Path.Printer

/-!
# Written paths

How the scanners of a path text see what was written for an element. `Spells` says that a text is
read as another wherever it stands, and `Passes` that a scan runs over a text without a cut. An
element that was written is read as the same element, with its keys in whatever order.
-/

namespace TelemetryBridge

namespace KeyMap

variable {α : Type}

lemma lookup_iff_mem {entries : List (String × α)} (nodup : (entries.map Prod.fst).Nodup)
    {name : String} {value : α} : entries.lookup name = some value ↔ (name, value) ∈ entries := by
  induction entries with
  | nil => simp
  | cons e entries ih =>
    obtain ⟨other, v⟩ := e
    obtain ⟨fresh, nodup⟩ := List.nodup_cons.mp nodup
    by_cases h : name = other
    · subst h
      have hne : (name, value) ∉ entries := fun hm =>
        fresh (List.mem_map.mpr ⟨_, hm, rfl⟩)
      simp [hne, eq_comm]
    · simp [List.lookup_cons, beq_false_of_ne h, h, ih nodup]

/-- Maps are the same if one lists the entries of the other in some order. -/
lemma same_iff_perm [DecidableEq α] {a b : KeyMap α} :
    a.same b = true ↔ a.entries.Perm b.entries := by
  have hmem : ∀ e : String × α, (b.get? e.1 == some e.2) = true ↔ e ∈ b.entries := by
    intro e
    rw [beq_iff_eq, get?, lookup_iff_mem b.nodup]
  simp only [same, Bool.and_eq_true, beq_iff_eq, List.all_eq_true, hmem]
  constructor
  · rintro ⟨length, subset⟩
    exact (List.subperm_of_subset (List.Nodup.of_map _ a.nodup) subset).perm_of_length_le
      (Nat.le_of_eq length.symm)
  · intro h
    exact ⟨h.length_eq, fun e he => h.subset he⟩

lemma mem_assignTo {name : String} {value : α} {entries : List (String × α)} {e : String × α} :
    e ∈ assignTo name value entries ↔ e = (name, value) ∨ e.1 ≠ name ∧ e ∈ entries := by
  by_cases hn : name ∈ entries.map Prod.fst
  · rw [assignTo, if_pos (by simpa using hn), List.mem_map]
    constructor
    · rintro ⟨old, hold, rfl⟩
      by_cases h : old.1 = name
      · exact Or.inl (if_pos h)
      · rw [if_neg h]
        exact Or.inr ⟨h, hold⟩
    · rintro (rfl | ⟨h, he⟩)
      · obtain ⟨old, hold, h⟩ := List.mem_map.mp hn
        exact ⟨old, hold, if_pos h⟩
      · exact ⟨e, he, if_neg h⟩
  · rw [(assignTo_perm value hn).mem_iff, List.mem_cons]
    apply or_congr_right
    constructor
    · intro he
      exact ⟨fun h => hn (List.mem_map.mpr ⟨e, he, h⟩), he⟩
    · exact And.right

/-- Entries of different names that can all be set are all found in the map made of them. -/
lemma foldl_assign_perm (entries : List (String × α)) (m : KeyMap α)
    (nodup : (m.names ++ entries.map Prod.fst).Nodup)
    (settable : "__proto__" ∉ entries.map Prod.fst) :
    (entries.foldl (fun m e => m.assign e.1 e.2) m).entries.Perm (m.entries ++ entries) := by
  induction entries generalizing m with
  | nil => simp
  | cons e entries ih =>
    rw [List.map_cons, List.mem_cons, not_or] at settable
    obtain ⟨hset, settable⟩ := settable
    have hfresh : e.1 ∉ m.entries.map Prod.fst := fun he =>
      (List.nodup_append.mp nodup).2.2 e.1 he e.1 (by simp) rfl
    have hassign : (m.assign e.1 e.2).entries.Perm (e :: m.entries) := by
      rw [assign, if_neg (Ne.symm hset)]
      exact assignTo_perm e.2 hfresh
    have hnames : ((m.assign e.1 e.2).names ++ entries.map Prod.fst).Perm
        (m.names ++ (e :: entries).map Prod.fst) :=
      ((hassign.map Prod.fst).append_right _).trans List.perm_middle.symm
    calc ((e :: entries).foldl (fun m e => m.assign e.1 e.2) m).entries
      _ |>.Perm ((m.assign e.1 e.2).entries ++ entries) :=
        ih _ (hnames.nodup_iff.mpr nodup) settable
      _ |>.Perm (e :: m.entries ++ entries) := hassign.append_right entries
      _ |>.Perm (m.entries ++ e :: entries) := List.perm_middle.symm

end KeyMap

namespace Path

/-! ## Texts that are read as others -/

/-- Wherever the raw text stands, it is read as the plain one, and reading goes on behind it. -/
def Spells (stop : Char) (raw plain : List Char) : Prop :=
  ∀ rest, cut stop (raw ++ rest) = (plain ++ (cut stop rest).1, (cut stop rest).2)

section

variable {stop : Char} {raw plain raw' plain' : List Char}

lemma spells_nil : Spells stop [] [] := fun _ => rfl

lemma Spells.append (h : Spells stop raw plain) (h' : Spells stop raw' plain') :
    Spells stop (raw ++ raw') (plain ++ plain') := by
  intro rest
  rw [List.append_assoc, h, h', List.append_assoc]

lemma spells_escaped (c : Char) : Spells stop ['\\', c] [c] := fun _ => rfl

lemma spells_plain {c : Char} (stays : c ≠ stop) (plain : c ≠ '\\') : Spells stop [c] [c] := by
  intro rest
  rw [List.singleton_append, cut, if_neg stays]
  · rfl
  · intro _ _ heq _
    exact plain heq

lemma escape_cons (special : Char → Bool) (c : Char) (cs : List Char) :
    escape special (c :: cs) = escape special [c] ++ escape special cs := by
  simp [escape]

/-- A text in which the stop is escaped is read as it was. -/
lemma spells_escape {special : Char → Bool} (h : special stop = true) (cs : List Char) :
    Spells stop (escape special cs) cs := by
  induction cs with
  | nil => exact spells_nil
  | cons c cs ih =>
    have hc : Spells stop (escape special [c]) [c] := by
      by_cases hspecial : c = '\\' ∨ special c = true
      · have hescaped : escape special [c] = ['\\', c] := by simp [escape, hspecial]
        rw [hescaped]
        exact spells_escaped c
      · have hplain : escape special [c] = [c] := by simp [escape, hspecial]
        obtain ⟨hbackslash, hspecial⟩ := not_or.mp hspecial
        have hstop : c ≠ stop := by
          rintro rfl
          exact hspecial h
        rw [hplain]
        exact spells_plain hstop hbackslash
    rw [escape_cons]
    exact hc.append ih

lemma spells_name (name : List Char) :
    Spells '[' (escape (fun c => c == '/' || c == '[') name) name :=
  spells_escape rfl name

lemma spells_keyName (name : List Char) :
    Spells '=' (escape (fun c => c == '=' || c == ']') name) name :=
  spells_escape rfl name

lemma spells_keyValue (value : List Char) : Spells ']' (escape (· == ']') value) value :=
  spells_escape rfl value

lemma Spells.cut_eq (h : Spells stop raw plain) : cut stop raw = (plain, none) := by
  have hall := h []
  rwa [List.append_nil, cut, List.append_nil] at hall

lemma Spells.cut_stop (h : Spells stop raw plain) (hstop : stop ≠ '\\') (rest : List Char) :
    cut stop (raw ++ stop :: rest) = (plain, some rest) := by
  have hrest : cut stop (stop :: rest) = ([], some rest) := by
    rw [cut, if_pos rfl]
    intro _ _ heq _
    exact hstop heq
  rw [h, hrest, List.append_nil]

lemma Spells.eq_nil_iff (h : Spells stop raw plain) : raw = [] ↔ plain = [] := by
  have hcut := h.cut_eq
  constructor
  · rintro rfl
    exact (congrArg Prod.fst hcut).symm
  · rintro rfl
    unfold cut at hcut
    split at hcut
    · rfl
    · simp at hcut
    · split at hcut <;> simp at hcut

end

/-! ## Keys -/

/-- A key that is read as it was written: its name can be set, and neither its name nor its value is
empty. -/
def IsReadable (entry : String × Option String) : Prop :=
  entry.1 ≠ "" ∧ entry.1 ≠ "__proto__" ∧ ∃ value ≠ "", entry.2 = some value

lemma group_writeKey {name value : String} (hname : name ≠ "") (hvalue : value ≠ "")
    (rest : List Char) : group (writeKey (name, some value) ++ rest) = .ok (name, value, rest) := by
  have hwritten : writeKey (name, some value) ++ rest =
      '[' :: (escape (fun c => c == '=' || c == ']') name.toList ++
        '=' :: (escape (· == ']') value.toList ++ ']' :: rest)) := by
    simp [writeKey]
  have hcutName := (spells_keyName name.toList).cut_stop (by decide)
    (escape (· == ']') value.toList ++ ']' :: rest)
  have hcutValue := (spells_keyValue value.toList).cut_stop (by decide) rest
  rw [hwritten]
  simp only [group, hcutName]
  cases hn : name.toList with
  | nil => exact absurd hn (by simpa using hname)
  | cons c cs =>
    simp only [hcutValue]
    cases hv : value.toList with
    | nil => exact absurd hv (by simpa using hvalue)
    | cons d ds =>
      simp only [← hn, ← hv, String.ofList_toList]

lemma groups_writeKeys {entries : List (String × Option String)}
    (readable : ∀ entry ∈ entries, IsReadable entry) (keys : KeyMap (Option String)) :
    groups keys (entries.flatMap writeKey) =
      .ok (entries.foldl (fun m e => m.assign e.1 e.2) keys) := by
  induction entries generalizing keys with
  | nil =>
    rw [List.flatMap_nil, groups, if_pos rfl]
    rfl
  | cons entry entries ih =>
    obtain ⟨name, value⟩ := entry
    obtain ⟨hname, -, value, hvalue, rfl⟩ := readable _ List.mem_cons_self
    have hne : writeKey (name, some value) ++ entries.flatMap writeKey ≠ [] := by simp [writeKey]
    rw [List.flatMap_cons, groups, if_neg hne]
    split
    · next herror =>
      rw [group_writeKey hname hvalue] at herror
      cases herror
    · next hok =>
      rw [group_writeKey hname hvalue] at hok
      cases hok
      exact ih (fun e he => readable e (List.mem_cons_of_mem _ he)) _

/-! ## Scans that cut nothing -/

/-- A scan runs over the text without a cut, from one state to the other. -/
inductive Passes : ScanState → List Char → ScanState → Prop
  | nil (s : ScanState) : Passes s [] s
  | cons {s s' : ScanState} {c : Char} {cs : List Char} (kept : s.cuts c = false)
      (rest : Passes (s.next c) cs s') : Passes s (c :: cs) s'

section

variable {s s' s'' : ScanState} {cs cs' : List Char}

lemma Passes.append (h : Passes s cs s') (h' : Passes s' cs' s'') : Passes s (cs ++ cs') s'' := by
  induction h with
  | nil => exact h'
  | cons kept _ ih => exact .cons kept (ih h')

lemma Passes.single {c : Char} (kept : s.cuts c = false) (moved : s.next c = s') :
    Passes s [c] s' :=
  moved ▸ .cons kept (.nil _)

lemma Passes.segment_append (h : Passes s cs s') (rest : List Char) :
    segment s (cs ++ rest) = (cs ++ (segment s' rest).1, (segment s' rest).2) := by
  induction h with
  | nil => rfl
  | cons kept _ ih =>
    rw [List.cons_append, segment, kept, ih]
    rfl

/-- A scan runs over what it yields as a segment. -/
lemma passes_segment (s : ScanState) (cs : List Char) :
    ∃ s', Passes s (segment s cs).1 s' ∧
      ((segment s cs).2 ≠ [] → s' = .initial) := by
  induction cs generalizing s with
  | nil => exact ⟨s, .nil s, fun h => absurd rfl h⟩
  | cons c cs ih =>
    rw [segment]
    by_cases hcut : s.cuts c = true
    · rw [if_pos hcut]
      refine ⟨s, .nil s, fun _ => ?_⟩
      obtain ⟨inBrackets, escaped⟩ := s
      simp only [ScanState.cuts, Bool.and_eq_true, Bool.not_eq_true'] at hcut
      rw [hcut.1.2, hcut.2]
      rfl
    · rw [if_neg hcut]
      obtain ⟨s', hpasses, hend⟩ := ih (s.next c)
      exact ⟨s', .cons (Bool.not_eq_true _ ▸ hcut) hpasses, hend⟩

lemma Passes.segments_eq (h : Passes .initial cs s) (hne : cs ≠ []) : segments cs = [cs] := by
  have hsegment := h.segment_append []
  rw [List.append_nil, segment, List.append_nil] at hsegment
  rw [segments, dif_neg hne, hsegment]
  simp [dropSlash, segments]

lemma Passes.segments_cut (h : Passes .initial cs .initial) (rest : List Char) :
    segments (cs ++ '/' :: rest) = cs :: segments rest := by
  have hsegment := h.segment_append ('/' :: rest)
  have hcut : segment .initial ('/' :: rest) = ([], '/' :: rest) := by
    rw [segment]
    rfl
  rw [hcut, List.append_nil] at hsegment
  rw [segments, dif_neg (by simp), hsegment]
  rfl

end

/-! ## Scans of what was written -/

/-- Whether a bracket stands open behind a name. An escaped bracket counts like any other. -/
def opens (before : Bool) : List Char → Bool
  | [] => before
  | c :: cs => opens (if c = '[' then true else if c = ']' then false else before) cs

lemma opens_append (before : Bool) (cs cs' : List Char) :
    opens before (cs ++ cs') = opens (opens before cs) cs' := by
  induction cs generalizing before with
  | nil => rfl
  | cons c cs ih => exact ih _

lemma next_of_ne_backslash (before : Bool) {c : Char} (h : c ≠ '\\') :
    ScanState.next ⟨before, false⟩ c =
      ⟨if c = '[' then true else if c = ']' then false else before, false⟩ := by
  unfold ScanState.next
  split <;> simp_all

lemma cuts_of_ne_slash (s : ScanState) {c : Char} (h : c ≠ '/') : s.cuts c = false := by
  rw [ScanState.cuts, beq_false_of_ne h, Bool.false_and, Bool.false_and]

/-- No slash of an escaped name cuts it, and its brackets count although they are escaped. -/
lemma passes_name (before : Bool) (cs : List Char) :
    Passes ⟨before, false⟩ (escape (fun c => c == '/' || c == '[') cs)
      ⟨opens before cs, false⟩ := by
  induction cs generalizing before with
  | nil => exact .nil _
  | cons c cs ih =>
    have hc : Passes ⟨before, false⟩ (escape (fun c => c == '/' || c == '[') [c])
        ⟨if c = '[' then true else if c = ']' then false else before, false⟩ := by
      by_cases hspecial : c = '\\' ∨ c = '/' ∨ c = '['
      · rcases hspecial with rfl | rfl | rfl <;> cases before <;>
          exact .cons rfl (.cons rfl (.nil _))
      · obtain ⟨hbackslash, hslash, hbracket⟩ := not_or.mp hspecial |>.imp_right not_or.mp
        have hplain : escape (fun c => c == '/' || c == '[') [c] = [c] := by
          simp [escape, hbackslash, hslash, hbracket]
        rw [hplain]
        exact .single (cuts_of_ne_slash _ hslash) (next_of_ne_backslash before hbackslash)
    rw [escape_cons]
    exact hc.append (ih _)

/-- Inside a key group no slash cuts, and an escaped bracket does not close it. -/
lemma passes_inside (special : Char → Bool) (h : special ']' = true) (cs : List Char) :
    Passes ⟨true, false⟩ (escape special cs) ⟨true, false⟩ := by
  induction cs with
  | nil => exact .nil _
  | cons c cs ih =>
    have hc : Passes ⟨true, false⟩ (escape special [c]) ⟨true, false⟩ := by
      have hkept (escaped : Bool) : ScanState.cuts ⟨true, escaped⟩ c = false := by
        simp [ScanState.cuts]
      by_cases hbackslash : c = '\\'
      · subst hbackslash
        exact .cons rfl (.cons rfl (.nil _))
      · by_cases hspecial : special c = true
        · have hescaped : escape special [c] = ['\\', c] := by simp [escape, hspecial]
          have hnext : ScanState.next ⟨true, true⟩ c = ⟨true, false⟩ := by
            unfold ScanState.next
            split <;> simp_all
          rw [hescaped]
          exact .cons rfl (.single (hkept true) hnext)
        · have hplain : escape special [c] = [c] := by simp [escape, hbackslash, hspecial]
          have hclosing : c ≠ ']' := fun heq => hspecial (heq ▸ h)
          have hnext : ScanState.next ⟨true, false⟩ c = ⟨true, false⟩ := by
            rw [next_of_ne_backslash true hbackslash, if_neg hclosing, ite_self]
          rw [hplain]
          exact .single (hkept false) hnext
    rw [escape_cons]
    exact hc.append ih

lemma passes_writeKey (before : Bool) (entry : String × Option String) :
    Passes ⟨before, false⟩ (writeKey entry) .initial := by
  have hname := passes_inside (fun c => c == '=' || c == ']') rfl entry.1.toList
  have hvalue := passes_inside (· == ']') rfl (entry.2.getD "").toList
  have hopen : Passes ⟨before, false⟩ ['['] ⟨true, false⟩ := .single rfl rfl
  have hequals : Passes ⟨true, false⟩ ['='] ⟨true, false⟩ := .single rfl rfl
  have hclose : Passes ⟨true, false⟩ [']'] .initial := .single rfl rfl
  simpa [writeKey] using hopen.append (hname.append (hequals.append (hvalue.append hclose)))

/-- Behind key groups no bracket stands open. -/
lemma passes_writeKeys (before : Bool) (entries : List (String × Option String)) :
    Passes ⟨before, false⟩ (entries.flatMap writeKey) ⟨entries.isEmpty && before, false⟩ := by
  induction entries generalizing before with
  | nil => exact .nil _
  | cons entry entries ih =>
    have h := (passes_writeKey before entry).append (ih false)
    rwa [Bool.and_false] at h

end Path

/-! ## Elements -/

namespace PathElem

/-- An element whose keys are read as they were written. Without keys its name may be empty. -/
structure IsReadable (e : PathElem) : Prop where
  named : e.key.entries ≠ [] → e.name ≠ ""
  keys : ∀ entry ∈ e.key.entries, Path.IsReadable entry

lemma same_iff {a b : PathElem} :
    a.same b = true ↔ a.name = b.name ∧ a.key.entries.Perm b.key.entries := by
  rw [same, Bool.and_eq_true, beq_iff_eq, KeyMap.same_iff_perm]

lemma sorted_perm (e : PathElem) : e.key.sorted.Perm e.key.entries := List.mergeSort_perm _ _

/-- The name of an element may be spelled in any way; the keys behind it are those written. -/
lemma parseElem_written {e : PathElem} (he : e.IsReadable) {raw : List Char}
    (spelled : Path.Spells '[' raw e.name.toList) :
    ∃ e', Path.parseElem (.ofList (raw ++ e.key.sorted.flatMap Path.writeKey)) = .ok e' ∧
      e'.same e = true := by
  cases hkeys : e.key.sorted with
  | nil =>
    refine ⟨⟨e.name, ∅⟩, ?_, same_iff.mpr ⟨rfl, ?_⟩⟩
    · simp [Path.parseElem, spelled.cut_eq]
    · exact (hkeys ▸ e.sorted_perm : List.Perm [] e.key.entries)
  | cons entry entries =>
    have hperm := hkeys ▸ e.sorted_perm
    have readable : ∀ entry' ∈ entry :: entries, Path.IsReadable entry' :=
      fun entry' h => he.keys entry' (hperm.subset h)
    have hwritten : ∃ rest, (entry :: entries).flatMap Path.writeKey = '[' :: rest := by
      simp [Path.writeKey]
    obtain ⟨rest, hrest⟩ := hwritten
    have hnamed : e.name.toList ≠ [] := by
      have hne : e.key.entries ≠ [] := by
        intro hnil
        exact List.cons_ne_nil _ _ (List.nil_perm.mp (hnil ▸ hperm).symm)
      simpa using he.named hne
    obtain ⟨c, cs, hname⟩ := List.exists_cons_of_ne_nil hnamed
    have hgroups := Path.groups_writeKeys readable ∅
    have hcut := spelled.cut_stop (by decide) rest
    refine ⟨⟨e.name, (entry :: entries).foldl (fun m e => m.assign e.1 e.2) ∅⟩, ?_,
      same_iff.mpr ⟨rfl, ?_⟩⟩
    · rw [hrest, Path.parseElem, String.toList_ofList, hcut, hname]
      rw [hrest] at hgroups
      simp only [hgroups, bind, Except.bind, pure, Except.pure]
      rw [← hname, String.ofList_toList]
    · have hnodup : ((entry :: entries).map Prod.fst).Nodup :=
        (hperm.map Prod.fst).nodup_iff.mpr e.key.nodup
      have hset : "__proto__" ∉ (entry :: entries).map Prod.fst := by
        intro hm
        obtain ⟨entry', hentry, heq⟩ := List.mem_map.mp hm
        exact (readable entry' hentry).2.1 heq
      have hassigned := KeyMap.foldl_assign_perm (entry :: entries) ∅ hnodup hset
      exact hassigned.trans hperm

end PathElem

end TelemetryBridge
