import TelemetryBridge.Proofs.Outcomes
import TelemetryBridge.Proofs.WrittenPaths

/-!
# The grammar of path elements

A text with backslashes is a sequence of marks: its characters, each with whether a backslash escapes
it. In these terms a segment is a name with key groups behind it, and every part runs up to the first
unescaped character that ends it. `IsElement` says so without a scanner, and exactly the segments of
which it is true are read.
-/

namespace TelemetryBridge

namespace Path

/-! ## Marks -/

/-- A character of a text, and whether a backslash escapes it. -/
structure Mark where
  char : Char
  escaped : Bool
deriving DecidableEq

/-- A character that no backslash escapes. -/
def bare (c : Char) : Mark := ⟨c, false⟩

/-- The marks of a text. A backslash that escapes is no mark of its own; one at the very end escapes
nothing and is. -/
def marks : List Char → List Mark
  | [] => []
  | '\\' :: c :: cs => ⟨c, true⟩ :: marks cs
  | c :: cs => bare c :: marks cs

/-- The unescaped text. -/
def plain (ms : List Mark) : List Char := ms.map Mark.char

lemma plain_eq_nil {ms : List Mark} : plain ms = [] ↔ ms = [] := List.map_eq_nil_iff

lemma marks_cons {c : Char} (h : c ≠ '\\') (cs : List Char) : marks (c :: cs) = bare c :: marks cs := by
  rw [marks]
  intro _ _ heq _
  exact h heq

lemma marks_eq_nil {cs : List Char} : marks cs = [] ↔ cs = [] := by
  constructor
  · intro h
    unfold marks at h
    split at h
    · rfl
    · cases h
    · cases h
  · rintro rfl
    rfl

/-- A text whose first mark is a bare character starts with that character. -/
lemma eq_cons_of_marks {cs : List Char} {c : Char} {ms : List Mark}
    (h : marks cs = bare c :: ms) : ∃ rest, cs = c :: rest ∧ marks rest = ms := by
  unfold marks at h
  split at h
  · cases h
  · cases h
  · obtain ⟨hhead, htail⟩ := List.cons.inj h
    exact ⟨_, by rw [(Mark.mk.inj hhead).1], htail⟩

/-- What stands before the first mark of a kind, and what stands from there on, is determined. -/
lemma append_inj_of_ends {α : Type} {p : α → Prop} {as bs rest rest' : List α}
    (ha : ∀ a ∈ as, ¬p a) (hb : ∀ b ∈ bs, ¬p b) (hrest : ∀ a ∈ rest.head?, p a)
    (hrest' : ∀ a ∈ rest'.head?, p a) (h : as ++ rest = bs ++ rest') : as = bs ∧ rest = rest' := by
  induction as generalizing bs with
  | nil =>
    cases bs with
    | nil => exact ⟨rfl, h⟩
    | cons b bs =>
      rw [List.nil_append] at h
      subst h
      exact absurd (hrest b rfl) (hb b List.mem_cons_self)
  | cons a as ih =>
    cases bs with
    | nil =>
      rw [List.nil_append] at h
      subst h
      exact absurd (hrest' a rfl) (ha a List.mem_cons_self)
    | cons b bs =>
      obtain ⟨rfl, htail⟩ := List.cons.inj h
      obtain ⟨rfl, hrest⟩ := ih (fun x hx => ha x (List.mem_cons_of_mem a hx))
        (fun x hx => hb x (List.mem_cons_of_mem a hx)) htail
      exact ⟨rfl, hrest⟩

lemma append_cons_inj {α : Type} {a : α} {as bs rest rest' : List α} (ha : a ∉ as) (hb : a ∉ bs)
    (h : as ++ a :: rest = bs ++ a :: rest') : as = bs ∧ rest = rest' := by
  obtain ⟨rfl, hrest⟩ := append_inj_of_ends (p := (· = a)) (fun x hx heq => ha (heq ▸ hx))
    (fun x hx heq => hb (heq ▸ hx)) (by simp) (by simp) h
  exact ⟨rfl, (List.cons.inj hrest).2⟩

section

variable {stop : Char} {cs : List Char}

/-- What a cut at the first unescaped `stop` yields: the unescaped text before it, and what stands
behind it if there is one. -/
inductive IsCut (stop : Char) (cs : List Char) : List Char × Option (List Char) → Prop
  | whole (free : bare stop ∉ marks cs) : IsCut stop cs (plain (marks cs), none)
  | parted (before : List Mark) (rest : List Char) (free : bare stop ∉ before)
    (parts : marks cs = before ++ bare stop :: marks rest) : IsCut stop cs (plain before, some rest)

/-- A mark that does not stop the reading belongs to the text before the cut. -/
lemma IsCut.cons {m : Mark} {cs' : List Char} {result : List Char × Option (List Char)}
    (hm : bare stop ≠ m) (hmarks : marks cs' = m :: marks cs) (h : IsCut stop cs result) :
    IsCut stop cs' (m.char :: result.1, result.2) := by
  cases h with
  | whole free =>
    have hfree : bare stop ∉ marks cs' := by
      rw [hmarks]
      exact List.not_mem_cons_of_ne_of_not_mem hm free
    have hplain : plain (marks cs') = m.char :: plain (marks cs) := by
      rw [hmarks]
      rfl
    exact hplain ▸ IsCut.whole hfree
  | parted before rest free parts =>
    apply IsCut.parted (m :: before) rest
    · exact List.not_mem_cons_of_ne_of_not_mem hm free
    · rw [hmarks, parts, List.cons_append]

lemma isCut_cut (hstop : stop ≠ '\\') (cs : List Char) : IsCut stop cs (cut stop cs) := by
  fun_induction cut stop cs with
  | case1 => exact .whole List.not_mem_nil
  | case2 c cs text rest heq ih =>
    have hne : bare stop ≠ ⟨c, true⟩ := by simp [bare]
    rw [heq] at ih
    exact ih.cons hne rfl
  | case3 cs hpair => exact .parted [] cs List.not_mem_nil (marks_cons hstop cs)
  | case4 c cs hpair hc text rest heq ih =>
    have hne : bare stop ≠ bare c := by
      intro h
      exact hc (Mark.mk.inj h).1.symm
    have hmarks : marks (c :: cs) = bare c :: marks cs := by
      rw [marks]
      exact hpair
    rw [heq] at ih
    exact ih.cons hne hmarks

lemma cut_of_notMem (hstop : stop ≠ '\\') (h : bare stop ∉ marks cs) :
    cut stop cs = (plain (marks cs), none) := by
  have hcut := isCut_cut hstop cs
  generalize cut stop cs = result at hcut ⊢
  cases hcut with
  | whole free => rfl
  | parted before rest free parts =>
    rw [parts] at h
    exact absurd (by simp) h

lemma cut_of_marks {before after : List Mark} (hstop : stop ≠ '\\') (hbefore : bare stop ∉ before)
    (h : marks cs = before ++ bare stop :: after) :
    ∃ rest, cut stop cs = (plain before, some rest) ∧ marks rest = after := by
  have hcut := isCut_cut hstop cs
  generalize cut stop cs = result at hcut ⊢
  cases hcut with
  | whole free =>
    rw [h] at free
    exact absurd (by simp) free
  | parted before' rest free parts =>
    obtain ⟨rfl, rfl⟩ := append_cons_inj hbefore free (h.symm.trans parts)
    exact ⟨rest, rfl, rfl⟩

lemma notMem_of_cut {text : List Char} (hstop : stop ≠ '\\') (h : cut stop cs = (text, none)) :
    bare stop ∉ marks cs ∧ text = plain (marks cs) := by
  have hcut := isCut_cut hstop cs
  rw [h] at hcut
  cases hcut with
  | whole free => exact ⟨free, rfl⟩

lemma marks_of_cut {text rest : List Char} (hstop : stop ≠ '\\')
    (h : cut stop cs = (text, some rest)) :
    ∃ before, bare stop ∉ before ∧ marks cs = before ++ bare stop :: marks rest ∧
      text = plain before := by
  have hcut := isCut_cut hstop cs
  rw [h] at hcut
  cases hcut with
  | parted before rest free parts => exact ⟨before, free, parts, rfl⟩

end

/-! ## Groups -/

/-- A key group as it stands in a text: the marks of its name and of its value. -/
structure KeyGroup where
  name : List Mark
  value : List Mark

namespace KeyGroup

/-- The group with its brackets and its equals sign. -/
def written (g : KeyGroup) : List Mark :=
  bare '[' :: g.name ++ bare '=' :: g.value ++ [bare ']']

/-- What the group says. -/
def entry (g : KeyGroup) : String × Option String :=
  (.ofList (plain g.name), some (.ofList (plain g.value)))

/-- The name runs to the first unescaped equals sign, and the value from there to the first unescaped
closing bracket. -/
structure IsDelimited (g : KeyGroup) : Prop where
  name : bare '=' ∉ g.name
  value : bare ']' ∉ g.value

/-- A delimited group of which neither part is empty. -/
structure IsFilled (g : KeyGroup) : Prop extends g.IsDelimited where
  named : g.name ≠ []
  valued : g.value ≠ []

lemma written_append (g : KeyGroup) (rest : List Mark) : g.written ++ rest =
    bare '[' :: (g.name ++ bare '=' :: (g.value ++ bare ']' :: rest)) := by
  simp [written]

end KeyGroup

/-- What is read as a group is a filled one. -/
lemma marks_of_group {rest tail : List Char} {name value : String}
    (h : group rest = .ok (name, value, tail)) :
    ∃ g : KeyGroup, g.IsFilled ∧ marks rest = g.written ++ marks tail ∧
      g.entry = (name, some value) := by
  unfold group at h
  split at h
  · next body =>
    split at h
    · cases h
    · cases h
    · next name rhs hname hcutName =>
      split at h
      · cases h
      · cases h
      · next value tail' hvalue hcutValue =>
        cases h
        obtain ⟨before, hbefore, hbody, rfl⟩ := marks_of_cut (by decide) hcutName
        obtain ⟨inside, hinside, hrhs, rfl⟩ := marks_of_cut (by decide) hcutValue
        refine ⟨⟨before, inside⟩, ⟨⟨hbefore, hinside⟩, ?_, ?_⟩, ?_, rfl⟩
        · exact fun hnil => hname (plain_eq_nil.mpr hnil)
        · exact fun hnil => hvalue (plain_eq_nil.mpr hnil)
        · rw [marks_cons (by decide), hbody, hrhs, KeyGroup.written_append]
  · cases h

/-- Every filled group is read. -/
lemma group_of_marks {rest : List Char} {g : KeyGroup} {after : List Mark} (filled : g.IsFilled)
    (h : marks rest = g.written ++ after) :
    ∃ tail, group rest = .ok (.ofList (plain g.name), .ofList (plain g.value), tail) ∧
      marks tail = after := by
  rw [KeyGroup.written_append] at h
  obtain ⟨body, rfl, hbody⟩ := eq_cons_of_marks h
  obtain ⟨rhs, hcutName, hrhs⟩ := cut_of_marks (by decide) filled.name hbody
  obtain ⟨tail, hcutValue, htail⟩ := cut_of_marks (by decide) filled.value hrhs
  obtain ⟨c, cs, hname⟩ := List.exists_cons_of_ne_nil fun hnil =>
    filled.named (plain_eq_nil.mp hnil)
  obtain ⟨d, ds, hvalue⟩ := List.exists_cons_of_ne_nil fun hnil =>
    filled.valued (plain_eq_nil.mp hnil)
  refine ⟨tail, ?_, htail⟩
  rw [hname] at hcutName ⊢
  rw [hvalue] at hcutValue ⊢
  simp only [group, hcutName, hcutValue]

/-- Groups are read exactly from filled groups that stand one behind the other. -/
lemma groups_eq_ok {rest : List Char} {keys found : KeyMap (Option String)} :
    groups keys rest = .ok found ↔ ∃ gs : List KeyGroup, (∀ g ∈ gs, g.IsFilled) ∧
      marks rest = gs.flatMap KeyGroup.written ∧
      found = (gs.map KeyGroup.entry).foldl (fun m e => m.assign e.1 e.2) keys := by
  constructor
  · intro h
    fun_induction groups keys rest with
    | case1 keys => exact ⟨[], by simp, rfl, (Except.ok.inj h).symm⟩
    | case2 => cases h
    | case3 keys rest _ name value tail hgroup ih =>
      obtain ⟨g, filled, hmarks, hentry⟩ := marks_of_group hgroup
      obtain ⟨gs, hgs, htail, rfl⟩ := ih h
      refine ⟨g :: gs, ?_, ?_, ?_⟩
      · exact List.forall_mem_cons.mpr ⟨filled, hgs⟩
      · rw [hmarks, htail, List.flatMap_cons]
      · rw [List.map_cons, List.foldl_cons, hentry]
  · rintro ⟨gs, hgs, hmarks, rfl⟩
    induction gs generalizing keys rest with
    | nil =>
      rw [groups, if_pos (marks_eq_nil.mp hmarks)]
      rfl
    | cons g gs ih =>
      obtain ⟨filled, hgs⟩ := List.forall_mem_cons.mp hgs
      obtain ⟨tail, hgroup, htail⟩ := group_of_marks filled hmarks
      have hne : rest ≠ [] := by
        rintro rfl
        cases hmarks
      rw [groups, if_neg hne]
      split
      · next herror => cases hgroup.symm.trans herror
      · next hok =>
        cases hgroup.symm.trans hok
        exact ih hgs htail

/-! ## Elements -/

/-- Whether a text is a name with key groups behind it. The name runs to the first unescaped opening
bracket. Without groups it may be empty. -/
structure IsElement (text name : List Mark) (groups : List KeyGroup) : Prop where
  text : text = name ++ groups.flatMap KeyGroup.written
  nameEnds : bare '[' ∉ name
  named : groups ≠ [] → name ≠ []
  filled : ∀ g ∈ groups, g.IsFilled

/-- The element that a name and key groups stand for. -/
def elementOf (name : List Mark) (groups : List KeyGroup) : PathElem :=
  ⟨.ofList (plain name), .ofList (groups.map KeyGroup.entry)⟩

lemma isElement_of_parseElem {text : String} {e : PathElem} (h : parseElem text = .ok e) :
    ∃ name groups, IsElement (marks text.toList) name groups ∧ e = elementOf name groups := by
  unfold parseElem at h
  split at h
  · next hcut =>
    obtain ⟨hfree, rfl⟩ := notMem_of_cut (by decide) hcut
    cases h
    exact ⟨marks text.toList, [], ⟨by simp, hfree, by simp, by simp⟩, rfl⟩
  · cases h
  · next name rest hname hcut =>
    obtain ⟨before, hbefore, hmarks, rfl⟩ := marks_of_cut (by decide) hcut
    obtain ⟨keys, hkeys, h⟩ := bind_eq_ok.mp h
    cases h
    obtain ⟨gs, hgs, hrest, rfl⟩ := groups_eq_ok.mp hkeys
    refine ⟨before, gs, ⟨?_, hbefore, ?_, hgs⟩, rfl⟩
    · rw [hmarks, ← marks_cons (by decide), hrest]
    · intro _ hnil
      exact hname (plain_eq_nil.mpr hnil)

lemma parseElem_of_isElement {text : String} {name : List Mark} {gs : List KeyGroup}
    (h : IsElement (marks text.toList) name gs) : parseElem text = .ok (elementOf name gs) := by
  cases gs with
  | nil =>
    have htext : marks text.toList = name := by simpa using h.text
    have hcut := cut_of_notMem (by decide) (htext ▸ h.nameEnds)
    rw [parseElem, hcut, htext]
    rfl
  | cons g gs =>
    have htext := h.text
    rw [List.flatMap_cons, KeyGroup.written_append] at htext
    obtain ⟨rest, hcut, hrest⟩ := cut_of_marks (by decide) h.nameEnds htext
    have hgroups : groups ∅ ('[' :: rest) =
        .ok (.ofList ((g :: gs).map KeyGroup.entry)) := by
      refine groups_eq_ok.mpr ⟨g :: gs, h.filled, ?_, rfl⟩
      rw [marks_cons (by decide), hrest, List.flatMap_cons, KeyGroup.written_append]
    have hname : plain name ≠ [] :=
      fun hnil => h.named (List.cons_ne_nil g gs) (plain_eq_nil.mp hnil)
    rw [parseElem, hcut]
    split
    · next heq => cases heq
    · next heq => exact absurd (Prod.mk.inj heq).1 hname
    · next heq =>
      cases heq
      rw [hgroups]
      rfl

/-- Exactly the texts of the grammar are read: a name without an unescaped opening bracket, or a name
that is not empty and one or more groups of a name up to the first unescaped equals sign and a value
up to the first unescaped closing bracket behind it, neither of them empty. What is read is the
unescaped name with what the groups say. Every other text is refused, and every group that is read
leaves less to be read. -/
theorem read_iff_isElement (text : String) :
    (∀ e, parseElem text = .ok e ↔
      ∃ name groups, IsElement (marks text.toList) name groups ∧ e = elementOf name groups) ∧
    ((∃ fault, parseElem text = .error fault) ↔
      ¬∃ name groups, IsElement (marks text.toList) name groups) ∧
    ∀ (rest tail : List Char) (name value : String), group rest = .ok (name, value, tail) →
      tail.length < rest.length := by
  refine ⟨?_, ?_, fun _ _ _ _ => group_rest_lt⟩
  · intro e
    constructor
    · exact isElement_of_parseElem
    · rintro ⟨name, groups, h, rfl⟩
      exact parseElem_of_isElement h
  · constructor
    · rintro ⟨fault, hfault⟩ ⟨name, groups, h⟩
      cases hfault.symm.trans (parseElem_of_isElement h)
    · intro hnone
      cases hread : parseElem text with
      | error fault => exact ⟨fault, rfl⟩
      | ok e =>
        obtain ⟨name, groups, h, -⟩ := isElement_of_parseElem hread
        exact absurd ⟨name, groups, h⟩ hnone

end Path

end TelemetryBridge
