import TelemetryBridge.Proofs.ElementGrammar
import TelemetryBridge.Proofs.PathRoundTrip

/-!
# What the text of a path tells

In the marks of a written path every slash and bracket that is not escaped was put there by the
writer. So the parts of each element can be told apart, whatever characters they are made of, and the
text determines the path up to the order of its keys. That order it does not show, as keys are sorted.
-/

namespace TelemetryBridge

/-! ## The order of keys -/

namespace Text

lemma unitsLe_antisymm {as bs : List Nat} (h : unitsLe as bs = true) (h' : unitsLe bs as = true) :
    as = bs := by
  induction as generalizing bs with
  | nil =>
    cases bs with
    | nil => rfl
    | cons b bs => cases h'
  | cons a as ih =>
    cases bs with
    | nil => cases h
    | cons b bs =>
      simp only [unitsLe, Bool.or_eq_true, decide_eq_true_eq, Bool.and_eq_true, beq_iff_eq] at h h'
      have hhead : a = b := by omega
      have htail : as = bs := by
        apply ih
        · exact h.elim (fun hlt => absurd hhead (Nat.ne_of_lt hlt)) And.right
        · exact h'.elim (fun hlt => absurd hhead.symm (Nat.ne_of_lt hlt)) And.right
      rw [hhead, htail]

/-- Characters that stand for themselves are determined by their units, and so are texts of them. -/
lemma append_charUnits_inj {c d : Char} {us vs : List Nat} (hc : surrogate? c = none)
    (hd : surrogate? d = none) (h : charUnits c ++ us = charUnits d ++ vs) : c = d ∧ us = vs := by
  have hvalid : ∀ c : Char, c.toNat < 0xD800 ∨ 0xDFFF < c.toNat ∧ c.toNat < 0x110000 :=
    fun c => c.valid
  have hcRange := hvalid c
  have hdRange := hvalid d
  rw [charUnits, charUnits, hc, hd] at h
  dsimp only at h
  by_cases hcBasic : c.toNat < 0x10000
  · rw [if_pos hcBasic] at h
    by_cases hdBasic : d.toNat < 0x10000
    · rw [if_pos hdBasic] at h
      exact ⟨Char.toNat_inj.mp (List.cons.inj h).1, (List.cons.inj h).2⟩
    · rw [if_neg hdBasic] at h
      have hhead := (List.cons.inj h).1
      omega
  · rw [if_neg hcBasic] at h
    by_cases hdBasic : d.toNat < 0x10000
    · rw [if_pos hdBasic] at h
      have hhead := (List.cons.inj h).1
      omega
    · rw [if_neg hdBasic] at h
      obtain ⟨hhigh, htail⟩ := List.cons.inj h
      obtain ⟨hlow, hrest⟩ := List.cons.inj htail
      refine ⟨Char.toNat_inj.mp ?_, hrest⟩
      omega

lemma units_inj {s t : String} (hs : ∀ c ∈ s.toList, surrogate? c = none)
    (ht : ∀ c ∈ t.toList, surrogate? c = none) (h : units s = units t) : s = t := by
  have hne : ∀ (c : Char) (cs : List Char), surrogate? c = none →
      (c :: cs).flatMap charUnits ≠ [] := by
    intro c cs hc hnil
    rw [List.flatMap_cons, List.append_eq_nil_iff, charUnits, hc] at hnil
    dsimp only at hnil
    by_cases hbasic : c.toNat < 0x10000
    · rw [if_pos hbasic] at hnil
      cases hnil.1
    · rw [if_neg hbasic] at hnil
      cases hnil.1
  rw [← String.toList_inj]
  unfold units at h
  generalize s.toList = cs at hs h ⊢
  generalize t.toList = ds at ht h ⊢
  induction cs generalizing ds with
  | nil =>
    cases ds with
    | nil => rfl
    | cons d ds => exact absurd h.symm (hne d ds (ht d List.mem_cons_self))
  | cons c cs ih =>
    cases ds with
    | nil => exact absurd h (hne c cs (hs c List.mem_cons_self))
    | cons d ds =>
      obtain ⟨hc, hs⟩ := List.forall_mem_cons.mp hs
      obtain ⟨hd, htails⟩ := List.forall_mem_cons.mp ht
      obtain ⟨rfl, hrest⟩ := append_charUnits_inj hc hd h
      rw [ih hs ds htails hrest]

end Text

namespace KeyMap

variable {α : Type}

lemma pairwise_sorted (m : KeyMap α) :
    m.sorted.Pairwise fun a b => Text.textLe a.1 b.1 = true := by
  apply List.pairwise_mergeSort
  · intro a b c
    exact Text.unitsLe_trans
  · intro a b
    exact Text.unitsLe_total _ _

/-- Sorting forgets the order in which the keys came. -/
lemma sorted_eq_of_perm {a b : KeyMap α} (h : a.entries.Perm b.entries)
    (distinct : (a.entries.map fun entry => Text.units entry.1).Nodup) : a.sorted = b.sorted := by
  have hperm : a.sorted.Perm b.sorted :=
    (List.mergeSort_perm _ _).trans (h.trans (List.mergeSort_perm _ _).symm)
  refine List.Perm.eq_of_pairwise ?_ a.pairwise_sorted b.pairwise_sorted hperm
  intro x y hx hy hxy hyx
  apply List.inj_on_of_nodup_map distinct
  · exact (List.mergeSort_perm _ _).subset hx
  · exact (List.mergeSort_perm _ _).subset (hperm.symm.subset hy)
  · exact Text.unitsLe_antisymm hxy hyx

end KeyMap

namespace Path

/-! ## Marks of what was written -/

/-- The marks of a part in which special characters are escaped. -/
def quoted (special : Char → Bool) (cs : List Char) : List Mark :=
  cs.map fun c => ⟨c, c == '\\' || special c⟩

lemma marks_escape (special : Char → Bool) (cs rest : List Char) :
    marks (escape special cs ++ rest) = quoted special cs ++ marks rest := by
  induction cs with
  | nil => rfl
  | cons c cs ih =>
    rw [escape_cons, List.append_assoc]
    have hescape : escape special [c] =
        if (c == '\\' || special c) = true then ['\\', c] else [c] := List.append_nil _
    rw [hescape, quoted, List.map_cons]
    by_cases hspecial : (c == '\\' || special c) = true
    · rw [if_pos hspecial, hspecial]
      exact congrArg _ ih
    · have hbackslash : c ≠ '\\' := by
        rintro rfl
        exact hspecial rfl
      rw [if_neg hspecial, Bool.eq_false_iff.mpr hspecial]
      exact (marks_cons hbackslash _).trans (congrArg _ ih)

lemma plain_quoted (special : Char → Bool) (cs : List Char) : plain (quoted special cs) = cs := by
  rw [plain, quoted, List.map_map]
  exact List.map_id cs

lemma quoted_inj {special : Char → Bool} {s t : String}
    (h : quoted special s.toList = quoted special t.toList) : s = t := by
  rw [← String.toList_inj, ← plain_quoted special s.toList, h, plain_quoted]

lemma bare_notMem_quoted {special : Char → Bool} {c : Char} (h : special c = true)
    (cs : List Char) : bare c ∉ quoted special cs := by
  intro hmem
  obtain ⟨d, -, hd⟩ := List.mem_map.mp hmem
  obtain ⟨rfl, hescaped⟩ := Mark.mk.inj hd
  rw [h, Bool.or_true] at hescaped
  cases hescaped

/-- The group that a key is written as. -/
def writtenGroup (entry : String × Option String) : KeyGroup :=
  ⟨quoted (fun c => c == '=' || c == ']') entry.1.toList,
    quoted (· == ']') (entry.2.getD "").toList⟩

lemma isDelimited_writtenGroup (entry : String × Option String) :
    (writtenGroup entry).IsDelimited :=
  ⟨bare_notMem_quoted rfl _, bare_notMem_quoted rfl _⟩

lemma marks_writeKey (entry : String × Option String) (rest : List Char) :
    marks (writeKey entry ++ rest) = (writtenGroup entry).written ++ marks rest := by
  have hwritten : writeKey entry ++ rest =
      '[' :: (escape (fun c => c == '=' || c == ']') entry.1.toList ++
        '=' :: (escape (· == ']') (entry.2.getD "").toList ++ ']' :: rest)) := by
    simp [writeKey]
  rw [hwritten, KeyGroup.written_append, marks_cons (by decide), marks_escape,
    marks_cons (by decide), marks_escape, marks_cons (by decide)]
  rfl

lemma marks_writeKeys (entries : List (String × Option String)) (rest : List Char) :
    marks (entries.flatMap writeKey ++ rest) =
      (entries.map writtenGroup).flatMap KeyGroup.written ++ marks rest := by
  induction entries with
  | nil => rfl
  | cons entry entries ih =>
    rw [List.flatMap_cons, List.append_assoc, marks_writeKey, ih, List.map_cons, List.flatMap_cons,
      List.append_assoc]

lemma marks_write (e : PathElem) (rest : List Char) : marks (e.write ++ rest) =
    bare '/' :: (quoted (fun c => c == '/' || c == '[') e.name.toList ++
      ((e.key.sorted.map writtenGroup).flatMap KeyGroup.written ++ marks rest)) := by
  rw [write_eq, List.cons_append, List.append_assoc, marks_cons (by decide), marks_escape,
    marks_writeKeys]

/-- Written elements begin with a slash, if there are any. -/
lemma head_marks_write (es : List PathElem) :
    ∀ m ∈ (marks (es.flatMap PathElem.write)).head?, m = bare '/' := by
  cases es with
  | nil => exact fun m hm => absurd hm (by simp [marks])
  | cons e es =>
    rw [List.flatMap_cons, marks_write]
    exact fun m hm => (Option.mem_some_iff.mp hm).symm

/-! ## Telling the parts apart -/

lemma written_inj {g g' : KeyGroup} {rest rest' : List Mark} (hg : g.IsDelimited)
    (hg' : g'.IsDelimited) (h : g.written ++ rest = g'.written ++ rest') :
    g = g' ∧ rest = rest' := by
  rw [KeyGroup.written_append, KeyGroup.written_append] at h
  obtain ⟨hname, h⟩ := append_cons_inj hg.name hg'.name (List.cons.inj h).2
  obtain ⟨hvalue, hrest⟩ := append_cons_inj hg.value hg'.value h
  exact ⟨KeyGroup.mk.injEq .. ▸ ⟨hname, hvalue⟩, hrest⟩

/-- Groups end where no other begins. -/
lemma groups_inj {gs gs' : List KeyGroup} {rest rest' : List Mark} (hgs : ∀ g ∈ gs, g.IsDelimited)
    (hgs' : ∀ g ∈ gs', g.IsDelimited) (hrest : bare '[' ∉ rest.head?)
    (hrest' : bare '[' ∉ rest'.head?)
    (h : gs.flatMap KeyGroup.written ++ rest = gs'.flatMap KeyGroup.written ++ rest') :
    gs = gs' ∧ rest = rest' := by
  have hhead : ∀ (g : KeyGroup) (gs : List KeyGroup) (rest : List Mark),
      bare '[' ∈ ((g :: gs).flatMap KeyGroup.written ++ rest).head? := by
    intro g gs rest
    rw [List.flatMap_cons, List.append_assoc, KeyGroup.written_append]
    rfl
  induction gs generalizing gs' with
  | nil =>
    cases gs' with
    | nil => exact ⟨rfl, h⟩
    | cons g' gs' =>
      rw [List.flatMap_nil, List.nil_append] at h
      exact absurd (h ▸ hhead g' gs' rest') hrest
  | cons g gs ih =>
    cases gs' with
    | nil =>
      rw [List.flatMap_nil, List.nil_append] at h
      exact absurd (h ▸ hhead g gs rest) hrest'
    | cons g' gs' =>
      obtain ⟨hg, hgs⟩ := List.forall_mem_cons.mp hgs
      obtain ⟨hg', htails⟩ := List.forall_mem_cons.mp hgs'
      rw [List.flatMap_cons, List.flatMap_cons, List.append_assoc, List.append_assoc] at h
      obtain ⟨rfl, htail⟩ := written_inj hg hg' h
      obtain ⟨rfl, hends⟩ := ih hgs htails htail
      exact ⟨rfl, hends⟩

/-- What stands behind a name begins with a slash or an opening bracket. -/
lemma head_after_name (gs : List KeyGroup) (es : List PathElem) :
    ∀ m ∈ (gs.flatMap KeyGroup.written ++ marks (es.flatMap PathElem.write)).head?,
      m = bare '/' ∨ m = bare '[' := by
  intro m hm
  cases gs with
  | nil => exact Or.inl (head_marks_write es m hm)
  | cons g gs => exact Or.inr (Option.mem_some_iff.mp hm).symm

lemma notMem_quoted_name (cs : List Char) :
    ∀ m ∈ quoted (fun c => c == '/' || c == '[') cs, ¬(m = bare '/' ∨ m = bare '[') := by
  rintro m hm (rfl | rfl)
  · exact bare_notMem_quoted rfl cs hm
  · exact bare_notMem_quoted rfl cs hm

/-- Names end at the first slash or opening bracket that is not escaped, and key groups at a slash. -/
lemma elems_inj {es fs : List PathElem}
    (h : marks (es.flatMap PathElem.write) = marks (fs.flatMap PathElem.write)) :
    List.Forall₂ (fun e f => e.name = f.name ∧
      e.key.sorted.map writtenGroup = f.key.sorted.map writtenGroup) es fs := by
  have hdelimited : ∀ entries : List (String × Option String),
      ∀ g ∈ entries.map writtenGroup, g.IsDelimited := by
    intro entries
    exact List.forall_mem_map.mpr fun entry _ => isDelimited_writtenGroup entry
  have hslash : ∀ es : List PathElem, bare '[' ∉ (marks (es.flatMap PathElem.write)).head? := by
    intro es hm
    cases head_marks_write es _ hm
  induction es generalizing fs with
  | nil =>
    cases fs with
    | nil => exact .nil
    | cons f fs =>
      rw [List.flatMap_cons, marks_write] at h
      cases h
  | cons e es ih =>
    cases fs with
    | nil =>
      rw [List.flatMap_cons, marks_write] at h
      cases h
    | cons f fs =>
      rw [List.flatMap_cons, List.flatMap_cons, marks_write, marks_write] at h
      obtain ⟨hnames, hkeys⟩ := append_inj_of_ends (notMem_quoted_name _) (notMem_quoted_name _)
        (head_after_name _ es) (head_after_name _ fs) (List.cons.inj h).2
      obtain ⟨hgroups, hrest⟩ := groups_inj (hdelimited _) (hdelimited _) (hslash es) (hslash fs)
        hkeys
      exact .cons ⟨quoted_inj hnames, hgroups⟩ (ih hrest)

/-- Keys with values can be told from the groups that they are written as. -/
lemma entries_inj {as bs : List (String × Option String)}
    (ha : ∀ entry ∈ as, entry.2.isSome = true) (hb : ∀ entry ∈ bs, entry.2.isSome = true)
    (h : as.map writtenGroup = bs.map writtenGroup) : as = bs := by
  induction as generalizing bs with
  | nil => exact (List.map_eq_nil_iff.mp h.symm).symm
  | cons a as ih =>
    cases bs with
    | nil => cases h
    | cons b bs =>
      obtain ⟨hhead, htail⟩ := List.cons.inj h
      obtain ⟨hname, hvalue⟩ := KeyGroup.mk.inj hhead
      obtain ⟨hsome, ha⟩ := List.forall_mem_cons.mp ha
      obtain ⟨hsome', hb⟩ := List.forall_mem_cons.mp hb
      obtain ⟨v, hv⟩ := Option.isSome_iff_exists.mp hsome
      obtain ⟨w, hw⟩ := Option.isSome_iff_exists.mp hsome'
      rw [hv, hw, Option.getD_some, Option.getD_some] at hvalue
      have hab : a = b := by
        apply Prod.ext
        · exact quoted_inj hname
        · rw [hv, hw, quoted_inj hvalue]
      rw [hab, ih ha hb htail]

end Path

namespace PathElem

variable {e f : PathElem}

/-- Every key of the element has a value, and no two have the same name. A name is a sequence of
UTF-16 code units, so names are different when their units are. -/
structure IsKeyed (e : PathElem) : Prop where
  valued : ∀ entry ∈ e.key.entries, entry.2.isSome = true
  distinct : (e.key.entries.map fun entry => Text.units entry.1).Nodup

/-- Names in which no surrogate stands alone are different as soon as they are not equal. -/
lemma isKeyed_of_paired (valued : ∀ entry ∈ e.key.entries, entry.2.isSome = true)
    (paired : ∀ entry ∈ e.key.entries, ∀ c ∈ entry.1.toList, Text.surrogate? c = none) :
    e.IsKeyed := by
  refine ⟨valued, ?_⟩
  apply List.Nodup.map_on _ (List.Nodup.of_map _ e.key.nodup)
  intro a ha b hb hunits
  exact List.inj_on_of_nodup_map e.key.nodup ha hb (Text.units_inj (paired a ha) (paired b hb) hunits)

lemma IsKeyed.same_of_groups (he : e.IsKeyed) (hf : f.IsKeyed) (hname : e.name = f.name)
    (hgroups : e.key.sorted.map Path.writtenGroup = f.key.sorted.map Path.writtenGroup) :
    e.same f = true := by
  have hvalued : ∀ {e : PathElem}, e.IsKeyed → ∀ entry ∈ e.key.sorted, entry.2.isSome = true :=
    fun {e} he entry hentry => he.valued entry (e.sorted_perm.subset hentry)
  have hsorted := Path.entries_inj (hvalued he) (hvalued hf) hgroups
  exact same_iff.mpr ⟨hname, e.sorted_perm.symm.trans (hsorted ▸ f.sorted_perm)⟩

lemma IsKeyed.write_eq (he : e.IsKeyed) (h : e.same f = true) : e.write = f.write := by
  obtain ⟨hname, hperm⟩ := same_iff.mp h
  rw [Path.write_eq, Path.write_eq, hname, KeyMap.sorted_eq_of_perm hperm he.distinct]

end PathElem

namespace Path

/-- The text of a path that has elements determines it, up to the order of keys, and that order does
not show in the text: two paths are written alike if and only if they are the same, whatever strings
their names, key names and key values are. -/
theorem format_eq_iff_same {p q : Path} (hp : p.elem ≠ []) (hq : q.elem ≠ [])
    (keyed : ∀ e ∈ p.elem, e.IsKeyed) (keyed' : ∀ e ∈ q.elem, e.IsKeyed) :
    p.format = q.format ↔ p.same q = true := by
  have hformat : ∀ r : Path, r.elem ≠ [] → r.format.toList = r.elem.flatMap PathElem.write := by
    intro r hr
    unfold format
    split
    · next hnil => exact absurd hnil hr
    · exact String.toList_ofList
  rw [same_iff, ← String.toList_inj, hformat p hp, hformat q hq]
  constructor
  · intro h
    obtain ⟨hlength, hparts⟩ := List.forall₂_iff_get.mp (elems_inj (congrArg marks h))
    refine List.forall₂_iff_get.mpr ⟨hlength, fun i hi hi' => ?_⟩
    apply (keyed _ (List.get_mem _ _)).same_of_groups (keyed' _ (List.get_mem _ _))
    · exact (hparts i hi hi').1
    · exact (hparts i hi hi').2
  · intro h
    obtain ⟨hlength, hsame⟩ := List.forall₂_iff_get.mp h
    have hwrite : p.elem.map PathElem.write = q.elem.map PathElem.write := by
      apply List.ext_get
      · rw [List.length_map, List.length_map, hlength]
      · intro i hi hi'
        rw [List.length_map] at hi hi'
        simpa using (keyed _ (List.get_mem _ ⟨i, hi⟩)).write_eq (hsame i hi hi')
    rw [List.flatMap_def, List.flatMap_def, hwrite]

/-- The keys `k]=` and `ï` of an element, in either order, are written alike. -/
theorem key_order_is_not_shown :
    let keys : KeyMap (Option String) := ⟨[("k]=", some "v]"), ("ï", some "")], by decide⟩
    let turned : KeyMap (Option String) := ⟨[("ï", some ""), ("k]=", some "v]")], by decide⟩
    let p : Path := { elem := [⟨"a/[b\\", keys⟩, ⟨"", ∅⟩] }
    let q : Path := { elem := [⟨"a/[b\\", turned⟩, ⟨"", ∅⟩] }
    (p.elem ≠ [] ∧ q.elem ≠ [] ∧ (∀ e ∈ p.elem, e.IsKeyed) ∧ ∀ e ∈ q.elem, e.IsKeyed) ∧
      p ≠ q ∧ p.format = q.format := by
  intro keys turned p q
  have hpaired : ∀ es ∈ [p.elem, q.elem], ∀ e ∈ es, (e.key.entries.all fun entry =>
      entry.1.toList.all fun c => (Text.surrogate? c).isNone) = true := by
    decide +kernel
  have hkeyed : ∀ es ∈ [p.elem, q.elem], ∀ e ∈ es, e.IsKeyed := by
    intro es hes e he
    apply PathElem.isKeyed_of_paired
    · revert es e
      decide +kernel
    · intro entry hentry c hc
      have hall := List.all_eq_true.mp (hpaired es hes e he) entry hentry
      exact Option.isNone_iff_eq_none.mp (List.all_eq_true.mp hall c hc)
  have hp := hkeyed p.elem (by simp)
  have hq := hkeyed q.elem (by simp)
  refine ⟨⟨by simp [p], by simp [q], hp, hq⟩, by decide +kernel, ?_⟩
  exact (format_eq_iff_same (by simp [p]) (by simp [q]) hp hq).mpr (by decide +kernel)

end Path

end TelemetryBridge
