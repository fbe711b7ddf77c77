import TelemetryBridge.Proofs.WrittenPaths

/-!
# Reading back written paths

A written path is read as the same path, with two exceptions. An empty name at the end is written as
a slash, which a reader drops. And the scan for slashes counts an escaped bracket of a name like any
other, so that an element without keys whose last bracket opens a group takes the slash behind it,
and all of the next element, into its name. `rejoined` says what is read then.
-/

namespace TelemetryBridge

namespace PathElem

/-- Whether the slash behind the written element is taken for part of it: the last bracket of its
name opens a group, and no key closes it. -/
def leavesOpen (e : PathElem) : Bool :=
  e.key.entries.isEmpty && Path.opens false e.name.toList

/-- What is read for two elements if the slash between them is part of the name. -/
def joined (e f : PathElem) : PathElem :=
  ⟨e.name ++ "/" ++ f.name, f.key⟩

end PathElem

namespace Path

/-- What is read for an element and the elements behind it. -/
def rejoin (e : PathElem) : List PathElem → List PathElem
  | [] => [e]
  | f :: es => if e.leavesOpen then rejoin (e.joined f) es else e :: rejoin f es

/-- What is read for the elements of a path. -/
def rejoined : List PathElem → List PathElem
  | [] => []
  | e :: es => rejoin e es

/-- The elements without the last one, if the name of that one is empty. -/
def dropBlankEnd (es : List PathElem) : List PathElem :=
  if es.getLast?.any (·.name == "") then es.dropLast else es

/-- The same elements, one by one. -/
abbrev Alike : List PathElem → List PathElem → Prop :=
  List.Forall₂ fun a b => a.same b = true

lemma same_iff {p q : Path} : p.same q = true ↔ Alike p.elem q.elem := by
  simp only [same, Bool.and_eq_true, beq_iff_eq, List.all_eq_true, Alike, List.forall₂_iff_zip,
    Prod.forall]

lemma Alike.names {as bs : List PathElem} (h : Alike as bs) :
    as.map PathElem.name = bs.map PathElem.name := by
  induction h with
  | nil => rfl
  | cons hab _ ih => rw [List.map_cons, List.map_cons, (PathElem.same_iff.mp hab).1, ih]

/-! ## What is joined -/

lemma rejoin_head (e : PathElem) (es : List PathElem) :
    ∃ f fs, rejoin e es = f :: fs ∧ e.name.length ≤ f.name.length := by
  induction es generalizing e with
  | nil => exact ⟨e, [], rfl, Nat.le_refl _⟩
  | cons f es ih =>
    rw [rejoin]
    split
    · obtain ⟨g, gs, heq, hle⟩ := ih (e.joined f)
      refine ⟨g, gs, heq, ?_⟩
      rw [PathElem.joined, String.length_append, String.length_append] at hle
      omega
    · exact ⟨e, _, rfl, Nat.le_refl _⟩

lemma rejoin_ne_nil (e : PathElem) (es : List PathElem) : rejoin e es ≠ [] := by
  obtain ⟨f, fs, heq, -⟩ := rejoin_head e es
  rw [heq]
  exact List.cons_ne_nil f fs

lemma rejoin_of_closed {e : PathElem} {es : List PathElem}
    (closed : ∀ f ∈ (e :: es).dropLast, f.leavesOpen = false) : rejoin e es = e :: es := by
  induction es generalizing e with
  | nil => rfl
  | cons f es ih =>
    rw [List.dropLast_cons_of_ne_nil (List.cons_ne_nil f es)] at closed
    rw [rejoin, closed e List.mem_cons_self, if_neg Bool.false_ne_true,
      ih fun g hg => closed g (List.mem_cons_of_mem e hg)]

lemma rejoined_of_closed {es : List PathElem}
    (closed : ∀ f ∈ es.dropLast, f.leavesOpen = false) : rejoined es = es := by
  cases es with
  | nil => rfl
  | cons e es => exact rejoin_of_closed closed

lemma rejoin_named {e : PathElem} {es : List PathElem} (named : ∀ f ∈ e :: es, f.name ≠ "") :
    ∀ f ∈ rejoin e es, f.name ≠ "" := by
  induction es generalizing e with
  | nil => exact named
  | cons f es ih =>
    rw [rejoin]
    split
    · apply ih
      intro g hg
      rcases List.mem_cons.mp hg with rfl | hg
      · simp [PathElem.joined]
      · exact named g (List.mem_cons_of_mem e (List.mem_cons_of_mem f hg))
    · intro g hg
      rcases List.mem_cons.mp hg with rfl | hg
      · exact named g List.mem_cons_self
      · exact ih (fun g hg => named g (List.mem_cons_of_mem e hg)) g hg

lemma rejoined_named {es : List PathElem} (named : ∀ f ∈ es, f.name ≠ "") :
    ∀ f ∈ rejoined es, f.name ≠ "" := by
  cases es with
  | nil => exact named
  | cons e es => exact rejoin_named named

lemma dropBlankEnd_of_named {es : List PathElem} (named : ∀ e ∈ es, e.name ≠ "") :
    dropBlankEnd es = es := by
  rw [dropBlankEnd, if_neg]
  cases hlast : es.getLast? with
  | none => simp
  | some e => simpa using named e (List.mem_of_getLast? hlast)

lemma dropBlankEnd_cons (e : PathElem) {es : List PathElem} (hne : es ≠ []) :
    dropBlankEnd (e :: es) = e :: dropBlankEnd es := by
  have hlast : (e :: es).getLast? = es.getLast? := by
    rw [List.getLast?_cons, List.getLast?_eq_some_getLast hne, Option.getD_some]
  rw [dropBlankEnd, dropBlankEnd, hlast, List.dropLast_cons_of_ne_nil hne]
  split <;> rfl

lemma dropBlankEnd_head {e : PathElem} (named : e.name ≠ "") (es : List PathElem) :
    ∃ fs, dropBlankEnd (e :: es) = e :: fs := by
  cases es with
  | nil => exact ⟨[], by simp [dropBlankEnd, named]⟩
  | cons f es => exact ⟨_, dropBlankEnd_cons e (List.cons_ne_nil f es)⟩

/-- Elements that were joined do not have the names of those that were written. -/
lemma closed_of_rejoin {e : PathElem} {es : List PathElem}
    (names : (dropBlankEnd (rejoin e es)).map PathElem.name =
      (dropBlankEnd (e :: es)).map PathElem.name) :
    ∀ f ∈ (e :: es).dropLast, f.leavesOpen = false := by
  induction es generalizing e with
  | nil => simp
  | cons f es ih =>
    rw [dropBlankEnd_cons e (List.cons_ne_nil f es), rejoin] at names
    by_cases hopen : e.leavesOpen = true
    · exfalso
      rw [if_pos hopen] at names
      obtain ⟨g, gs, heq, hle⟩ := rejoin_head (e.joined f) es
      rw [PathElem.joined, String.length_append, String.length_append] at hle
      have hlonger : e.name.length < g.name.length := by
        have : "/".length = 1 := rfl
        omega
      have hnamed : g.name ≠ "" := by
        intro hg
        rw [hg] at hlonger
        exact absurd hlonger (Nat.not_lt_zero _)
      obtain ⟨fs, hfs⟩ := dropBlankEnd_head hnamed gs
      rw [heq, hfs, List.map_cons, List.map_cons, List.cons.injEq] at names
      rw [names.1] at hlonger
      exact Nat.lt_irrefl _ hlonger
    · rw [if_neg hopen, dropBlankEnd_cons e (rejoin_ne_nil f es), List.map_cons, List.map_cons,
        List.cons.injEq] at names
      rw [List.dropLast_cons_of_ne_nil (List.cons_ne_nil f es)]
      intro g hg
      rcases List.mem_cons.mp hg with rfl | hg
      · exact Bool.not_eq_true _ ▸ hopen
      · exact ih names.2 g hg

lemma closed_of_names {es : List PathElem}
    (names : (dropBlankEnd (rejoined es)).map PathElem.name =
      (dropBlankEnd es).map PathElem.name) :
    ∀ f ∈ es.dropLast, f.leavesOpen = false := by
  cases es with
  | nil => simp
  | cons e es => exact closed_of_rejoin names

/-! ## What is read -/

lemma parse_eq (text : String) :
    parse text = ((split text).mapM parseElem).map fun elem =>
      { element := some (split text), elem := elem } := by
  rw [parse]
  cases (split text).mapM parseElem <;> rfl

/-- The text behind the slash of a written element, with its name spelled in any way. -/
lemma passes_written {e : PathElem} {raw : List Char}
    (scanned : Passes .initial raw ⟨opens false e.name.toList, false⟩) :
    Passes .initial (raw ++ e.key.sorted.flatMap writeKey) ⟨e.leavesOpen, false⟩ := by
  have hempty : e.key.sorted.isEmpty = e.key.entries.isEmpty := by
    rw [Bool.eq_iff_iff, List.isEmpty_iff, List.isEmpty_iff, ← List.length_eq_zero_iff,
      ← List.length_eq_zero_iff, e.sorted_perm.length_eq]
  have h := scanned.append (passes_writeKeys (opens false e.name.toList) e.key.sorted)
  rwa [hempty] at h

lemma write_eq (e : PathElem) : e.write = '/' ::
    (escape (fun c => c == '/' || c == '[') e.name.toList ++ e.key.sorted.flatMap writeKey) := rfl

lemma sorted_eq_nil {e : PathElem} : e.key.sorted = [] ↔ e.key.entries = [] := by
  rw [← List.length_eq_zero_iff, e.sorted_perm.length_eq, List.length_eq_zero_iff]

/-- The last element is read unless it is empty. -/
lemma read_last {e : PathElem} (readable : e.IsReadable) {raw : List Char}
    (spelled : Spells '[' raw e.name.toList)
    (scanned : Passes .initial raw ⟨opens false e.name.toList, false⟩) :
    ∃ found, ((segments (raw ++ e.key.sorted.flatMap writeKey)).map String.ofList).mapM parseElem =
        .ok found ∧ Alike found (dropBlankEnd [e]) := by
  by_cases hname : e.name = ""
  · have hkeys : e.key.sorted = [] :=
      sorted_eq_nil.mpr (Classical.not_not.mp fun hne => readable.named hne hname)
    have hraw : raw = [] := spelled.eq_nil_iff.mpr (by simp [hname])
    refine ⟨[], ?_, ?_⟩
    · rw [hkeys, hraw, List.flatMap_nil, List.append_nil, segments, dif_pos rfl]
      rfl
    · simp [dropBlankEnd, hname]
  · have hne : raw ++ e.key.sorted.flatMap writeKey ≠ [] := by
      intro hnil
      have hraw := spelled.eq_nil_iff.mp (List.append_eq_nil_iff.mp hnil).1
      exact hname (by simpa using hraw)
    obtain ⟨e', hread, hsame⟩ := PathElem.parseElem_written readable spelled
    refine ⟨[e'], ?_, ?_⟩
    · rw [(passes_written scanned).segments_eq hne, List.map_singleton, List.mapM_cons, hread]
      rfl
    · rw [dropBlankEnd_of_named (by simpa using hname)]
      exact .cons hsame .nil

/-- Elements behind one whose name is spelled in some way, as the name of joined ones is, are read
as they are rejoined. -/
lemma read_rejoin {e : PathElem} {es : List PathElem} (readable : ∀ f ∈ e :: es, f.IsReadable)
    {raw : List Char} (spelled : Spells '[' raw e.name.toList)
    (scanned : Passes .initial raw ⟨opens false e.name.toList, false⟩) :
    ∃ found, ((segments (raw ++ e.key.sorted.flatMap writeKey ++
        es.flatMap PathElem.write)).map String.ofList).mapM parseElem = .ok found ∧
      Alike found (dropBlankEnd (rejoin e es)) := by
  induction es generalizing e raw with
  | nil =>
    rw [List.flatMap_nil, List.append_nil]
    exact read_last (readable e List.mem_cons_self) spelled scanned
  | cons f es ih =>
    have hf := readable f (List.mem_cons_of_mem e List.mem_cons_self)
    have hes : ∀ g ∈ es, g.IsReadable :=
      fun g hg => readable g (List.mem_cons_of_mem e (List.mem_cons_of_mem f hg))
    have hspelled := spells_name f.name.toList
    rw [rejoin, List.flatMap_cons, write_eq f]
    by_cases hopen : e.leavesOpen = true
    · -- The slash is taken for part of the name, and so is the next name.
      obtain ⟨hkeys, hbracket⟩ := Bool.and_eq_true_iff.mp hopen
      have hsorted : e.key.sorted = [] := sorted_eq_nil.mpr (List.isEmpty_iff.mp hkeys)
      have hjoined : (e.joined f).name.toList = e.name.toList ++ ['/'] ++ f.name.toList := by
        simp [PathElem.joined]
      have hreadable : ∀ g ∈ e.joined f :: es, g.IsReadable := by
        intro g hg
        rcases List.mem_cons.mp hg with rfl | hg
        · exact ⟨fun _ => by simp [PathElem.joined], hf.keys⟩
        · exact hes g hg
      have hslash : Spells '[' ['/'] ['/'] := spells_plain (by decide) (by decide)
      have hspells := (spelled.append hslash).append hspelled
      have hscanned : Passes .initial (raw ++ ['/'] ++
          escape (fun c => c == '/' || c == '[') f.name.toList)
          ⟨opens false (e.joined f).name.toList, false⟩ := by
        rw [hbracket] at scanned
        rw [hjoined, opens_append, opens_append, hbracket]
        exact (scanned.append (.single rfl rfl)).append (passes_name true f.name.toList)
      obtain ⟨found, hread, halike⟩ := ih hreadable (hjoined ▸ hspells) hscanned
      refine ⟨found, ?_, by rwa [if_pos hopen]⟩
      rw [← hread, hsorted]
      simp [PathElem.joined]
    · -- The slash is a cut, and reading starts afresh behind it.
      have hclosed := passes_written scanned
      have hshut : e.leavesOpen = false := by simpa using hopen
      rw [hshut] at hclosed
      obtain ⟨e', he, hsame⟩ :=
        PathElem.parseElem_written (readable e List.mem_cons_self) spelled
      obtain ⟨found, hread, halike⟩ :=
        ih (fun g hg => readable g (List.mem_cons_of_mem e hg)) hspelled
          (passes_name false f.name.toList)
      refine ⟨e' :: found, ?_, ?_⟩
      · rw [List.cons_append, hclosed.segments_cut, List.map_cons, List.mapM_cons, he, hread]
        rfl
      · rw [if_neg hopen, dropBlankEnd_cons e (rejoin_ne_nil f es)]
        exact .cons hsame halike

/-- A written path is read as its rejoined elements, without an empty name at the end. -/
lemma parse_format (p : Path) (readable : ∀ e ∈ p.elem, e.IsReadable) :
    ∃ q, parse p.format = .ok q ∧ Alike q.elem (dropBlankEnd (rejoined p.elem)) := by
  cases hp : p.elem with
  | nil =>
    refine ⟨{ element := some [], elem := [] }, ?_, .nil⟩
    rw [parse_eq, format, hp]
    simp [split, dropSlash, segments]
    rfl
  | cons e es =>
    rw [hp] at readable
    obtain ⟨found, hread, halike⟩ := read_rejoin readable (spells_name e.name.toList)
      (passes_name false e.name.toList)
    have hsplit : split p.format = (segments (escape (fun c => c == '/' || c == '[') e.name.toList ++
        e.key.sorted.flatMap writeKey ++ es.flatMap PathElem.write)).map String.ofList := by
      rw [split, format, hp, String.toList_ofList, List.flatMap_cons, write_eq]
      rfl
    refine ⟨{ element := some (split p.format), elem := found }, ?_, halike⟩
    rw [parse_eq, hsplit, hread]
    rfl

/-- Which paths are read as they were written. Whatever strings the names, key names and key values
of a path are, if none of them is empty and no key has the name that cannot be set, the written path
is read, and the elements found are the rejoined ones. They are those of the path if and only if no
element but the last leaves a bracket of its name open. -/
theorem written_path_is_read (p : Path)
    (readable : ∀ e ∈ p.elem, e.name ≠ "" ∧ ∀ entry ∈ e.key.entries,
      entry.1 ≠ "" ∧ entry.1 ≠ "__proto__" ∧ ∃ value ≠ "", entry.2 = some value) :
    ∃ q, parse p.format = .ok q ∧ q.same { p with elem := rejoined p.elem } = true ∧
      (q.same p = true ↔ ∀ e ∈ p.elem.dropLast, e.leavesOpen = false) := by
  have hnamed : ∀ e ∈ p.elem, e.name ≠ "" := fun e he => (readable e he).1
  obtain ⟨q, hparse, halike⟩ := parse_format p fun e he =>
    ⟨fun _ => (readable e he).1, (readable e he).2⟩
  have hrejoined := dropBlankEnd_of_named (rejoined_named hnamed)
  refine ⟨q, hparse, same_iff.mpr (hrejoined ▸ halike), ?_⟩
  rw [same_iff]
  constructor
  · intro hsame
    have hnames : (dropBlankEnd (rejoined p.elem)).map PathElem.name =
        (dropBlankEnd p.elem).map PathElem.name := by
      rw [dropBlankEnd_of_named hnamed, ← halike.names, hsame.names]
    exact closed_of_names hnames
  · intro closed
    rwa [rejoined_of_closed closed, dropBlankEnd_of_named hnamed] at halike

/-- Two elements are written as `/a\[b/c\/d[k=x\]y]`, which is read as one. -/
theorem open_bracket_takes_slash :
    let p : Path := { elem := [⟨"a[b", ∅⟩, ⟨"c/d", ⟨[("k", some "x]y")], by decide⟩⟩] }
    (∀ e ∈ p.elem, e.name ≠ "" ∧ ∀ entry ∈ e.key.entries,
      entry.1 ≠ "" ∧ entry.1 ≠ "__proto__" ∧ ∃ value ≠ "", entry.2 = some value) ∧
    ∃ q, parse p.format = .ok q ∧ q.same p = false := by
  intro p
  have readable : ∀ e ∈ p.elem, e.name ≠ "" ∧ ∀ entry ∈ e.key.entries,
      entry.1 ≠ "" ∧ entry.1 ≠ "__proto__" ∧ ∃ value ≠ "", entry.2 = some value := by
    simp [p]
  obtain ⟨q, hq, -, hsame⟩ := written_path_is_read p readable
  refine ⟨readable, q, hq, ?_⟩
  rw [Bool.eq_false_iff, ne_eq, hsame]
  decide

/-- A closing bracket in the name shuts the one before it. -/
example : (parse (format { elem := [⟨"a[b]\\", ∅⟩, ⟨"c", ∅⟩] })).toOption.map (·.elem) =
    some [⟨"a[b]\\", ∅⟩, ⟨"c", ∅⟩] := by
  decide +kernel

end Path

end TelemetryBridge
