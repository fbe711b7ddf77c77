import TelemetryBridge.Proofs.UsableSettings

/-!
# Paths that are resolved twice

A path that was resolved is absolute and in its shortest spelling, so that resolving it once more
can only take off blanks at its end. There are such blanks only if what the operator wrote ends in a
slash or in dots, behind a name that ends in a blank. The path of a flag is resolved twice, so it is
the path that the flag names if and only if no blank is at its end.
-/

namespace TelemetryBridge

lemma Text.pieces_eq_splitOn (separator : Char) (cs : List Char) :
    Text.pieces separator cs = cs.splitOn separator := by
  induction cs with
  | nil => rfl
  | cons c cs ih =>
    rw [Text.pieces, List.splitOn_cons_eq_if_modifyHead, ih]
    by_cases h : c = separator
    · rw [if_pos h, if_pos (beq_iff_eq.mpr h)]
    · rw [if_neg h, if_neg (mt beq_iff_eq.mp h)]
      cases hsplit : cs.splitOn separator with
      | nil => exact absurd hsplit (List.splitOn_ne_nil _ _)
      | cons piece pieces => rfl

/-- Only blanks can make a text longer than its trimmed text. -/
lemma Text.trimChars_eq_self {cs : List Char} (h : cs.length ≤ (trimChars cs).length) :
    trimChars cs = cs := by
  obtain ⟨before, after, heq, -, -⟩ := exists_blanks cs
  have hlength := congrArg List.length heq
  rw [List.length_append, List.length_append] at hlength
  have hbefore : before = [] := List.length_eq_zero_iff.mp (by omega)
  have hafter : after = [] := List.length_eq_zero_iff.mp (by omega)
  rw [hbefore, hafter, List.nil_append, List.append_nil] at heq
  exact heq.symm

lemma Text.IsTrimmed.trimChars_eq {cs : List Char} (h : IsTrimmed cs) : trimChars cs = cs := by
  by_cases hnil : cs = []
  · subst hnil
    rfl
  · have hnone : ∀ c ∈ ([] : List Char), isBlank c = true := fun _ h => absurd h List.not_mem_nil
    simpa using h.trimChars_append hnil hnone hnone

namespace FilePath

/-- A segment that is a name: it is not empty, not `.` and not `..`. -/
structure IsName (segment : Segment) : Prop where
  filled : segment ≠ []
  notDot : segment ≠ ['.']
  notDots : segment ≠ ['.', '.']
  whole : '/' ∉ segment

/-- Behind the last slash, if there is one, stands a name. -/
inductive EndsInName : List Char → Prop
  | alone {name : Segment} (isName : IsName name) : EndsInName name
  | below {front : List Char} {name : Segment} (isName : IsName name) :
    EndsInName (front ++ '/' :: name)

/-- An absolute path in its shortest spelling: names between slashes, with or without a slash at the
end. -/
inductive IsShortest : List Char → Prop
  | root : IsShortest ['/']
  | file {names : List Segment} (named : names ≠ []) (all : ∀ name ∈ names, IsName name) :
    IsShortest ('/' :: joinSegments names)
  | directory {names : List Segment} (named : names ≠ []) (all : ∀ name ∈ names, IsName name) :
    IsShortest ('/' :: joinSegments names ++ ['/'])

/-! ## Following segments -/

section

variable {names passed segments : List Segment} {name : Segment}

lemma walk_cons (absolute : Bool) (passed : List Segment) (segment : Segment)
    (rest : List Segment) : walk absolute passed (segment :: rest) =
      if segment = [] ∨ segment = ['.'] then walk absolute passed rest
      else if segment = ['.', '.'] then
        match passed with
        | last :: before =>
          if last = ['.', '.'] then walk absolute (segment :: passed) rest
          else walk absolute before rest
        | [] => walk absolute (if absolute then [] else [segment]) rest
      else walk absolute (segment :: passed) rest := rfl

lemma walk_name (h : IsName name) (passed rest : List Segment) :
    walk true passed (name :: rest) = walk true (name :: passed) rest := by
  rw [walk_cons, if_neg (not_or.mpr ⟨h.filled, h.notDot⟩), if_neg h.notDots]

lemma walk_names (h : ∀ name ∈ names, IsName name) (passed : List Segment) :
    walk true passed names = passed.reverse ++ names := by
  induction names generalizing passed with
  | nil => rw [walk, List.append_nil]
  | cons name names ih =>
    obtain ⟨hname, hnames⟩ := List.forall_mem_cons.mp h
    rw [walk_name hname, ih hnames, List.reverse_cons, List.append_assoc]
    rfl

lemma walk_append (passed front back : List Segment) :
    walk true passed (front ++ back) = walk true (walk true passed front).reverse back := by
  fun_induction walk true passed front with
  | case1 passed => rw [List.nil_append, List.reverse_reverse]
  | case2 passed segment rest hskip ih => rw [List.cons_append, walk_cons, if_pos hskip, ih]
  | case3 rest before hskip ih => exact ih
  | case4 rest last before hlast hskip ih =>
    rw [List.cons_append, walk_cons, if_neg hskip, if_pos rfl]
    dsimp only
    rw [if_neg hlast, ih]
  | case5 rest hskip ih => exact ih
  | case6 passed segment rest hskip hdots ih =>
    rw [List.cons_append, walk_cons, if_neg hskip, if_neg hdots, ih]

/-- Below the root only names are kept. -/
lemma isName_walk (hpassed : ∀ name ∈ passed, IsName name)
    (hsegments : ∀ segment ∈ segments, '/' ∉ segment) :
    ∀ name ∈ walk true passed segments, IsName name := by
  fun_induction walk true passed segments with
  | case1 passed => exact fun name h => hpassed name (List.mem_reverse.mp h)
  | case2 passed segment rest hskip ih => exact ih hpassed (List.forall_mem_cons.mp hsegments).2
  | case3 rest before hskip ih => exact absurd rfl (List.forall_mem_cons.mp hpassed).1.notDots
  | case4 rest last before hlast hskip ih =>
    exact ih (List.forall_mem_cons.mp hpassed).2 (List.forall_mem_cons.mp hsegments).2
  | case5 rest hskip ih => exact ih hpassed (List.forall_mem_cons.mp hsegments).2
  | case6 passed segment rest hskip hdots ih =>
    obtain ⟨hsegment, hrest⟩ := List.forall_mem_cons.mp hsegments
    obtain ⟨hfilled, hdot⟩ := not_or.mp hskip
    exact ih (List.forall_mem_cons.mpr ⟨⟨hfilled, hdot, hdots, hsegment⟩, hpassed⟩) hrest

/-- What is kept was there, in the same order. -/
lemma walk_sublist (passed segments : List Segment) :
    (walk true passed segments).Sublist (passed.reverse ++ segments) := by
  fun_induction walk true passed segments with
  | case1 passed => rw [List.append_nil]
  | case2 passed segment rest hskip ih =>
    exact ih.trans ((List.sublist_cons_self segment rest).append_left passed.reverse)
  | case3 rest before hskip ih => simpa using ih
  | case4 rest last before hlast hskip ih =>
    have hpop : before.reverse.Sublist (last :: before).reverse :=
      (List.sublist_cons_self last before).reverse
    exact ih.trans (hpop.append (List.sublist_cons_self _ rest))
  | case5 rest hskip ih => exact ih.trans (List.sublist_cons_self _ rest)
  | case6 passed segment rest hskip hdots ih => simpa using ih

/-! ## Joined segments -/

lemma joinSegments_cons (name : Segment) (h : names ≠ []) :
    joinSegments (name :: names) = name ++ '/' :: joinSegments names := by
  obtain ⟨next, rest, rfl⟩ := List.exists_cons_of_ne_nil h
  rw [joinSegments, List.intercalate_cons_cons, List.append_assoc]
  rfl

lemma length_joinSegments_cons (name : Segment) (names : List Segment) :
    (joinSegments (name :: names)).length =
      name.length + if names = [] then 0 else (joinSegments names).length + 1 := by
  by_cases h : names = []
  · subst h
    simp [joinSegments]
  · rw [joinSegments_cons name h, if_neg h, List.length_append, List.length_cons]

lemma length_joinSegments_le (h : names.Sublist segments) :
    (joinSegments names).length ≤ (joinSegments segments).length := by
  induction h with
  | slnil => exact Nat.le_refl _
  | @cons names segments name h ih =>
    rw [length_joinSegments_cons]
    split_ifs with hnone
    · subst hnone
      rw [List.sublist_nil.mp h]
      exact Nat.zero_le _
    · omega
  | @cons_cons names segments name h ih =>
    by_cases hnone : segments = []
    · subst hnone
      rw [List.sublist_nil.mp h]
    · rw [length_joinSegments_cons, length_joinSegments_cons, if_neg hnone]
      split_ifs
      · omega
      · omega

lemma exists_joinSegments_concat (names : List Segment) (name : Segment) :
    ∃ front, joinSegments (names ++ [name]) = front ++ name := by
  induction names with
  | nil => exact ⟨[], List.intercalate_singleton⟩
  | cons first names ih =>
    obtain ⟨front, hfront⟩ := ih
    refine ⟨first ++ '/' :: front, ?_⟩
    rw [List.cons_append, joinSegments_cons first (by simp), hfront, List.append_assoc]
    rfl

lemma getLast?_joinSegments_concat (names : List Segment) (h : IsName name) :
    (joinSegments (names ++ [name])).getLast? = name.getLast? := by
  obtain ⟨front, hfront⟩ := exists_joinSegments_concat names name
  rw [hfront, List.getLast?_append_of_ne_nil _ h.filled]

lemma IsName.getLast?_ne (h : IsName name) : name.getLast? ≠ some '/' :=
  fun hlast => h.whole (List.mem_of_getLast? hlast)

lemma joinSegments_ne_nil (named : names ≠ []) (all : ∀ name ∈ names, IsName name) :
    joinSegments names ≠ [] := by
  obtain ⟨front, name, rfl⟩ := (List.eq_nil_or_concat' names).resolve_left named
  obtain ⟨before, hbefore⟩ := exists_joinSegments_concat front name
  rw [hbefore]
  exact List.append_ne_nil_of_right_ne_nil _ (all name List.mem_concat_self).filled

lemma getLast?_joinSegments_ne (named : names ≠ []) (all : ∀ name ∈ names, IsName name) :
    (joinSegments names).getLast? ≠ some '/' := by
  obtain ⟨front, name, rfl⟩ := (List.eq_nil_or_concat' names).resolve_left named
  have hname : IsName name := all name List.mem_concat_self
  rw [getLast?_joinSegments_concat front hname]
  exact hname.getLast?_ne

end

/-! ## Segments of a text -/

section

variable {path front : List Char} {names : List Segment}

lemma pieces_slash (front back : List Char) :
    Text.pieces '/' (front ++ '/' :: back) = Text.pieces '/' front ++ Text.pieces '/' back := by
  simp only [Text.pieces_eq_splitOn, List.splitOn_append_cons_self]

lemma pieces_of_notMem (h : '/' ∉ path) : Text.pieces '/' path = [path] := by
  rw [Text.pieces_eq_splitOn, List.splitOn_eq_singleton h]

lemma pieces_joinSegments (named : names ≠ []) (all : ∀ name ∈ names, IsName name) :
    Text.pieces '/' (joinSegments names) = names := by
  rw [Text.pieces_eq_splitOn]
  exact List.splitOn_intercalate '/' (fun name h => (all name h).whole) named

lemma joinSegments_pieces (path : List Char) : joinSegments (Text.pieces '/' path) = path := by
  rw [Text.pieces_eq_splitOn]
  exact List.intercalate_splitOn '/'

lemma notMem_pieces (path : List Char) : ∀ piece ∈ Text.pieces '/' path, '/' ∉ piece := by
  fun_induction Text.pieces '/' path with
  | case1 => simp
  | case2 cs ih => simpa using ih
  | case3 c cs hc hnil ih => simpa using Ne.symm hc
  | case4 c cs hc piece rest heq ih =>
    rw [heq, List.forall_mem_cons] at ih
    refine List.forall_mem_cons.mpr ⟨?_, ih.2⟩
    exact List.not_mem_cons_of_ne_of_not_mem (Ne.symm hc) ih.1

lemma EndsInName.ne_nil (h : EndsInName path) : path ≠ [] := by
  cases h with
  | alone isName => exact isName.filled
  | below isName => simp

/-- Below a directory a text ends in the same name. -/
lemma EndsInName.below_directory (h : EndsInName path) (directory : List Char) :
    ∃ front name, IsName name ∧ name.getLast? = path.getLast? ∧
      directory ++ '/' :: path = front ++ '/' :: name := by
  cases h with
  | alone isName => exact ⟨directory, path, isName, rfl, rfl⟩
  | @below front name isName =>
    refine ⟨directory ++ '/' :: front, name, isName, ?_, by simp⟩
    rw [List.getLast?_append_cons, List.getLast?_cons_of_ne_nil isName.filled]

lemma EndsInName.of_isAbsolute (h : EndsInName path) (habsolute : isAbsolute path = true) :
    ∃ front name, IsName name ∧ name.getLast? = path.getLast? ∧ path = front ++ '/' :: name := by
  cases h with
  | alone isName =>
    obtain ⟨rest, rfl⟩ := isAbsolute_iff.mp habsolute
    exact absurd List.mem_cons_self isName.whole
  | @below front name isName =>
    refine ⟨front, name, isName, ?_, rfl⟩
    rw [List.getLast?_append_cons, List.getLast?_cons_of_ne_nil isName.filled]

/-! ## Shortest spellings -/

lemma plainSegments_of_isAbsolute (h : isAbsolute path = true) :
    plainSegments path = joinSegments (walk true [] (Text.pieces '/' path)) := by
  rw [plainSegments, h]

lemma normalize_of_isAbsolute (h : isAbsolute path = true) : normalize path =
    if plainSegments path = [] then ['/']
    else '/' :: plainSegments path ++ if path.getLast? == some '/' then ['/'] else [] := by
  rw [normalize, if_neg (ne_nil_of_isAbsolute h), if_pos h]

/-- The segments that are left of an absolute path are names. -/
lemma isName_segments (path : List Char) :
    ∀ name ∈ walk true [] (Text.pieces '/' path), IsName name :=
  isName_walk (fun _ h => absurd h List.not_mem_nil) (notMem_pieces path)

lemma walk_slash (front : List Char) :
    walk true [] (Text.pieces '/' (front ++ ['/'])) = walk true [] (Text.pieces '/' front) := by
  rw [pieces_slash, walk_append]
  exact List.reverse_reverse _

lemma walk_joinSegments (named : names ≠ []) (all : ∀ name ∈ names, IsName name) :
    walk true [] (Text.pieces '/' ('/' :: joinSegments names)) = names := by
  have hpieces := pieces_slash [] (joinSegments names)
  rw [pieces_joinSegments named all] at hpieces
  rw [← List.nil_append ('/' :: joinSegments names), hpieces]
  exact walk_names all []

/-- A path in its shortest spelling is spelled as it is. -/
lemma IsShortest.normalize_eq (h : IsShortest path) : normalize path = path := by
  cases h with
  | root => rfl
  | @file names named all =>
    have hbody : plainSegments ('/' :: joinSegments names) = joinSegments names := by
      rw [plainSegments_of_isAbsolute rfl, walk_joinSegments named all]
    have hlast : ('/' :: joinSegments names).getLast? ≠ some '/' := by
      rw [List.getLast?_cons_of_ne_nil (joinSegments_ne_nil named all)]
      exact getLast?_joinSegments_ne named all
    rw [normalize_of_isAbsolute rfl, hbody, if_neg (joinSegments_ne_nil named all),
      if_neg (by simpa using hlast), List.append_nil]
  | @directory names named all =>
    have hbody : plainSegments ('/' :: joinSegments names ++ ['/']) = joinSegments names := by
      rw [plainSegments_of_isAbsolute rfl, walk_slash, walk_joinSegments named all]
    have hlast : ('/' :: joinSegments names ++ ['/']).getLast? = some '/' := List.getLast?_concat
    rw [normalize_of_isAbsolute rfl, hbody, if_neg (joinSegments_ne_nil named all), hlast]
    rfl

lemma isShortest_plainSegments (h : isAbsolute path = true) :
    IsShortest ('/' :: plainSegments path) := by
  rw [plainSegments_of_isAbsolute h]
  by_cases hnames : walk true [] (Text.pieces '/' path) = []
  · rw [hnames]
    exact .root
  · exact .file hnames (isName_segments path)

lemma isShortest_normalize (h : isAbsolute path = true) : IsShortest (normalize path) := by
  rw [normalize_of_isAbsolute h]
  split_ifs with hnone hslash
  · exact .root
  · rw [plainSegments_of_isAbsolute h] at hnone ⊢
    refine .directory ?_ (isName_segments path)
    intro hnames
    exact hnone (by rw [hnames]; rfl)
  · rw [List.append_nil]
    exact isShortest_plainSegments h

/-- A spelling without a slash at the end is not longer than the path. -/
lemma length_plainSegments (h : isAbsolute path = true) :
    ('/' :: plainSegments path).length ≤ path.length := by
  obtain ⟨rest, rfl⟩ := isAbsolute_iff.mp h
  have hpieces := pieces_slash [] rest
  have hsublist := walk_sublist [] (Text.pieces '/' rest)
  rw [plainSegments_of_isAbsolute h, ← List.nil_append ('/' :: rest), hpieces]
  have hle := length_joinSegments_le hsublist
  rw [List.reverse_nil, List.nil_append, joinSegments_pieces] at hle
  exact Nat.succ_le_succ hle

lemma length_normalize (h : isAbsolute path = true) : (normalize path).length ≤ path.length := by
  rw [normalize_of_isAbsolute h]
  split_ifs with hnone hslash
  · exact List.length_pos_of_ne_nil (ne_nil_of_isAbsolute h)
  · obtain ⟨front, rfl⟩ := List.getLast?_eq_some_iff.mp (beq_iff_eq.mp hslash)
    have hfront : front ≠ [] := by
      rintro rfl
      exact hnone rfl
    have habsolute : isAbsolute front = true :=
      isAbsolute_of_start (List.prefix_append front ['/']) hfront h
    rw [plainSegments_of_isAbsolute h, walk_slash, ← plainSegments_of_isAbsolute habsolute,
      List.length_append, List.length_append]
    exact Nat.add_le_add_right (length_plainSegments habsolute) _
  · rw [List.append_nil]
    exact length_plainSegments h

/-! ## Ends of paths -/

/-- A text that ends in a name still does so in its shortest spelling. -/
lemma getLast?_plainSegments {name : Segment} (h : IsName name)
    (habsolute : isAbsolute (front ++ '/' :: name) = true) :
    ('/' :: plainSegments (front ++ '/' :: name)).getLast? = name.getLast? := by
  have hbody : plainSegments (front ++ '/' :: name) =
      joinSegments (walk true [] (Text.pieces '/' front) ++ [name]) := by
    rw [plainSegments_of_isAbsolute habsolute, pieces_slash, pieces_of_notMem h.whole, walk_append,
      walk_name h, walk, List.reverse_cons, List.reverse_reverse]
  have hlast := getLast?_joinSegments_concat (walk true [] (Text.pieces '/' front)) h
  rw [hbody, List.getLast?_cons_of_ne_nil, hlast]
  intro hnil
  rw [hnil] at hlast
  exact h.filled (List.getLast?_eq_none_iff.mp hlast.symm)

lemma getLast?_normalize {name : Segment} (h : IsName name)
    (habsolute : isAbsolute (front ++ '/' :: name) = true) :
    (normalize (front ++ '/' :: name)).getLast? = name.getLast? := by
  have hlast := getLast?_plainSegments h habsolute
  have hend : (front ++ '/' :: name).getLast? = name.getLast? := by
    rw [List.getLast?_append_cons, List.getLast?_cons_of_ne_nil h.filled]
  rw [normalize_of_isAbsolute habsolute, hend, if_neg, if_neg, List.append_nil, hlast]
  · simpa using h.getLast?_ne
  · intro hnil
    rw [hnil] at hlast
    exact h.getLast?_ne hlast.symm

/-- A relative path is seen from some directory. -/
lemma exists_below {cwd : List Char} (h : isAbsolute cwd = true) (base : List Char)
    (hrelative : isAbsolute path = false) (hpath : path ≠ []) :
    ∃ directory, below cwd (below base path) = directory ++ '/' :: path := by
  have hbelow {directory relative : List Char} (hrelative : isAbsolute relative = false)
      (hfilled : relative ≠ []) (hdirectory : directory ≠ []) :
      below directory relative = directory ++ '/' :: relative := by
    rw [below, if_neg (by simp [hrelative, hdirectory]), if_neg hfilled]
  by_cases hbase : base = []
  · have hsame : below base path = path := if_pos (Or.inr hbase)
    exact ⟨cwd, by rw [hsame, hbelow hrelative hpath (ne_nil_of_isAbsolute h)]⟩
  · have hjoined : below base path = base ++ '/' :: path := hbelow hrelative hpath hbase
    obtain ⟨first, rest, rfl⟩ := List.exists_cons_of_ne_nil hbase
    cases habsolute : isAbsolute (first :: rest) with
    | true =>
      refine ⟨first :: rest, ?_⟩
      rw [hjoined, below, if_pos (Or.inl (isAbsolute_append habsolute _))]
    | false =>
      have hstart : isAbsolute (first :: rest ++ '/' :: path) = false := habsolute
      refine ⟨cwd ++ '/' :: first :: rest, ?_⟩
      rw [hjoined, hbelow hstart (List.cons_ne_nil _ _) (ne_nil_of_isAbsolute h)]
      simp

end

end FilePath

/-! ## Resolving twice -/

namespace Host

open FilePath

/-- What the operator wrote, without blanks at its ends and without a `~` at its start. -/
def written (value : String) : List Char :=
  match Text.trimChars value.toList with
  | '~' :: rest => rest
  | cs => cs

variable {host : Host} {base base' : Option String} {value path : String}

lemma getLast?_written (h : written value ≠ []) :
    (written value).getLast? = (Text.trimChars value.toList).getLast? := by
  unfold written at h ⊢
  split at h
  · next rest htilde => rw [htilde, List.getLast?_cons_of_ne_nil h]
  · rfl

/-- A path is the shortest spelling of an absolute path, which ends in the name that was written, if
one was. -/
lemma exists_whole (rooted : host.IsRooted) (h : host.resolvePath base value = some path) :
    ∃ whole, isAbsolute whole = true ∧
      (path.toList = normalize whole ∨ path.toList = '/' :: plainSegments whole) ∧
      (EndsInName (written value) → ∃ front name, IsName name ∧
        name.getLast? = (written value).getLast? ∧ whole = front ++ '/' :: name) := by
  unfold resolvePath at h
  unfold written
  split at h
  · cases h
  · next rest htilde =>
    cases h
    rw [String.toList_ofList, htilde, join, if_neg (ne_nil_of_isAbsolute rooted.home)]
    split_ifs with hnone
    · refine ⟨host.home.toList, rooted.home, Or.inl rfl, fun ends => absurd hnone ends.ne_nil⟩
    · exact ⟨_, isAbsolute_append rooted.home _, Or.inl rfl, fun ends => ends.below_directory _⟩
  · next hne htilde =>
    have hwritten : (match Text.trimChars value.toList with
        | '~' :: rest => rest
        | cs => cs) = Text.trimChars value.toList := by
      split
      · next rest heq => exact absurd heq (htilde rest)
      · rfl
    rw [hwritten]
    generalize Text.trimChars value.toList = cs at *
    split at h
    · next habsolute =>
      cases h
      rw [String.toList_ofList]
      exact ⟨cs, habsolute, Or.inl rfl, fun ends => ends.of_isAbsolute habsolute⟩
    · next hrelative =>
      cases h
      rw [String.toList_ofList, resolve, if_pos (isAbsolute_below rooted.cwd _)]
      refine ⟨_, isAbsolute_below rooted.cwd _, Or.inr rfl, fun ends => ?_⟩
      have hrelative' : isAbsolute cs = false := Bool.eq_false_iff.mpr hrelative
      obtain ⟨directory, hdirectory⟩ := exists_below rooted.cwd
        ((base.map String.toList).getD host.cwd.toList) hrelative' ends.ne_nil
      rw [hdirectory]
      exact ends.below_directory directory

lemma isShortest_resolvePath (rooted : host.IsRooted)
    (h : host.resolvePath base value = some path) : IsShortest path.toList := by
  obtain ⟨whole, habsolute, hpath | hpath, -⟩ := exists_whole rooted h
  · rw [hpath]
    exact isShortest_normalize habsolute
  · rw [hpath]
    exact isShortest_plainSegments habsolute

/-- The last character of a path is a blank. -/
def EndsInBlank (path : String) : Prop := ∃ c, path.toList.getLast? = some c ∧ Text.isBlank c = true

instance (path : String) : Decidable (EndsInBlank path) :=
  decidable_of_iff (path.toList.getLast?.any Text.isBlank = true) (Option.any_eq_true _ _)

/-- A path that was written with a name at its end still ends in that name. -/
lemma not_endsInBlank (rooted : host.IsRooted) (h : host.resolvePath base value = some path)
    (ends : EndsInName (written value)) : ¬EndsInBlank path := by
  obtain ⟨whole, habsolute, hpath, hends⟩ := exists_whole rooted h
  obtain ⟨front, name, isName, hlast, rfl⟩ := hends ends
  have hsame : path.toList.getLast? = (Text.trimChars value.toList).getLast? := by
    rw [← getLast?_written ends.ne_nil, ← hlast]
    rcases hpath with hpath | hpath
    · rw [hpath, getLast?_normalize isName habsolute]
    · rw [hpath, getLast?_plainSegments isName habsolute]
  rintro ⟨c, hc, hblank⟩
  have hfilled := (Text.isTrimmed_trimChars value.toList).ends c (hsame ▸ hc)
  exact Bool.false_ne_true (hfilled.symm.trans hblank)

lemma isTrimmed_of_isAbsolute {cs : List Char} (h : isAbsolute cs = true)
    (ends : ∀ c ∈ cs.getLast?, Text.isBlank c = false) : Text.IsTrimmed cs := by
  obtain ⟨rest, rfl⟩ := isAbsolute_iff.mp h
  refine ⟨?_, ends⟩
  rintro c ⟨⟩
  decide

/-- A path is the same when it is resolved again if and only if it does not end in a blank. -/
lemma resolvePath_resolved_iff (rooted : host.IsRooted)
    (h : host.resolvePath base value = some path) :
    host.resolvePath base' path = some path ↔ ¬EndsInBlank path := by
  have habsolute := isAbsolute_resolvePath rooted h
  rw [resolvePath_resolved rooted h, Option.some_inj]
  constructor
  · rintro hsame ⟨c, hc, hblank⟩
    have hlength := congrArg (fun s => s.toList.length) hsame
    rw [String.toList_ofList] at hlength
    have hle := length_normalize (isAbsolute_trimChars habsolute)
    have htrim : Text.trimChars path.toList = path.toList := Text.trimChars_eq_self (hlength ▸ hle)
    have hfilled := (Text.isTrimmed_trimChars path.toList).ends c (htrim.symm ▸ hc)
    exact Bool.false_ne_true (hfilled.symm.trans hblank)
  · intro hends
    have htrimmed : Text.IsTrimmed path.toList := by
      refine isTrimmed_of_isAbsolute habsolute fun c hc => ?_
      by_contra hblank
      exact hends ⟨c, hc, by simpa using hblank⟩
    rw [htrimmed.trimChars_eq, (isShortest_resolvePath rooted h).normalize_eq, String.ofList_toList]

/-- The file that is used for a flag is the path of the flag, resolved once more. -/
lemma used_of_flag (rooted : host.IsRooted) {given : Option String} {o : Overrides}
    {settings : Settings} (loaded : Config.load host given o = .ok settings) {file : FileSetting}
    (flag : file.flag o = some value) (h : host.resolvePath none value = some path) :
    file.used settings = host.resolvePath none path := by
  obtain ⟨json, -, -, -, -, hresolve⟩ := load_eq_ok.mp loaded
  rw [used_of_resolve rooted hresolve, FileSetting.fromFlag, flag, Option.bind_some, h,
    Option.bind_some, resolvePath_resolved rooted h]
  rfl

/-- With absolute home and working directories a path that was resolved is absolute. Resolved again,
from any base directory, it is the same path if and only if it does not end in a blank, and it does
not if what the operator wrote ends in a name. So the file that is used for a flag, whose path is
resolved twice, is the one that the flag names if and only if its path does not end in a blank. -/
theorem resolved_again_iff (rooted : host.IsRooted)
    (resolved : host.resolvePath base value = some path) :
    isAbsolute path.toList = true ∧
    (∀ base', host.resolvePath base' path = some path ↔ ¬EndsInBlank path) ∧
    (EndsInName (written value) → ¬EndsInBlank path) ∧
    ∀ given o settings (file : FileSetting), base = none → file.flag o = some value →
      Config.load host given o = .ok settings →
      (file.used settings = some path ↔ ¬EndsInBlank path) := by
  refine ⟨isAbsolute_resolvePath rooted resolved, fun _ => resolvePath_resolved_iff rooted resolved,
    not_endsInBlank rooted resolved, ?_⟩
  rintro given o settings file rfl flag loaded
  rw [used_of_flag rooted loaded flag resolved]
  exact resolvePath_resolved_iff rooted resolved

/-- A directory whose name ends in a blank: a second resolution takes the blank off. -/
theorem blank_is_taken_off :
    let host : Host :=
      { cwd := "/work", home := "/home/u", configVariable := none
        read := fun _ => .error "absent" }
    let o : Overrides :=
      { subscribe := ["/a"], collectorAddr := some "c:1", logFile := some "/var/log/a /." }
    host.IsRooted ∧ host.resolvePath none "/var/log/a /." = some "/var/log/a " ∧
      host.resolvePath (some "/etc") "/var/log/a " = some "/var/log/a" ∧
      ∃ settings, Config.load host none o = .ok settings ∧
        settings.resolved.logFilePath ≠ some "/var/log/a " := by
  intro host o
  have rooted : host.IsRooted := ⟨by decide, by decide⟩
  have resolved : host.resolvePath none "/var/log/a /." = some "/var/log/a " := by decide +kernel
  have hblank : EndsInBlank "/var/log/a " := by decide +kernel
  have hok : (Config.load host none o).toOption.isSome = true := by decide +kernel
  obtain ⟨settings, hsome⟩ := Option.isSome_iff_exists.mp hok
  have loaded : Config.load host none o = .ok settings := toOption_eq_some.mp hsome
  obtain ⟨-, -, -, hused⟩ := resolved_again_iff rooted resolved
  refine ⟨rooted, resolved, by decide +kernel, settings, loaded, fun hsame => ?_⟩
  exact (hused none o settings .logFile rfl rfl loaded).mp hsame hblank

end Host

end TelemetryBridge
