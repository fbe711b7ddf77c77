import Mathlib.Data.List.TakeWhile
import TelemetryBridge.Config.Load

/-!
# Absolute paths

With an absolute home and an absolute working directory every path the operator writes becomes
absolute. A path that is absolute does not depend on the directory it is seen from, and one that is
seen from an absolute directory does not depend on the working directory.
-/

namespace TelemetryBridge

namespace FilePath

lemma isAbsolute_iff {path : List Char} : isAbsolute path = true ↔ ∃ rest, path = '/' :: rest := by
  cases path with
  | nil => simp [isAbsolute]
  | cons c rest => simp [isAbsolute]

lemma ne_nil_of_isAbsolute {path : List Char} (h : isAbsolute path = true) : path ≠ [] := by
  rintro rfl
  cases h

lemma isAbsolute_append {path : List Char} (h : isAbsolute path = true) (rest : List Char) :
    isAbsolute (path ++ rest) = true := by
  obtain ⟨tail, rfl⟩ := isAbsolute_iff.mp h
  rfl

lemma isAbsolute_of_start {start path : List Char} (hstart : start <+: path) (hne : start ≠ [])
    (h : isAbsolute path = true) : isAbsolute start = true := by
  obtain ⟨c, rest, rfl⟩ := List.exists_cons_of_ne_nil hne
  obtain ⟨behind, rfl⟩ := hstart
  exact h

lemma isAbsolute_normalize {path : List Char} (h : isAbsolute path = true) :
    isAbsolute (normalize path) = true := by
  simp only [normalize, if_neg (ne_nil_of_isAbsolute h), if_pos h]
  split <;> rfl

lemma isAbsolute_join {directory : List Char} (h : isAbsolute directory = true)
    (path : List Char) : isAbsolute (join directory path) = true := by
  rw [join, if_neg (ne_nil_of_isAbsolute h)]
  split
  · exact isAbsolute_normalize h
  · exact isAbsolute_normalize (isAbsolute_append h _)

lemma isAbsolute_below {directory : List Char} (h : isAbsolute directory = true)
    (path : List Char) : isAbsolute (below directory path) = true := by
  unfold below
  split_ifs with hpath hempty
  · exact hpath.resolve_right (ne_nil_of_isAbsolute h)
  · exact h
  · exact isAbsolute_append h _

lemma isAbsolute_resolve {cwd : List Char} (h : isAbsolute cwd = true) (base path : List Char) :
    isAbsolute (resolve cwd base path) = true := by
  rw [resolve, if_pos (isAbsolute_below h _)]
  rfl

/-- Seen from an absolute directory, the working directory does not matter. -/
lemma resolve_of_isAbsolute {base : List Char} (h : isAbsolute base = true)
    (cwd cwd' path : List Char) : resolve cwd base path = resolve cwd' base path := by
  have hbelow : ∀ cwd, below cwd (below base path) = below base path := fun cwd => by
    rw [below, if_pos (Or.inl (isAbsolute_below h path))]
  rw [resolve, resolve, hbelow, hbelow]

lemma isAbsolute_directory {path : List Char} (h : isAbsolute path = true) :
    isAbsolute (directory path) = true := by
  have hstart : ((path.reverse.dropWhile (· == '/')).dropWhile (· != '/')).reverse <+: path := by
    rw [← List.reverse_suffix, List.reverse_reverse]
    exact (List.dropWhile_suffix _).trans (List.dropWhile_suffix _)
  unfold directory
  generalize (path.reverse.dropWhile (· == '/')).dropWhile (· != '/') = kept at hstart
  split
  · rw [if_pos h]
    rfl
  · rfl
  · rfl
  · next last rest hone htwo =>
    have hrest : rest.reverse <+: path := by
      rw [List.reverse_cons] at hstart
      exact (List.prefix_append _ _).trans hstart
    have hne : rest.reverse ≠ [] := by
      intro hnil
      exact hone (List.reverse_eq_nil_iff.mp hnil)
    exact isAbsolute_of_start hrest hne h

end FilePath

/-! ## Paths the operator writes -/

/-- Home and working directory are absolute. -/
structure Host.IsRooted (host : Host) : Prop where
  cwd : FilePath.isAbsolute host.cwd.toList = true
  home : FilePath.isAbsolute host.home.toList = true

namespace Host

variable {host host' : Host} {base base' : Option String} {value path : String}

lemma isAbsolute_trimChars {cs : List Char} (h : FilePath.isAbsolute cs = true) :
    FilePath.isAbsolute (Text.trimChars cs) = true := by
  obtain ⟨rest, rfl⟩ := FilePath.isAbsolute_iff.mp h
  have hblank : Text.isBlank '/' = false := by decide
  have hfront : ('/' :: rest).dropWhile Text.isBlank = '/' :: rest :=
    List.dropWhile_cons_of_neg (by simp [hblank])
  rw [Text.trimChars, hfront]
  refine FilePath.isAbsolute_of_start ?_ ?_ h
  · rw [← List.reverse_suffix, List.reverse_reverse]
    exact List.dropWhile_suffix _
  · intro hnil
    have hall : ∀ c ∈ ('/' :: rest).reverse, Text.isBlank c = true :=
      List.dropWhile_eq_nil_iff.mp (List.reverse_eq_nil_iff.mp hnil)
    rw [hall '/' (by simp)] at hblank
    cases hblank

/-- A path is none if and only if it is blank. -/
lemma resolvePath_eq_none_iff : host.resolvePath base value = none ↔ Text.trim value = "" := by
  have hblank : Text.trim value = "" ↔ Text.trimChars value.toList = [] := by
    rw [Text.trim, String.ofList_eq_empty_iff]
  rw [hblank, resolvePath]
  split
  · next hnil => simp [hnil]
  · next htilde => simp [htilde]
  · next hne _ =>
    have hne : Text.trimChars value.toList ≠ [] := hne
    split <;> simp [hne]

lemma isAbsolute_resolvePath (rooted : host.IsRooted)
    (h : host.resolvePath base value = some path) : FilePath.isAbsolute path.toList = true := by
  unfold resolvePath at h
  split at h
  · cases h
  · cases h
    rw [String.toList_ofList]
    exact FilePath.isAbsolute_join rooted.home _
  · split at h
    · next habsolute =>
      cases h
      rw [String.toList_ofList]
      exact FilePath.isAbsolute_normalize habsolute
    · cases h
      rw [String.toList_ofList]
      exact FilePath.isAbsolute_resolve rooted.cwd _ _

/-- An absolute path is the same seen from anywhere. -/
lemma resolvePath_of_isAbsolute (h : FilePath.isAbsolute (Text.trimChars value.toList) = true) :
    host.resolvePath base value =
      some (.ofList (FilePath.normalize (Text.trimChars value.toList))) := by
  obtain ⟨rest, hrest⟩ := FilePath.isAbsolute_iff.mp h
  unfold resolvePath
  split
  · next hnil =>
    rw [hnil] at hrest
    cases hrest
  · next tail htilde =>
    rw [htilde] at hrest
    cases hrest
  · rw [if_pos h]

/-- A path that is resolved a second time loses blanks at its end; the base no longer matters. -/
lemma resolvePath_resolved (rooted : host.IsRooted)
    (h : host.resolvePath base value = some path) :
    host.resolvePath base' path =
      some (.ofList (FilePath.normalize (Text.trimChars path.toList))) :=
  resolvePath_of_isAbsolute (isAbsolute_trimChars (isAbsolute_resolvePath rooted h))

/-- Seen from an absolute directory, a path does not depend on the working directory. -/
lemma resolvePath_of_isAbsolute_base {directory : String}
    (h : FilePath.isAbsolute directory.toList = true) (home : host'.home = host.home) :
    host'.resolvePath (some directory) value = host.resolvePath (some directory) value := by
  unfold resolvePath
  rw [home]
  simp only [Option.map_some, Option.getD_some,
    FilePath.resolve_of_isAbsolute h host'.cwd.toList host.cwd.toList]

/-- An absolute name of the configuration file names the same file wherever the bridge runs. -/
lemma configPath_of_isAbsolute (h : FilePath.isAbsolute (Text.trimChars value.toList) = true) :
    host'.configPath (some value) = host.configPath (some value) := by
  have hagain : FilePath.isAbsolute (Text.trimChars (Text.trim value).toList) = true := by
    rw [Text.trim, String.toList_ofList]
    exact isAbsolute_trimChars h
  have hne : Text.trim value ≠ "" := by
    intro hempty
    rw [hempty] at hagain
    cases hagain
  have hgiven : ((some value).map Text.trim).filter (· ≠ "") = some (Text.trim value) := by
    simp [hne]
  simp only [configPath, hgiven]
  rw [resolvePath_of_isAbsolute hagain, resolvePath_of_isAbsolute hagain]

lemma isAbsolute_configPath (rooted : host.IsRooted) {given : Option String}
    (h : host.configPath given = some path) : FilePath.isAbsolute path.toList = true := by
  unfold configPath at h
  split at h
  · exact isAbsolute_resolvePath rooted h
  · obtain ⟨_, -, h⟩ := Option.bind_eq_some_iff.mp h
    exact isAbsolute_resolvePath rooted h

end Host

end TelemetryBridge
