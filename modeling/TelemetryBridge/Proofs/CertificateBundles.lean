import TelemetryBridge.Proofs.CredentialFiles
import TelemetryBridge.Proofs.TextBytes

/-!
# Bundles of certificates

The certificates of a bundle are the blocks that stand between a beginning and an end mark, found
from left to right, each as short as it can be, less those that cannot be read. What is written of
them is a bundle again, in which the same blocks are found.
-/

namespace TelemetryBridge

namespace Armor

/-! ## Marks -/

section

variable {mark cs before after front back : List Char}

/-- A cut is made at the first mark. -/
lemma length_le_of_cutAt (h : cutAt mark cs = some (before, after))
    (hcs : cs = front ++ mark ++ back) : before.length ≤ front.length := by
  induction cs generalizing before front with
  | nil => cases h
  | cons c cs ih =>
    rw [cutAt] at h
    split at h
    · cases h
      exact Nat.zero_le _
    · next hmark =>
      obtain ⟨⟨before', after'⟩, hcut, heq⟩ := Option.map_eq_some_iff.mp h
      cases heq
      cases front with
      | nil =>
        rw [List.nil_append] at hcs
        exact absurd (List.isPrefixOf_iff_prefix.mpr ⟨back, hcs.symm⟩) hmark
      | cons d front =>
        injection hcs with _ hcs
        exact Nat.succ_le_succ (ih hcut hcs)

/-- Where there is no cut there is no mark. -/
lemma not_infix_of_cutAt (hne : mark ≠ []) (h : cutAt mark cs = none) : ¬mark <:+: cs := by
  induction cs with
  | nil => exact fun hin => hne (List.eq_nil_of_infix_nil hin)
  | cons c cs ih =>
    rw [cutAt] at h
    split at h
    · cases h
    · next hmark =>
      rw [List.infix_cons_iff, not_or]
      refine ⟨mt List.isPrefixOf_iff_prefix.mpr hmark, ih ?_⟩
      exact Option.map_eq_none_iff.mp h

end

/-! ## Blocks -/

/-- A text between the marks of a certificate. -/
def framed (inner : List Char) : List Char := certificateBegin ++ inner ++ certificateEnd

/-- A text between marks, not empty and as short as it can be: it does not begin with another. -/
structure IsBlock (block : List Char) : Prop where
  isFramed : ∃ inner, inner ≠ [] ∧ block = framed inner
  shortest : ∀ inner, inner ≠ [] → framed inner <+: block → framed inner = block

/-- The blocks of a text: the one that begins first, and then those of the text behind it. -/
inductive Finds : List Char → List (List Char) → Prop
  | none {cs : List Char} (nothing : ∀ inner, inner ≠ [] → ¬framed inner <:+: cs) : Finds cs []
  | next {cs before block after : List Char} {blocks : List (List Char)}
    (text : cs = before ++ block ++ after) (isBlock : IsBlock block)
    (leftmost : ∀ front inner back, inner ≠ [] → cs = front ++ framed inner ++ back →
      before.length ≤ front.length) (rest : Finds after blocks) : Finds cs (block :: blocks)

section

variable {cs block block' : List Char} {blocks blocks' : List (List Char)}

lemma IsBlock.eq_of_prefix (h : IsBlock block) (h' : IsBlock block') (hbegins : block <+: block') :
    block = block' := by
  obtain ⟨inner, hne, rfl⟩ := h.isFramed
  exact h'.shortest inner hne hbegins

/-- A text has one list of blocks. -/
lemma Finds.unique (h : Finds cs blocks) (h' : Finds cs blocks') : blocks = blocks' := by
  induction h generalizing blocks' with
  | none nothing =>
    cases h' with
    | none => rfl
    | next text isBlock leftmost rest =>
      obtain ⟨inner, hne, rfl⟩ := isBlock.isFramed
      exact absurd ⟨_, _, text.symm⟩ (nothing inner hne)
  | next text isBlock leftmost rest ih =>
    obtain ⟨inner, hne, hinner⟩ := isBlock.isFramed
    cases h' with
    | none nothing => exact absurd ⟨_, _, (hinner ▸ text).symm⟩ (nothing inner hne)
    | next text' isBlock' leftmost' rest' =>
      obtain ⟨inner', hne', hinner'⟩ := isBlock'.isFramed
      have hle := leftmost _ inner' _ hne' (hinner' ▸ text')
      have hge := leftmost' _ inner _ hne (hinner ▸ text)
      rw [text, List.append_assoc, List.append_assoc] at text'
      obtain ⟨-, hbehind⟩ := List.append_inj text' (Nat.le_antisymm hle hge)
      have hsame := List.prefix_or_prefix_of_prefix ⟨_, hbehind⟩ (List.prefix_append _ _)
      have hblock := hsame.elim (isBlock.eq_of_prefix isBlock')
        fun hbegins => (isBlock'.eq_of_prefix isBlock hbegins).symm
      subst hblock
      rw [List.append_cancel_left hbehind] at ih
      rw [ih rest']

end

/-! ## Finding blocks -/

section

variable {cs before body inner after rest : List Char} {c : Char}

/-- Between a beginning and the first end behind it there is no shorter block. -/
lemma isBlock_of_cutAt (h : cutAt certificateEnd body = some (inner, after)) :
    IsBlock (framed (c :: inner)) := by
  refine ⟨⟨_, List.cons_ne_nil c inner, rfl⟩, ?_⟩
  intro other hne hbegins
  obtain ⟨d, other, rfl⟩ := List.exists_cons_of_ne_nil hne
  have hends : other ++ certificateEnd <+: inner ++ certificateEnd := by
    have hcons : d = c ∧ other ++ certificateEnd <+: inner ++ certificateEnd := by
      simpa [framed, List.append_assoc] using hbegins
    exact hcons.2
  obtain ⟨back, hback⟩ := hends
  have hbody : body = other ++ certificateEnd ++ (back ++ after) := by
    rw [cutAt_eq h, ← hback, List.append_assoc]
  have hle := length_le_of_cutAt h hbody
  refine hbegins.eq_of_length_le ?_
  simp only [framed, List.length_append, List.length_cons]
  omega

/-- Behind the first beginning, and at least one character, stands the end of every framed text. -/
lemma end_infix_of_framed (h : cutAt certificateBegin cs = some (before, rest))
    (hne : inner ≠ []) (hframed : framed inner <:+: cs) : certificateEnd <:+: rest.tail := by
  obtain ⟨front, back, rfl⟩ := hframed
  have hcs : front ++ framed inner ++ back =
      front ++ certificateBegin ++ (inner ++ certificateEnd ++ back) := by
    simp [framed]
  have hle := length_le_of_cutAt h hcs
  have hcut := cutAt_eq h
  have hlength := congrArg List.length (hcs.symm.trans hcut)
  have hpos := List.length_pos_of_ne_nil hne
  simp only [List.length_append] at hlength
  have htail : rest.tail <:+ front ++ framed inner ++ back :=
    (List.tail_suffix rest).trans ⟨_, hcut.symm⟩
  have hend : certificateEnd ++ back <:+ front ++ framed inner ++ back :=
    ⟨front ++ certificateBegin ++ inner, by simp [framed]⟩
  have hsuffix : certificateEnd ++ back <:+ rest.tail := by
    refine List.suffix_of_suffix_length_le hend htail ?_
    rw [List.length_tail, List.length_append]
    omega
  exact (List.prefix_append certificateEnd back).isInfix.trans hsuffix.isInfix

/-- The blocks of a text are found. -/
lemma finds_certificateBlocks (cs : List Char) : Finds cs (certificateBlocks cs) := by
  fun_induction certificateBlocks cs with
  | case1 cs hbegin =>
    refine .none fun inner _ hframed => ?_
    exact not_infix_of_cutAt (by decide) hbegin (.trans ⟨[], _, rfl⟩ hframed)
  | case2 cs before hbegin =>
    refine .none fun inner hne hframed => ?_
    have hnil : certificateEnd = [] :=
      List.eq_nil_of_infix_nil (end_infix_of_framed hbegin hne hframed)
    exact absurd hnil (by decide)
  | case3 cs before c body hbegin hend =>
    refine .none fun inner hne hframed => ?_
    exact not_infix_of_cutAt (by decide) hend (end_infix_of_framed hbegin hne hframed)
  | case4 cs before c body hbegin inner after hend ih =>
    have text : cs = before ++ framed (c :: inner) ++ after := by
      rw [cutAt_eq hbegin, cutAt_eq hend]
      simp [framed]
    refine .next text (isBlock_of_cutAt hend) (fun front other back _ hcs => ?_) ih
    have hbehind : cs = front ++ certificateBegin ++ (other ++ certificateEnd ++ back) := by
      rw [hcs]
      simp [framed]
    exact length_le_of_cutAt hbegin hbehind

lemma finds_iff {blocks : List (List Char)} : Finds cs blocks ↔ blocks = certificateBlocks cs := by
  constructor
  · exact fun h => h.unique (finds_certificateBlocks cs)
  · rintro rfl
    exact finds_certificateBlocks cs

end

/-! ## Finding blocks again -/

lemma Finds.isBlock {cs : List Char} {blocks : List (List Char)} (h : Finds cs blocks) :
    ∀ block ∈ blocks, IsBlock block := by
  induction h with
  | none => simp
  | next text isBlock leftmost rest ih => exact List.forall_mem_cons.mpr ⟨isBlock, ih⟩

/-- A framed text does not begin with a line break. -/
lemma head?_framed (inner back : List Char) : (framed inner ++ back).head? = some '-' := by
  have hbegin : certificateBegin = '-' :: certificateBegin.tail := by decide
  rw [framed, hbegin]
  rfl

/-- Blocks that are written one after the other, each with a line break behind it, are found again.
-/
lemma finds_written {blocks : List (List Char)} (h : ∀ block ∈ blocks, IsBlock block) :
    Finds (blocks.flatMap fun block => block ++ ['\n']) blocks := by
  -- The line break behind a block stands before the next one.
  suffices ∀ before : List Char, before = [] ∨ before = ['\n'] →
      Finds (before ++ blocks.flatMap fun block => block ++ ['\n']) blocks from this [] (.inl rfl)
  induction blocks with
  | nil =>
    intro before hbefore
    refine .none fun inner _ hframed => ?_
    have hshort : before.length ≤ 1 := by rcases hbefore with rfl | rfl <;> decide
    have hmark : certificateBegin.length = 27 := by decide
    have hlength := hframed.length_le
    simp only [framed, List.flatMap_nil, List.append_nil, List.length_append] at hlength
    omega
  | cons block blocks ih =>
    obtain ⟨hblock, hblocks⟩ := List.forall_mem_cons.mp h
    intro before hbefore
    have text : (before ++ (block :: blocks).flatMap fun block => block ++ ['\n']) =
        before ++ block ++ (['\n'] ++ blocks.flatMap fun block => block ++ ['\n']) := by
      simp
    refine .next text hblock (fun front inner back _ hcs => ?_) (ih hblocks ['\n'] (.inr rfl))
    rcases hbefore with rfl | rfl
    · exact Nat.zero_le _
    · refine List.length_pos_of_ne_nil ?_
      rintro rfl
      have hhead := congrArg List.head? hcs
      rw [List.nil_append, head?_framed] at hhead
      cases hhead

end Armor

namespace Credentials

variable {pki : Pki}

/-- A block that can be read as a certificate. -/
def holds (pki : Pki) (block : List Char) : Bool := pki.isCertificate (Text.utf8 (.ofList block))

/-- Blocks as they are written to a file: each on lines of its own. -/
def written (blocks : List (List Char)) : Bytes :=
  Text.utf8 (.ofList (blocks.flatMap fun block => block ++ ['\n']))

/-- The certificates that are written are those of the bundle again. -/
lemma bundle_written (text : List Char) :
    bundle pki (Text.decodeChars (written (bundle pki text))) = bundle pki text := by
  have hblocks : ∀ block ∈ bundle pki text, Armor.IsBlock block := fun block hmem =>
    (Armor.finds_certificateBlocks text).isBlock block (List.mem_of_mem_filter hmem)
  have hfound := Armor.finds_iff.mp (Armor.finds_written hblocks)
  rw [written, Text.utf8, String.toList_ofList, Text.decodeChars_utf8, bundle, ← hfound, bundle,
    List.filter_filter]
  simp only [Bool.and_self]

/-- What a bundle is loaded as is its own bundle: loading it again gives the same bytes. -/
lemma loadBundle_again {read read' : FileReader} {file file' : String} {bytes : Bytes}
    (h : loadBundle pki read file = .ok bytes) (stored : read' file' = .ok bytes) :
    loadBundle pki read' file' = .ok bytes := by
  obtain ⟨content, -, hne, hbytes⟩ := loadBundle_eq_ok.mp h
  have hagain : bundle pki (Text.decodeChars bytes) = bundle pki (Text.decodeChars content) := by
    rw [hbytes]
    exact bundle_written _
  exact loadBundle_eq_ok.mpr ⟨bytes, stored, hagain ▸ hne, hagain ▸ hbytes⟩

/-- A file that can be read is refused for want of a certificate. -/
lemma loadBundle_eq_error {read : FileReader} {file : String} {content : Bytes}
    {fault : CredentialFault} (readable : read file = .ok content)
    (h : loadBundle pki read file = .error fault) :
    fault = .noCertificates file ∧ bundle pki (Text.decodeChars content) = [] := by
  rw [loadBundle_eq, readable] at h
  rcases bind_eq_error.mp h with hread | ⟨bytes, hread, h⟩
  · cases hread
  · cases hread
    split at h
    · next nothing =>
      cases h
      exact ⟨rfl, nothing⟩
    · cases h

/-- A readable bundle is loaded as those of its blocks that hold a certificate, as they stand and in
their order, each with a line break behind it, and it is refused, with a configuration failure, if
and only if no block holds one. The blocks are found from left to right, each as short as it can be;
a text has one list of them. Loading what was loaded, from whatever file, gives the same bytes. -/
theorem bundle_is_filtered (pki : Pki) (read : FileReader) (file : String) :
    match read file with
    | .error reason => loadBundle pki read file = .error (.unreadable "CA file" file reason)
    | .ok content => ∃ blocks,
      (∀ found, Armor.Finds (Text.decodeChars content) found ↔ found = blocks) ∧
      match loadBundle pki read file with
      | .error fault => fault = .noCertificates file ∧
        fault.toFailure.className? = some "ConfigError" ∧ ∀ block ∈ blocks, holds pki block = false
      | .ok bytes => (∃ block ∈ blocks, holds pki block = true) ∧
        bytes = written (blocks.filter (holds pki)) ∧
        ∀ read' file', read' file' = .ok bytes → loadBundle pki read' file' = .ok bytes := by
  cases hread : read file with
  | error reason =>
    rw [loadBundle_eq, hread]
    rfl
  | ok content =>
    refine ⟨Armor.certificateBlocks (Text.decodeChars content), fun _ => Armor.finds_iff, ?_⟩
    have hbundle : bundle pki (Text.decodeChars content) =
        (Armor.certificateBlocks (Text.decodeChars content)).filter (holds pki) := rfl
    cases hload : loadBundle pki read file with
    | error fault =>
      obtain ⟨rfl, nothing⟩ := loadBundle_eq_error hread hload
      refine ⟨rfl, rfl, fun block hmem => ?_⟩
      have hnone := List.filter_eq_nil_iff.mp (hbundle.symm.trans nothing) block hmem
      exact Bool.eq_false_iff.mpr hnone
    | ok bytes =>
      obtain ⟨content', hcontent, hne, hbytes⟩ := loadBundle_eq_ok.mp hload
      cases hcontent.symm.trans hread
      refine ⟨?_, hbytes, fun _ _ => loadBundle_again hload⟩
      obtain ⟨block, hmem⟩ := List.exists_mem_of_ne_nil _ hne
      exact ⟨block, List.mem_filter.mp hmem⟩

end Credentials

end TelemetryBridge
