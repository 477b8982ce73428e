import Polyglot.Proofs.FileTree.Parents
import Polyglot.Proofs.Text.ByteOrder
import Polyglot.Settings.Discovery

/-!
# Where settings are found

The nearest settings file counts: the one in the directory from which the search begins, or else
the one in the nearest directory above, or else the one in the first of the directories inside, in
the order of the bytes of their names (`Finds`). If there is none, nothing is configured. Whatever
is in the file that counts, the search does not go on behind it: a file that cannot be read as
settings configures nothing (`IsReadAs`). The search finds what is to be found, and nothing else can
be (`discover_finds_nearest`).
-/

set_option autoImplicit false

namespace Polyglot.Settings

variable {tree : FileTree} {start directory : Path} {name : String} {bytes : List UInt8}
  {settings settings' : Settings} {found found' : Path}

/-! ## Settings files -/

/-- What the bytes of a settings file configure: what the document says that they write, or nothing
if the text is no settings document or the bytes are no text. -/
inductive IsReadAs (bytes : List UInt8) : Settings → Prop where
  | document {text : String} {settings : Settings} (hbytes : Text.utf8 text = bytes)
      (hparse : parse text = .ok settings) : IsReadAs bytes settings
  | noDocument {text : String} {reason : Error} (hbytes : Text.utf8 text = bytes)
      (hparse : parse text = .error reason) : IsReadAs bytes unset
  | noText (hbytes : ∀ text, Text.utf8 text ≠ bytes) : IsReadAs bytes unset

/-- The bytes of a text are read as this text, and other bytes are not. -/
theorem fromUTF8?_eq_some_iff {text : String} :
    String.fromUTF8? ⟨bytes.toArray⟩ = some text ↔ Text.utf8 text = bytes := by
  have hdata : ∀ text : String, Text.utf8 text = bytes ↔ text.toByteArray = ⟨bytes.toArray⟩ := by
    intro text
    rw [Text.utf8, String.toUTF8_eq_toByteArray, ByteArray.ext_iff]
    exact ⟨fun h => by rw [← h], fun h => by rw [h]⟩
  rw [hdata, String.fromUTF8?]
  by_cases hvalid : ByteArray.IsValidUTF8 ⟨bytes.toArray⟩
  · rw [dif_pos hvalid, Option.some.injEq]
    exact ⟨fun h => by rw [← h]; rfl, fun h => String.toByteArray_inj.1 h.symm⟩
  · rw [dif_neg hvalid]
    refine iff_of_false (Option.some_ne_none text).symm fun h => hvalid ?_
    rw [← h]
    exact text.isValidUTF8

/-- What a settings file configures is what its bytes are read as. -/
theorem isReadAs_ofBytes (bytes : List UInt8) : IsReadAs bytes (ofBytes bytes) := by
  unfold ofBytes
  cases htext : String.fromUTF8? ⟨bytes.toArray⟩ with
  | none =>
      refine .noText fun text hbytes => ?_
      rw [fromUTF8?_eq_some_iff.2 hbytes] at htext
      cases htext
  | some text =>
      have hbytes := fromUTF8?_eq_some_iff.1 htext
      change IsReadAs bytes ((parse text).toOption.getD unset)
      cases hparse : parse text with
      | ok settings => exact .document hbytes hparse
      | error reason => exact .noDocument hbytes hparse

/-- Bytes are read as nothing else. -/
theorem IsReadAs.eq_ofBytes (h : IsReadAs bytes settings) : settings = ofBytes bytes := by
  cases h with
  | document hbytes hparse =>
      simp only [ofBytes, fromUTF8?_eq_some_iff.2 hbytes, hparse]
      rfl
  | noDocument hbytes hparse =>
      simp only [ofBytes, fromUTF8?_eq_some_iff.2 hbytes, hparse]
      rfl
  | noText hbytes =>
      have htext : String.fromUTF8? ⟨bytes.toArray⟩ = none :=
        Option.eq_none_iff_forall_ne_some.2 fun text h => hbytes text (fromUTF8?_eq_some_iff.1 h)
      simp only [ofBytes, htext]

/-- The directory at the end of the path has a settings file, with these bytes in it. -/
def HasFile (tree : FileTree) (directory : Path) (bytes : List UInt8) : Prop :=
  tree.find? (directory ++ [fileName]) = some (.file bytes)

/-- A directory has a settings file exactly if one is read under its name. -/
theorem hasFile_iff : HasFile tree directory bytes ↔
    tree.read? (directory ++ [fileName]) = some bytes := by
  unfold HasFile FileTree.read?
  split
  · rename_i h
    simp [h]
  · rename_i h
    refine iff_of_false (h bytes) ?_
    simp

/-- What means nothing at the end of a path does not decide about the file. -/
theorem hasFile_trimmed : HasFile tree directory.trimmed bytes ↔ HasFile tree directory bytes := by
  rw [hasFile_iff, hasFile_iff, FileTree.read?_trimmed]

/-- The settings of a directory are those of its file. -/
theorem inDirectory?_eq_some_iff {result : Settings × Path} :
    inDirectory? tree directory = some result ↔
      ∃ bytes, HasFile tree directory bytes ∧ (ofBytes bytes, directory) = result := by
  simp only [hasFile_iff, inDirectory?, Option.map_eq_some_iff]

/-- A directory has no settings exactly if it has no file. -/
theorem inDirectory?_eq_none_iff :
    inDirectory? tree directory = none ↔ ∀ bytes, ¬HasFile tree directory bytes := by
  rw [inDirectory?, Option.map_eq_none_iff, Option.eq_none_iff_forall_ne_some]
  exact forall_congr' fun bytes => not_congr hasFile_iff.symm

/-! ## The search -/

/-- There is a directory of this name immediately inside the directory at the end of the path. -/
def HasInside (tree : FileTree) (start : Path) (name : String) : Prop :=
  ∃ entries inner, tree.find? start = some (.directory entries) ∧
    (name, FileTree.directory inner) ∈ entries

/-- The directories inside a directory are those that it has under a name. -/
theorem mem_directoriesAt_iff : name ∈ tree.directoriesAt start ↔ HasInside tree start name := by
  unfold FileTree.directoriesAt HasInside
  split
  · rename_i entries hstart
    rw [List.mem_mergeSort, List.mem_filterMap]
    constructor
    · rintro ⟨⟨name', child⟩, hmem, hname⟩
      cases child with
      | file bytes => cases hname
      | directory inner =>
          obtain rfl := Option.some.inj hname
          exact ⟨entries, inner, hstart, hmem⟩
    · rintro ⟨entries', inner, hstart', hmem⟩
      obtain rfl := FileTree.directory.inj (Option.some.inj (hstart.symm.trans hstart'))
      exact ⟨_, hmem, rfl⟩
  · rename_i hstart
    refine iff_of_false (List.not_mem_nil) ?_
    rintro ⟨entries, _, hstart', _⟩
    exact hstart entries hstart'

/-- The directories inside a directory come in the order of their names. -/
theorem pairwise_directoriesAt (tree : FileTree) (start : Path) :
    (tree.directoriesAt start).Pairwise (· ≤ ·) := by
  unfold FileTree.directoriesAt
  split
  · refine (List.pairwise_mergeSort ?_ ?_ _).imp of_decide_eq_true
    · intro a b c hab hbc
      exact decide_eq_true ((of_decide_eq_true hab).trans (of_decide_eq_true hbc))
    · intro a b
      simpa using le_total a b
  · exact List.Pairwise.nil

/-- Neither the directory at the end of the path nor one above it has a settings file. -/
def NoneAbove (tree : FileTree) (start : Path) : Prop :=
  ∀ n directory bytes, Path.nthParent? n start = some directory → ¬HasFile tree directory bytes

/-- The settings that hold in a directory, and the directory that has them. -/
inductive Finds (tree : FileTree) (start : Path) : Settings → Path → Prop where
  | above {n : Nat} {directory : Path} {bytes : List UInt8} {settings : Settings}
      (hdirectory : Path.nthParent? n start = some directory)
      (hfile : HasFile tree directory bytes)
      (hnearest : ∀ m < n, ∀ nearer bytes', Path.nthParent? m start = some nearer →
        ¬HasFile tree nearer bytes')
      (hread : IsReadAs bytes settings) : Finds tree start settings directory.trimmed
  | inside {name : String} {bytes : List UInt8} {settings : Settings}
      (habove : NoneAbove tree start) (hname : HasInside tree start name)
      (hfile : HasFile tree (inside start name) bytes)
      (hfirst : ∀ name' bytes', HasInside tree start name' →
        HasFile tree (inside start name') bytes' → Text.utf8 name ≤ Text.utf8 name')
      (hread : IsReadAs bytes settings) : Finds tree start settings (inside start name)
  | nowhere (habove : NoneAbove tree start)
      (hinside : ∀ name bytes, HasInside tree start name →
        ¬HasFile tree (inside start name) bytes) : Finds tree start unset start

/-- Where the search above finds nothing there is no file. -/
theorem noneAbove_of_findSome? (h : start.upward.findSome? (inDirectory? tree) = none) :
    NoneAbove tree start := by
  intro n directory bytes hdirectory
  rw [List.findSome?_eq_none_iff] at h
  have hlisted : start.upward[n]? = some directory.trimmed := by
    rw [Path.getElem?_upward, hdirectory]
    rfl
  rw [← hasFile_trimmed]
  exact inDirectory?_eq_none_iff.1 (h _ (List.mem_of_getElem? hlisted)) bytes

/-- The search above finds the nearest file. -/
theorem finds_of_findSome?_upward {result : Settings × Path}
    (h : start.upward.findSome? (inDirectory? tree) = some result) :
    Finds tree start result.1 result.2 := by
  obtain ⟨nearer, listed, farther, hsplit, hresult, hnearer⟩ := List.findSome?_eq_some_iff.1 h
  obtain ⟨bytes, hfile, rfl⟩ := inDirectory?_eq_some_iff.1 hresult
  have hget : start.upward[nearer.length]? = some listed := by
    rw [hsplit]
    simp
  rw [Path.getElem?_upward] at hget
  obtain ⟨directory, hdirectory, rfl⟩ := Option.map_eq_some_iff.1 hget
  refine .above hdirectory (hasFile_trimmed.1 hfile) ?_ (isReadAs_ofBytes bytes)
  intro m hm other bytes' hother
  have hother' : start.upward[m]? = some other.trimmed := by
    rw [Path.getElem?_upward, hother]
    rfl
  rw [hsplit, List.getElem?_append_left hm] at hother'
  rw [← hasFile_trimmed]
  exact inDirectory?_eq_none_iff.1 (hnearer _ (List.mem_of_getElem? hother')) bytes'

/-- The search inside finds the first file, if there is none above. -/
theorem finds_of_findSome?_inside {result : Settings × Path} (habove : NoneAbove tree start)
    (h : ((tree.directoriesAt start).map (inside start)).findSome? (inDirectory? tree) =
      some result) : Finds tree start result.1 result.2 := by
  rw [List.findSome?_map] at h
  obtain ⟨before, name, behind, hsplit, hresult, hbefore⟩ := List.findSome?_eq_some_iff.1 h
  obtain ⟨bytes, hfile, rfl⟩ := inDirectory?_eq_some_iff.1 hresult
  have hsorted := pairwise_directoriesAt tree start
  rw [hsplit, List.pairwise_append, List.pairwise_cons] at hsorted
  have hname : name ∈ tree.directoriesAt start := by
    rw [hsplit]
    simp
  refine .inside habove (mem_directoriesAt_iff.1 hname) hfile ?_ (isReadAs_ofBytes bytes)
  intro name' bytes' hname' hfile'
  rw [← mem_directoriesAt_iff, hsplit, List.mem_append, List.mem_cons] at hname'
  rw [Text.utf8_le_iff]
  rcases hname' with hname' | rfl | hname'
  · exact absurd hfile' (inDirectory?_eq_none_iff.1 (hbefore name' hname') bytes')
  · exact le_refl _
  · exact hsorted.2.1.1 name' hname'

/-- The search finds what it should. -/
theorem finds_discover (tree : FileTree) (start : Path) :
    Finds tree start (discover tree start).1 (discover tree start).2 := by
  simp only [discover, List.findSome?_append]
  cases habove : start.upward.findSome? (inDirectory? tree) with
  | some result => exact finds_of_findSome?_upward habove
  | none =>
      have hnone := noneAbove_of_findSome? habove
      cases hinside :
          ((tree.directoriesAt start).map (inside start)).findSome? (inDirectory? tree) with
      | some result => exact finds_of_findSome?_inside hnone hinside
      | none =>
          refine .nowhere hnone fun name bytes hname => ?_
          rw [List.findSome?_eq_none_iff] at hinside
          exact inDirectory?_eq_none_iff.1
            (hinside _ (List.mem_map_of_mem (mem_directoriesAt_iff.2 hname))) bytes

/-- A settings file has its bytes only. -/
theorem HasFile.unique {bytes' : List UInt8} (h : HasFile tree directory bytes)
    (h' : HasFile tree directory bytes') : bytes = bytes' :=
  FileTree.file.inj (Option.some.inj (h.symm.trans h'))

/-- Bytes are read in one way only. -/
theorem IsReadAs.unique (h : IsReadAs bytes settings) (h' : IsReadAs bytes settings') :
    settings = settings' :=
  h.eq_ofBytes.trans h'.eq_ofBytes.symm

/-- There is only one thing to be found. -/
theorem Finds.unique (h : Finds tree start settings found)
    (h' : Finds tree start settings' found') : settings = settings' ∧ found = found' := by
  cases h with
  | @above n _ _ _ hdirectory hfile hnearest hread =>
      cases h' with
      | @above n' _ _ _ hdirectory' hfile' hnearest' hread' =>
          obtain rfl : n = n' := by
            rcases Nat.lt_trichotomy n n' with hlt | heq | hlt
            · exact absurd hfile (hnearest' n hlt _ _ hdirectory)
            · exact heq
            · exact absurd hfile' (hnearest n' hlt _ _ hdirectory')
          obtain rfl := Option.some.inj (hdirectory.symm.trans hdirectory')
          obtain rfl := hfile.unique hfile'
          exact ⟨hread.unique hread', rfl⟩
      | inside habove' => exact absurd hfile (habove' _ _ _ hdirectory)
      | nowhere habove' => exact absurd hfile (habove' _ _ _ hdirectory)
  | inside habove hname hfile hfirst hread =>
      cases h' with
      | above hdirectory' hfile' => exact absurd hfile' (habove _ _ _ hdirectory')
      | inside _ hname' hfile' hfirst' hread' =>
          obtain rfl := le_antisymm (Text.utf8_le_iff.1 (hfirst _ _ hname' hfile'))
            (Text.utf8_le_iff.1 (hfirst' _ _ hname hfile))
          obtain rfl := hfile.unique hfile'
          exact ⟨hread.unique hread', rfl⟩
      | nowhere _ hinside' => exact absurd hfile (hinside' _ _ hname)
  | nowhere habove hinside =>
      cases h' with
      | above hdirectory' hfile' => exact absurd hfile' (habove _ _ _ hdirectory')
      | inside _ hname' hfile' => exact absurd hfile' (hinside _ _ hname')
      | nowhere => exact ⟨rfl, rfl⟩

/-- The grammar of implicit sections is the default one, or the one that is configured. -/
theorem grammar_segmenter (settings : Settings) :
    settings.segmenter.grammar = Polyglot.defaultGrammar ∨
      settings.sections? = some ⟨some settings.segmenter.grammar⟩ := by
  simp only [segmenter, defaultGrammar]
  split
  · rename_i name hname
    obtain ⟨sections, hsections, hgrammar⟩ := Option.bind_eq_some_iff.1 hname
    split
    · exact Or.inr (by rw [hsections, ← hgrammar])
    · exact Or.inl rfl
  · exact Or.inl rfl

/-- The search goes up no further than the path has parts. It finds what there is to be found, which
is one thing: the settings file that is nearest above, or else the first one inside, or else
nothing. The file that is found decides alone. -/
theorem discover_finds_nearest (tree : FileTree) (start : Path) :
    Path.nthParent? (start.length + 1) start = none ∧
      (∀ settings found, Finds tree start settings found ↔
        discover tree start = (settings, found)) ∧
      ((discover tree start).1.segmenter.grammar = Polyglot.defaultGrammar ∨
        (discover tree start).1.sections? =
          some ⟨some (discover tree start).1.segmenter.grammar⟩) := by
  refine ⟨Path.nthParent?_eq_none (Nat.lt_succ_self _), fun settings found => ?_,
    grammar_segmenter _⟩
  constructor
  · intro h
    obtain ⟨hsettings, hfound⟩ := (finds_discover tree start).unique h
    exact Prod.ext hsettings hfound
  · intro h
    have hfinds := finds_discover tree start
    rwa [h] at hfinds

end Polyglot.Settings
