import Polyglot.Proofs.LineIndex.Decomposition
import Polyglot.Proofs.Section.Partition
import Polyglot.Settings.Basic

/-!
# Names that can be configured and names that can be declared

The settings take a name of alphanumeric characters and low lines, a declaration line one of word
characters. Neither class is part of the other: `isOnlyConfigurable` and `isOnlyDeclarable` say
which characters divide them. Names without such a character can be configured exactly if they can
be declared, and with one the two part (`names_configured_and_declared`).
-/

set_option autoImplicit false

namespace Polyglot

open Text

namespace Settings

/-- Settings that configure a name for the default grammar. -/
def configuring (name : String) : Settings :=
  ⟨some ⟨some name⟩⟩

/-- The characters that a configured name may have and a declared one may not: the numbers that are
neither digits nor letters, and recent letters and digits. -/
def isOnlyConfigurable (c : Char) : Bool :=
  otherNumber.contains c || (recent.contains c && isAlphanumeric c)

/-- The characters that a declared name may have and a configured one may not: marks, connectors
other than the low line and join controls, unless they are alphabetic or recent. -/
def isOnlyDeclarable (c : Char) : Bool :=
  (mark.contains c || connector.contains c || joinControl.contains c) && !alphabetic.contains c &&
    !recent.contains c && c != '_'

/-- A name can be configured if it has characters and all of them are alphanumeric or low lines. -/
theorem isGrammarName_iff (name : String) : isGrammarName name = true ↔
    name.toList ≠ [] ∧ ∀ c ∈ name.toList, isAlphanumeric c = true ∨ c = '_' := by
  simp [isGrammarName]

/-- A name that cannot be configured does not count. -/
theorem defaultGrammar_configuring (name : String) : (configuring name).defaultGrammar =
    if isGrammarName name then name else Polyglot.defaultGrammar :=
  rfl

/-- The grammar that counts instead of a name that does not has a name that would. -/
theorem defaultGrammar_configuring_eq_iff (name : String) :
    (configuring name).defaultGrammar = name ↔ isGrammarName name = true := by
  rw [defaultGrammar_configuring]
  split
  · rename_i hname
    exact iff_of_true rfl hname
  · rename_i hname
    refine iff_of_false ?_ hname
    rintro rfl
    exact hname (by decide +kernel)

/-- The characters of configured names that are no word characters. -/
theorem isOnlyConfigurable_iff (c : Char) : isOnlyConfigurable c = true ↔
    (isAlphanumeric c = true ∨ c = '_') ∧ isWord c = false := by
  have hletter := CharSet.contains_of_isWithin letterNumber_isWithin (c := c)
  have hlow : c = '_' → isWord c = true := by
    rintro rfl
    decide +kernel
  constructor
  · intro h
    simp only [isOnlyConfigurable, Bool.or_eq_true, Bool.and_eq_true] at h
    rcases h with hnumber | ⟨hrecent, halphanumeric⟩
    · exact ⟨Or.inl (by simp [isAlphanumeric, hnumber]), not_isWord_of_otherNumber hnumber⟩
    · exact ⟨Or.inl halphanumeric, by simp [isWord, hrecent]⟩
  · rintro ⟨hname, hword⟩
    have halphanumeric : isAlphanumeric c = true := by
      refine hname.resolve_right fun hc => ?_
      rw [hlow hc] at hword
      exact Bool.noConfusion hword
    cases hrecent : recent.contains c with
    | true => simp [isOnlyConfigurable, hrecent, halphanumeric]
    | false =>
        -- What is not recent and no word character is neither alphabetic nor a digit.
        simp only [isWord, hrecent, Bool.not_false, Bool.and_true, Bool.or_eq_false_iff] at hword
        obtain ⟨⟨⟨⟨halphabetic, _⟩, hdigit⟩, _⟩, _⟩ := hword
        have hno : letterNumber.contains c = false := by
          refine Bool.eq_false_iff.2 fun hc => ?_
          rw [hletter hc] at halphabetic
          exact Bool.noConfusion halphabetic
        simpa [isAlphanumeric, isOnlyConfigurable, halphabetic, hdigit, hno, hrecent] using
          halphanumeric

/-- The word characters that configured names cannot have. -/
theorem isOnlyDeclarable_iff (c : Char) : isOnlyDeclarable c = true ↔
    isWord c = true ∧ ¬(isAlphanumeric c = true ∨ c = '_') := by
  constructor
  · intro h
    simp only [isOnlyDeclarable, Bool.or_eq_true, Bool.and_eq_true, Bool.not_eq_true',
      bne_iff_ne] at h
    obtain ⟨⟨⟨hset, halphabetic⟩, hrecent⟩, hlow⟩ := h
    have hno := not_isAlphanumeric_of_mark (or_assoc.1 hset) halphabetic
    refine ⟨?_, by simp [hno, hlow]⟩
    rcases hset with (hmark | hconnector) | hjoin
    · simp [isWord, hmark, hrecent]
    · simp [isWord, hconnector, hrecent]
    · simp [isWord, hjoin, hrecent]
  · rintro ⟨hword, hname⟩
    obtain ⟨hno, hlow⟩ := not_or.1 hname
    simp only [isAlphanumeric, Bool.or_eq_true, not_or, Bool.not_eq_true] at hno
    obtain ⟨⟨⟨halphabetic, hdigit⟩, _⟩, _⟩ := hno
    simpa [isOnlyDeclarable, isWord, halphabetic, hdigit, hlow] using hword

end Settings

/-- A line that declares a grammar of the name makes one section by itself. -/
def Declarable (segmenter : Segmenter) (name : String) : Prop :=
  ∃ s, segmenter.segment (.ofText ("###" ++ name)) = [s] ∧ s.isExplicit = true ∧ s.grammar = name

/-- A name can be declared if it has characters and all of them are word characters. -/
theorem declarable_iff (segmenter : Segmenter) (name : String) : Declarable segmenter name ↔
    name.toList ≠ [] ∧ ∀ c ∈ name.toList, isWord c = true := by
  constructor
  · rintro ⟨s, hseg, hexplicit, rfl⟩
    obtain ⟨l, hl⟩ := Option.isSome_iff_exists.1 hexplicit
    obtain ⟨_, content, _, _, _, _, _, _, hne, hword⟩ :=
      segmenter.declaresAt_of_mem_segment (hseg ▸ List.mem_singleton_self s) hl
    exact ⟨hne, hword⟩
  · rintro ⟨hne, hword⟩
    generalize hindex : LineIndex.ofText ("###" ++ name) = index
    have hchars : index.chars = '#' :: '#' :: '#' :: name.toList := by
      rw [← hindex]
      exact String.toList_append
    have hunbroken : IsUnbroken index.chars := by
      rw [hchars]
      simp only [isUnbroken_cons]
      exact ⟨by decide, by decide, by decide, fun c hc => not_isBreak_of_isWord (hword c hc)⟩
    have hlines := index.lineList_of_isUnbroken hunbroken
    have hcontent : index.contentChars 0 = .ok index.chars := by
      have hline : index.lineList[0]? = some index.chars := by rw [hlines]; rfl
      rw [index.contentChars_eq hline, hunbroken.trimEnd]
    have hlast : index.lastSectionLine = 0 := by
      have hcount : index.lastLine = 0 := by
        rw [LineIndex.lastLine, index.height_eq_length, hlines]
        rfl
      rw [LineIndex.lastSectionLine, LineIndex.lastCountedLine_eq, hcount, lowWord_zero]
      rfl
    have hdeclaration : index.declarationAt? 0 = some ⟨0, name⟩ := by
      refine (LineIndex.declarationAt?_eq_some_iff 0 ⟨0, name⟩).2 ⟨rfl, _, hcontent, [], [], ?_, ?_⟩
      · rw [hchars]
        simp
      · exact ⟨by simp, by simp, hne, hword⟩
    have hdeclarations : index.declarations = [⟨0, name⟩] := by
      rw [LineIndex.declarations, hlast]
      change [0].filterMap index.declarationAt? = _
      rw [List.filterMap_cons, hdeclaration]
      rfl
    have habove : ¬∃ l < 0, index.HasContentAt l := by
      rintro ⟨l, hl, _⟩
      exact Nat.not_lt_zero l hl
    refine ⟨⟨name, 0, 0, some 0⟩, ?_, rfl, rfl⟩
    rw [hindex, segmenter.segment_of_declared hdeclarations, if_neg habove, hlast]
    rfl

namespace Settings

variable {c : Char}

/-- A character of configured names is a word character but for those that are only configurable. -/
theorem isWord_of_configurable (hname : isAlphanumeric c = true ∨ c = '_')
    (h : isOnlyConfigurable c = false) : isWord c = true := by
  by_contra hword
  rw [(isOnlyConfigurable_iff c).2 ⟨hname, Bool.eq_false_iff.2 hword⟩] at h
  exact Bool.noConfusion h

/-- A word character may stand in configured names but for those that are only declarable. -/
theorem configurable_of_isWord (hword : isWord c = true) (h : isOnlyDeclarable c = false) :
    isAlphanumeric c = true ∨ c = '_' := by
  by_contra hname
  rw [(isOnlyDeclarable_iff c).2 ⟨hword, hname⟩] at h
  exact Bool.noConfusion h

/-- A name is either configured as it is or passed over in favour of the default. The names that are
configured and the names that can be declared are the same as long as no character divides them: a
name is only configured exactly if one of its characters can be configured only, and only declared
exactly if one of them can be declared only. -/
theorem names_configured_and_declared (segmenter : Segmenter) (name : String) :
    ((configuring name).defaultGrammar ≠ name →
      (configuring name).defaultGrammar = Polyglot.defaultGrammar) ∧
    ((∀ c ∈ name.toList, isOnlyConfigurable c = false ∧ isOnlyDeclarable c = false) →
      ((configuring name).defaultGrammar = name ↔ Declarable segmenter name)) ∧
    ((configuring name).defaultGrammar = name ∧ ¬Declarable segmenter name ↔
      isGrammarName name = true ∧ ∃ c ∈ name.toList, isOnlyConfigurable c = true) ∧
    (Declarable segmenter name ∧ (configuring name).defaultGrammar ≠ name ↔
      Declarable segmenter name ∧ ∃ c ∈ name.toList, isOnlyDeclarable c = true) := by
  rw [Ne, defaultGrammar_configuring_eq_iff, declarable_iff]
  refine ⟨fun hname => ?_, fun h => ?_, and_congr_right fun hname => ?_,
    and_congr_right fun hdeclared => ?_⟩
  · rw [defaultGrammar_configuring, if_neg hname]
  · rw [isGrammarName_iff]
    refine and_congr_right fun _ => forall₂_congr fun c hc => ?_
    obtain ⟨hconfigurable, hdeclarable⟩ := h c hc
    exact ⟨fun hname => isWord_of_configurable hname hconfigurable,
      fun hword => configurable_of_isWord hword hdeclarable⟩
  · obtain ⟨hne, hall⟩ := (isGrammarName_iff name).1 hname
    constructor
    · intro hno
      by_contra hnone
      refine hno ⟨hne, fun c hc => isWord_of_configurable (hall c hc) ?_⟩
      exact Bool.eq_false_iff.2 fun honly => hnone ⟨c, hc, honly⟩
    · rintro ⟨c, hc, honly⟩ ⟨_, hword⟩
      have hno := ((isOnlyConfigurable_iff c).1 honly).2
      rw [hword c hc] at hno
      exact Bool.noConfusion hno
  · obtain ⟨hne, hall⟩ := hdeclared
    rw [isGrammarName_iff]
    constructor
    · intro hno
      by_contra hnone
      refine hno ⟨hne, fun c hc => configurable_of_isWord (hall c hc) ?_⟩
      exact Bool.eq_false_iff.2 fun honly => hnone ⟨c, hc, honly⟩
    · rintro ⟨c, hc, honly⟩ ⟨_, hname⟩
      exact ((isOnlyDeclarable_iff c).1 honly).2 (hname c hc)

/-- A fraction is configured and cannot be declared; a letter with a combining accent can be
declared and is passed over. -/
theorem names_differ_on_fraction_and_accent :
    ((configuring "½").defaultGrammar = "½" ∧ ¬Declarable default "½") ∧
      (configuring "e\u0301").defaultGrammar = Polyglot.defaultGrammar ∧
        Declarable default "e\u0301" := by
  have hfraction : isOnlyConfigurable '½' = true := by decide +kernel
  have haccent : isOnlyDeclarable '\u0301' = true := by decide +kernel
  have hletter : isWord 'e' = true := by decide +kernel
  refine ⟨⟨?_, ?_⟩, ?_, ?_⟩
  · rw [defaultGrammar_configuring_eq_iff, isGrammarName_iff]
    refine ⟨by decide, fun c hc => ?_⟩
    obtain rfl : c = '½' := List.mem_singleton.1 hc
    exact ((isOnlyConfigurable_iff '½').1 hfraction).1
  · rw [declarable_iff]
    rintro ⟨_, hword⟩
    have hno := ((isOnlyConfigurable_iff '½').1 hfraction).2
    rw [hword '½' (List.mem_singleton_self _)] at hno
    exact Bool.noConfusion hno
  · rw [defaultGrammar_configuring, if_neg]
    rw [isGrammarName_iff]
    rintro ⟨_, hname⟩
    have hmem : '\u0301' ∈ "e\u0301".toList := by decide
    exact ((isOnlyDeclarable_iff '\u0301').1 haccent).2 (hname _ hmem)
  · rw [declarable_iff]
    refine ⟨by decide, fun c hc => ?_⟩
    have hcases : c = 'e' ∨ c = '\u0301' := by
      change c ∈ ['e', '\u0301'] at hc
      simpa using hc
    rcases hcases with rfl | rfl
    · exact hletter
    · exact ((isOnlyDeclarable_iff '\u0301').1 haccent).1

end Settings

end Polyglot
