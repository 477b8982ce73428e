import Polyglot.Proofs.Text.Classes
import Polyglot.Proofs.Text.Trimming
import Polyglot.Section.Segmenter

/-!
# Declaration lines

What a declaration line looks like is said here by its parts and without trimming: blanks, three
number signs, a name of word characters, blanks. `declaredGrammar?_eq_some_iff` says that the
segmenter reads exactly these lines, and `mem_declarations_iff` that it lists those of a text that
lie above the line behind a last break, from top to bottom and each once.
-/

set_option autoImplicit false

namespace Polyglot

open Text (isBlank isWord)

/-- A line with this content declares the grammar of this name. -/
def Declares (content : List Char) (name : String) : Prop :=
  ∃ before after : List Char,
    content = before ++ ('#' :: '#' :: '#' :: name.toList) ++ after ∧
      (∀ c ∈ before, isBlank c = true) ∧ (∀ c ∈ after, isBlank c = true) ∧
        name.toList ≠ [] ∧ ∀ c ∈ name.toList, isWord c = true

/-- Trimming a declaration line leaves the number signs and the name. -/
theorem trim_of_declares {content : List Char} {name : String} (h : Declares content name) :
    Text.trim isBlank content = '#' :: '#' :: '#' :: name.toList := by
  obtain ⟨before, after, rfl, hbefore, hafter, hne, hword⟩ := h
  refine Text.trim_surrounded hbefore hafter ?_ ?_ (List.cons_ne_nil _ _)
  · intro c hc
    obtain rfl : '#' = c := by simpa using hc
    decide
  · intro c hc
    have hlast : name.toList.getLast? = some c := by
      rw [List.getLast?_cons_cons, List.getLast?_cons_cons] at hc
      rwa [← List.singleton_append, List.getLast?_append_of_ne_nil _ hne] at hc
    exact Text.not_isBlank_of_isWord (hword c (List.mem_of_getLast? hlast))

/-- The segmenter reads a name off a line exactly if the line declares the name. -/
theorem declaredGrammar?_eq_some_iff (content : List Char) (name : String) :
    declaredGrammar? content = some name ↔ Declares content name := by
  constructor
  · intro h
    obtain ⟨before, after, heq, hbefore, hafter⟩ := Text.exists_trim isBlank content
    unfold declaredGrammar? at h
    split at h
    · rename_i found htrim
      split at h
      · rename_i hname
        obtain ⟨hne, hword⟩ := Bool.and_eq_true_iff.1 hname
        obtain rfl : String.ofList found = name := Option.some.inj h
        rw [htrim] at heq
        refine ⟨before, after, ?_, hbefore, hafter, ?_, ?_⟩
        · rwa [String.toList_ofList]
        · simpa using hne
        · rw [String.toList_ofList]
          exact List.all_eq_true.1 hword
      · cases h
    · cases h
  · intro h
    have hname : (!name.toList.isEmpty && name.toList.all isWord) = true := by
      obtain ⟨_, _, _, _, _, hne, hword⟩ := h
      simp only [Bool.and_eq_true, List.all_eq_true, Bool.not_eq_true', List.isEmpty_eq_false_iff]
      exact ⟨hne, hword⟩
    rw [declaredGrammar?, trim_of_declares h]
    simp only [hname, if_true, String.ofList_toList]

namespace LineIndex

variable {index : LineIndex}

/-- A line that belongs to a section is a line of the text. -/
theorem lt_height_of_le_lastSectionLine {line : Nat} (h : line ≤ index.lastSectionLine) :
    line < index.height := by
  have hpos := index.height_pos
  have hword := lowWord_le index.lastLine
  rw [lastSectionLine, lastCountedLine_eq] at h
  unfold lastLine at *
  split at h <;> omega

/-- If the number of lines fits into a word, the last line of all sections is the last one of the
text or the one above it. -/
theorem lastSectionLine_of_lt (h : index.height < UInt32.size) : index.lastSectionLine =
    if 0 < index.lastLine && index.hasTrailingBreak then index.lastLine - 1
    else index.lastLine := by
  rw [lastSectionLine, lastCountedLine_of_lt h]

/-- A line above the one behind a last break whose content declares a grammar. -/
def DeclaresAt (index : LineIndex) (line : Nat) (name : String) : Prop :=
  line ≤ index.lastSectionLine ∧ ∃ content, index.contentChars line = .ok content ∧
    Declares content name

/-- A line of the text with a character that is not blank. -/
def HasContentAt (index : LineIndex) (line : Nat) : Prop :=
  ∃ content, index.contentChars line = .ok content ∧ ∃ c ∈ content, isBlank c = false

/-- The test for content looks for a character that is not blank. -/
theorem hasContent_iff (line : Nat) : index.hasContent line = true ↔ index.HasContentAt line := by
  unfold hasContent HasContentAt
  cases hline : index.contentChars line with
  | error e => simp
  | ok content =>
      rw [Bool.not_eq_true', List.isEmpty_eq_false_iff, Ne, Text.trim_eq_nil_iff]
      simp

/-- What is read at a line is its number and the name that its content declares. -/
theorem declarationAt?_eq_some_iff (line : Nat) (d : DeclarationLine) :
    index.declarationAt? line = some d ↔
      d.line = line ∧ ∃ content, index.contentChars line = .ok content ∧
        Declares content d.grammar := by
  unfold declarationAt?
  cases hline : index.contentChars line with
  | error e => simp [Except.toOption]
  | ok content =>
      cases hname : declaredGrammar? content with
      | none =>
          have hno : ∀ name, ¬Declares content name := by
            intro name h
            rw [(declaredGrammar?_eq_some_iff content name).2 h] at hname
            cases hname
          simp [Except.toOption, hname, hno]
      | some name =>
          have hiff : ∀ other, Declares content other ↔ name = other := by
            intro other
            rw [← declaredGrammar?_eq_some_iff, hname, Option.some.injEq]
          obtain ⟨line', grammar⟩ := d
          simp [Except.toOption, hname, hiff, eq_comm]

/-- The declarations of a text are those at the lines that declare a grammar. -/
theorem mem_declarations_iff (d : DeclarationLine) :
    d ∈ index.declarations ↔ index.DeclaresAt d.line d.grammar := by
  unfold declarations DeclaresAt
  simp only [List.mem_filterMap, List.mem_range, declarationAt?_eq_some_iff, Nat.lt_succ_iff]
  constructor
  · rintro ⟨line, hle, rfl, hcontent⟩
    exact ⟨hle, hcontent⟩
  · rintro ⟨hle, hcontent⟩
    exact ⟨d.line, hle, rfl, hcontent⟩

/-- The declarations of a text stand in the order of their lines. -/
theorem pairwise_declarations (index : LineIndex) :
    index.declarations.Pairwise fun d e => d.line < e.line := by
  refine List.Pairwise.filterMap _ ?_ List.pairwise_lt_range
  intro line line' hlt d hd e he
  rw [((declarationAt?_eq_some_iff line d).1 hd).1, ((declarationAt?_eq_some_iff line' e).1 he).1]
  exact hlt

end LineIndex

end Polyglot
