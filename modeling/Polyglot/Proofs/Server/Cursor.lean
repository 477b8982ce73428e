import Polyglot.Proofs.LineIndex.Denotable
import Polyglot.Proofs.Server.Commands
import Polyglot.Proofs.Workspace.Isolation
import Polyglot.Proofs.Workspace.PositionLookup

/-!
# Requests at a cursor

A client names a line and a number of units on it. The position behind them is on the same line, at
the end of the shortest beginning of the line's content that is so many units wide
(`LineIndex.LeadsTo`), so it never slips to the next line and into another section. Completions and
definitions are those that the handler of the section at this line has for the position, and no
other handler is heeded (`cursor_requests_reach_section`).
-/

set_option autoImplicit false

namespace Polyglot

namespace LineIndex

open Text

variable {index : LineIndex} {l start o : Nat} {content : List Char} {p : Lsp.Position}

/-- The beginning of the content is the shortest one that is so many units wide, or the whole
content if this is not that wide. -/
def IsShortest (units : Nat) (content initial : List Char) : Prop :=
  initial <+: content ∧
    ((units ≤ unitSize initial ∧
        ∀ other, other <+: content → units ≤ unitSize other → initial <+: other) ∨
      unitSize content < units ∧ initial = content)

/-- The covering prefix is the shortest one that is so many units wide. -/
theorem isShortest_covering (units : Nat) (content : List Char) :
    IsShortest units content (covering unitWidth units content) := by
  refine ⟨covering_isPrefix unitWidth units content, ?_⟩
  rcases Nat.lt_or_ge (unitSize content) units with hlt | hle
  · refine Or.inr ⟨hlt, covering_eq_self unitWidth_pos ?_⟩
    rw [← unitSize_eq_total]
    exact hlt.le
  · left
    rw [unitSize_eq_total] at hle ⊢
    refine ⟨le_total_covering hle, fun other hother hunits => ?_⟩
    rw [unitSize_eq_total] at hunits
    exact covering_prefix_of_le hother hunits

/-- Where a client position leads: to the end of the shortest beginning of its line's content that
is so many units wide. The offset there is a boundary of the text and goes back to this position. -/
structure LeadsTo (index : LineIndex) (p : Lsp.Position) (q : Position) : Prop where
  line_eq : q.line = p.line
  shortest : ∃ content initial, index.contentChars p.line = .ok content ∧
    IsShortest p.character content initial ∧ q.column = byteSize initial
  boundary : ∃ o, index.offsetOf q = .ok o ∧ index.positionOf o = .ok q ∧
    isBoundary o index.chars = true

/-- The end of a beginning of a line's content is a boundary on this line. -/
theorem exists_boundary (hsize : index.length < UInt32.size) {initial : List Char}
    (hl : l < index.height) (hcontent : index.contentChars l = .ok content)
    (hinitial : initial <+: content) : ∃ o, index.offsetOf ⟨l, byteSize initial⟩ = .ok o ∧
      index.positionOf o = .ok ⟨l, byteSize initial⟩ ∧ isBoundary o index.chars = true := by
  obtain ⟨content', ending, hline, hcontent', hending⟩ := index.exists_content hl
  obtain rfl := Except.ok.inj (hcontent.symm.trans hcontent')
  have hn := byteSize_le_of_isPrefix hinitial
  have hend := index.startOf_succ hline
  rw [byteSize_append] at hend
  refine ⟨_, offsetOf_eq_ok_iff.2 ⟨hl, by simp only; omega, rfl⟩, (positionOf_eq_ok_iff hsize).2
    ⟨startOf_add_le_length hline hn, liesOn_of_le_content hl hline hending hn, rfl⟩, ?_⟩
  obtain ⟨before, after, hchars, hbefore⟩ := exists_surrounding hline
  rw [hchars, ← hbefore, isBoundary_add_byteSize, List.append_assoc, isBoundary_append hn,
    isBoundary_iff_exists_isPrefix]
  exact ⟨initial, hinitial, rfl⟩

/-- In a text of less than 4 GiB, a client position is on its line, behind the covering prefix of
the content. -/
theorem positionOfLsp?_eq_covering (hsize : index.length < UInt32.size) (hl : p.line < index.height)
    (hcontent : index.contentChars p.line = .ok content) :
    index.positionOfLsp? p = some ⟨p.line, bytesBeforeUnit p.character content⟩ := by
  have hlength := byteSize_content_le_length hcontent hl
  have hline := (index.le_startOf hl).trans (index.startOf_le_length p.line)
  have hunits := unitSize_le_byteSize content
  have hcolumn : bytesBeforeUnit p.character content ≤ byteSize content := by
    rw [bytesBeforeUnit_eq]
    exact byteSize_le_of_isPrefix (covering_isPrefix unitWidth p.character content)
  rw [positionOfLsp?_eq (by omega) hl hcontent, bytesToColumn_eq (by omega), Nat.sub_zero,
    lowWord_of_lt (by omega)]

/-- A client position on a line of a text of less than 4 GiB leads to a position. -/
theorem exists_leadsTo (hsize : index.length < UInt32.size) (hl : p.line < index.height) :
    ∃ q, index.positionOfLsp? p = some q ∧ index.LeadsTo p q := by
  obtain ⟨content, _, _, hcontent, _⟩ := index.exists_content hl
  have hshortest := isShortest_covering p.character content
  refine ⟨_, positionOfLsp?_eq_covering hsize hl hcontent, rfl,
    ⟨content, _, hcontent, hshortest, ?_⟩, ?_⟩
  · rw [bytesBeforeUnit_eq]
  · rw [bytesBeforeUnit_eq]
    exact exists_boundary hsize hl hcontent hshortest.1

/-- What a client is told of a boundary in the content of a line leads back to its position. -/
theorem exists_toLsp_positionOf (hsize : index.length < UInt32.size)
    (hstart : index.lineStart l = .ok start) (hcontent : index.contentChars l = .ok content)
    (hle : start ≤ o) (hend : o ≤ start + byteSize content)
    (hboundary : isBoundary o index.chars = true) :
    ∃ p q, index.toLsp o = .ok p ∧ index.positionOf o = .ok q ∧ q.line = l ∧
      p.line < index.height ∧ index.positionOfLsp? p = some q := by
  obtain ⟨n, rfl, hposition, hn⟩ := exists_column hsize hstart hcontent hle hend hboundary
  obtain ⟨initial, hinitial, rfl⟩ := (isBoundary_iff_exists_isPrefix n content).1 hn
  obtain ⟨hl, rfl⟩ := lineStart_eq_ok_iff.1 hstart
  obtain ⟨content', ending, hline, hcontent', hending⟩ := index.exists_content hl
  obtain rfl := Except.ok.inj (hcontent.symm.trans hcontent')
  refine ⟨_, _, toLsp_of_isPrefix hsize hl hline hending hinitial, hposition, rfl, hl, ?_⟩
  rw [positionOfLsp?_eq_covering hsize hl hcontent, bytesBeforeUnit_eq, covering_unitSize hinitial]

end LineIndex

namespace Query

variable {w : Workspace} {id : String} {d : Document} {p : Position} {state : SectionState}

/-- Where no handler is registered for the section there are no completions. -/
theorem run_completions_of_noHandler (hd : w.document? id = some d)
    (hstate : d.sectionAt? p.line = some state)
    (hnone : w.grammars.handler? state.current.grammar = none) :
    (completions id p).run w = (.ok [], w) := by
  rw [completions, run_bind, run_document_of_some hd]
  refine run_askAt_of_none d fun other hother => ?_
  obtain rfl := Option.some.inj (hstate.symm.trans hother)
  rw [hnone, Option.bind_none]

/-- The handler of the section at the line of a position is asked for completions. -/
theorem run_completions_of_handler {handler : Handler} (hd : w.document? id = some d)
    (hstate : d.sectionAt? p.line = some state)
    (hhandler : w.grammars.handler? state.current.grammar = some handler) :
    (completions id p).run w =
      ((handler.completions (shown d state w) p).answer.mapError .broken,
        w.absorb state.key none (handler.completions (shown d state w) p)) := by
  rw [completions, run_bind, run_document_of_some hd]
  simp only
  rw [run_askAt_of_some hstate (by rw [hhandler, Option.bind_some])]

end Query

namespace Server

open Text (byteSize isBoundary)

variable {s : Server} {w : Workspace} {uri : String} {d : Document} {p : Lsp.Position}
  {q : Position}
  {state : SectionState} {grammars : GrammarRegistry}

/-- The completions that the handler of a section has for a position, and what it leaves. Without a
handler there are none. -/
def completeIn (w : Workspace) (d : Document) (state : SectionState) (q : Position) :
    Workspace × Except Lsp.RequestError Lsp.Answer :=
  match w.grammars.handler? state.current.grammar with
  | none => (w, .ok (.completions none))
  | some handler =>
    let reply := handler.completions (d.view state) q
    (w.absorb state.key none reply,
      match reply.answer with
      | .ok completions => .ok (.completions (Lsp.completionResponse completions))
      | .error _ => .error .internal)

/-- The target of the reference at a position, of those that the handler of a section finds, and
what the handler leaves. Without one that finds references there is none. -/
def defineIn (w : Workspace) (uri : String) (d : Document) (state : SectionState) (q : Position) :
    Workspace × Except Lsp.RequestError Lsp.Answer :=
  match (w.grammars.handler? state.current.grammar).bind Handler.references? with
  | none => (w, .ok (.definition none))
  | some find =>
    let reply := find (d.view state)
    (w.absorb state.key none reply,
      match reply.answer with
      | .ok resolvers => .ok (.definition (((resolverAt resolvers uri q).bind fun r =>
          (r.resolveWith w.context?).toOption).bind (Lsp.locationOf? w)))
      | .error _ => .error .internal)

/-- In an open document a client position is that of the text. -/
theorem positionIn?_eq (hd : w.document? uri = some d) (p : Lsp.Position) :
    positionIn? w uri p = d.index.positionOfLsp? p := by
  rw [positionIn?, hd]
  rfl

/-- Where there is no position there are no completions. -/
theorem complete_of_none (hnone : positionIn? w uri p = none) :
    complete w uri p = (w, .ok (.completions none)) := by
  rw [complete, hnone]

/-- Where there is no position there is no definition. -/
theorem define_of_none (hnone : positionIn? w uri p = none) :
    define w uri p = (w, .ok (.definition none)) := by
  rw [define, hnone]

/-- Completions come from the section at the line of the position. -/
theorem complete_eq (hw : w.WellFormed) (hd : w.document? uri = some d)
    (hq : d.index.positionOfLsp? p = some q) (hstate : d.sectionAt? q.line = some state) :
    complete w uri p = completeIn w d state q := by
  rw [complete, positionIn?_eq hd, hq, completeIn]
  cases hhandler : w.grammars.handler? state.current.grammar with
  | none =>
      simp only [consult, Query.run_completions_of_noHandler hd hstate hhandler]
      rfl
  | some handler =>
      simp only [consult, Query.run_completions_of_handler hd hstate hhandler,
        hw.shown_of_sectionAt? hd hstate]
      cases (handler.completions (d.view state) q).answer <;> rfl

/-- The definition comes from the section at the line of the position. -/
theorem define_eq (hw : w.WellFormed) (hd : w.document? uri = some d)
    (hq : d.index.positionOfLsp? p = some q) (hstate : d.sectionAt? q.line = some state) :
    define w uri p = defineIn w uri d state q := by
  rw [define, positionIn?_eq hd, hq, defineIn]
  cases hfind : (w.grammars.handler? state.current.grammar).bind Handler.references? with
  | none =>
      have hnone : ∀ other, d.sectionAt? q.line = some other →
          (w.grammars.handler? other.current.grammar).bind Handler.references? = none := by
        intro other hother
        obtain rfl := Option.some.inj (hstate.symm.trans hother)
        exact hfind
      simp only [consult, Query.run_definition_of_noProvider hd hnone]
      rfl
  | some find =>
      simp only [consult, Query.run_definition_of_provider hd hstate hfind,
        hw.shown_of_sectionAt? hd hstate]
      cases (find (d.view state)).answer <;> rfl

/-- For completions in a section only the handler of its grammar matters. -/
theorem completeIn_withGrammars (hsame : grammars.handler? state.current.grammar =
      w.grammars.handler? state.current.grammar) :
    completeIn (w.withGrammars grammars) d state q =
      ((completeIn w d state q).1.withGrammars grammars, (completeIn w d state q).2) := by
  rw [completeIn, completeIn, Workspace.grammars_withGrammars, hsame]
  cases w.grammars.handler? state.current.grammar with
  | none => rfl
  | some handler => simp only [Workspace.absorb_withGrammars]

/-- For a definition in a section only the handler of its grammar matters. -/
theorem defineIn_withGrammars (hsame : grammars.handler? state.current.grammar =
      w.grammars.handler? state.current.grammar) :
    defineIn (w.withGrammars grammars) uri d state q =
      ((defineIn w uri d state q).1.withGrammars grammars, (defineIn w uri d state q).2) := by
  rw [defineIn, defineIn, Workspace.grammars_withGrammars, hsame]
  cases (w.grammars.handler? state.current.grammar).bind Handler.references? with
  | none => rfl
  | some find =>
      simp only [Workspace.absorb_withGrammars]
      rfl

/-- The server with other handlers. -/
def withGrammars (s : Server) (grammars : GrammarRegistry) : Server :=
  { s with workspace := s.workspace.withGrammars grammars }

/-- To reply, the server asks no handler but that of the grammar, if there is one: with any other
handlers in place of the rest it answers the same and is left the same. -/
def AsksOnly (s : Server) (grammar? : Option String) (request : Lsp.Request) : Prop :=
  ∀ grammars : GrammarRegistry,
    (∀ grammar ∈ grammar?, grammars.handler? grammar = s.workspace.grammars.handler? grammar) →
      (s.withGrammars grammars).reply request =
        ((s.reply request).1.withGrammars grammars, (s.reply request).2)

/-- At the client position there is nothing, and nobody is asked. -/
structure FindsNothing (s : Server) (uri : String) (p : Lsp.Position) : Prop where
  completion_eq : s.reply (.completion uri p) = (s, [], .ok (.completions none))
  definition_eq : s.reply (.definition uri p) = (s, [], .ok (.definition none))
  completion_asks : s.AsksOnly none (.completion uri p)
  definition_asks : s.AsksOnly none (.definition uri p)

/-- At the client position, the handler of the section at its line is asked about the position to
which it leads, and nobody else is. -/
structure Reaches (s : Server) (uri : String) (d : Document) (p : Lsp.Position) (q : Position)
    (state : SectionState) : Prop where
  leadsTo : d.index.LeadsTo p q
  lookUp : ∃ located, d.LookUp p.line (some state) located
  completion_eq : s.reply (.completion uri p) = s.replyWith (completeIn s.workspace d state q)
  definition_eq : s.reply (.definition uri p) = s.replyWith (defineIn s.workspace uri d state q)
  completion_asks : s.AsksOnly (some state.current.grammar) (.completion uri p)
  definition_asks : s.AsksOnly (some state.current.grammar) (.definition uri p)

/-- Below the text there is nothing. -/
theorem findsNothing (hd : s.workspace.document? uri = some d)
    (hl : d.index.height ≤ p.line) : s.FindsNothing uri p := by
  have hnone : positionIn? s.workspace uri p = none := by
    rw [positionIn?_eq hd]
    exact LineIndex.positionOfLsp?_eq_none hl
  have hcompletion := complete_of_none hnone
  have hdefinition := define_of_none hnone
  refine ⟨congrArg s.replyWith hcompletion, congrArg s.replyWith hdefinition,
    fun grammars _ => ?_, fun grammars _ => ?_⟩
  · have hother := complete_of_none (w := s.workspace.withGrammars grammars) hnone
    rw [reply, reply, hcompletion]
    exact congrArg (s.withGrammars grammars).replyWith hother
  · have hother := define_of_none (w := s.workspace.withGrammars grammars) hnone
    rw [reply, reply, hdefinition]
    exact congrArg (s.withGrammars grammars).replyWith hother

/-- A client position on a counted line reaches the section at this line. -/
theorem exists_reaches (hw : s.workspace.WellFormed) (hd : s.workspace.document? uri = some d)
    (hsize : d.index.length < UInt32.size) (hl : p.line < d.index.lineCount)
    (hq : d.index.positionOfLsp? p = some q) : ∃ state, s.Reaches uri d p q state := by
  obtain ⟨q', hq', hleads⟩ := LineIndex.exists_leadsTo hsize (hl.trans_le (lowWord_le _))
  obtain rfl := Option.some.inj (hq.symm.trans hq')
  have hlookUp := (hw.opened uri d hd).lookUp p.line
  cases hstate : d.sectionAt? p.line with
  | none => exact absurd (hlookUp.eq_none_iff.1 hstate) (Nat.not_le.2 hl)
  | some state =>
      -- The section is looked up at the line of the position, which is still that of the client.
      have hfound : d.sectionAt? q.line = some state := hleads.line_eq ▸ hstate
      have hcompletion := complete_eq hw hd hq hfound
      have hdefinition := define_eq hw hd hq hfound
      refine ⟨state, hleads, ⟨_, hstate ▸ hlookUp⟩, congrArg s.replyWith hcompletion,
        congrArg s.replyWith hdefinition, fun grammars hsame => ?_, fun grammars hsame => ?_⟩
      · have hother := complete_eq (hw.withGrammars grammars) hd hq hfound
        rw [completeIn_withGrammars (hsame _ rfl), ← hcompletion] at hother
        exact congrArg (s.withGrammars grammars).replyWith hother
      · have hother := define_eq (hw.withGrammars grammars) hd hq hfound
        rw [defineIn_withGrammars (hsame _ rfl), ← hdefinition] at hother
        exact congrArg (s.withGrammars grammars).replyWith hother

/-- Offers the place at which it is asked. -/
def locator : Handler where
  name := "Pure"
  completions := fun view p => .answering view [⟨p.text, none, none⟩]

/-- The server of the locator with one document open, in which an empty line stands behind a
break. -/
def located : Server :=
  (create .empty (.ofList [locator])).run
    [⟨"initialize", some (.integer 1), some (.object [("capabilities", .object [])])⟩,
      ⟨"textDocument/didOpen", none, some (.object [("textDocument",
        .object [("uri", .string "file:///notes"), ("languageId", .string "plain"),
          ("version", .integer 1), ("text", .string "é😀\n")])])⟩]

end Server

end Polyglot
