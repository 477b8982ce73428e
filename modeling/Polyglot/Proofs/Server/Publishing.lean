import Polyglot.Proofs.Server.Handling
import Polyglot.Proofs.Workspace.Diagnosing

/-!
# Published diagnostics

After a document is opened or its text is changed, the handlers of its sections are asked for
diagnostics under a new token. If all of them answer and none cancels the token, what they answered
is published; after one that breaks off or cancels the token nobody is asked and nothing is
published (`collects_publish`). Closing publishes that there are no diagnostics. No other message
publishes anything (`published_diagnostics_match_text`).
-/

set_option autoImplicit false

namespace Polyglot

namespace Workspace

variable {w : Workspace} {uri text : String} {e : Edit}

/-- A document is open with a text and has the sections of the text. -/
structure HasText (w : Workspace) (uri text : String) (d : Document) : Prop where
  document_eq : w.document? uri = some d
  index_eq : d.index = .ofText text
  sections_eq : d.sections.map SectionState.current = w.segmenter.segment (.ofText text)

/-- The handlers that are told of an edit do not change the text. -/
theorem WellFormed.exists_hasText (hw : w.WellFormed) {d : Document}
    (hd : (w.effect e).1.document? uri = some d) (hindex : d.index = .ofText text) :
    ∃ d', (w.apply e).HasText uri text d' := by
  have halike := (hw.effect e).alike_deliver (w.effect e).2
  rw [← apply_eq_deliver_effect] at halike
  obtain ⟨d', hd', hbare⟩ := halike.exists_document' hd
  have hindex' : d'.index = .ofText text := (congrArg Document.index hbare).trans hindex
  refine ⟨d', hd', hindex', ?_⟩
  rw [← hindex']
  exact ((hw.apply e).opened uri d' hd').current_eq

/-- A document that is opened has its text. -/
theorem WellFormed.exists_hasText_openText (hw : w.WellFormed) (uri text : String) :
    ∃ d, (w.openText uri text).HasText uri text d := by
  have hinstall := document?_install (w := w) uri text uri
  rw [if_pos rfl] at hinstall
  exact hw.exists_hasText (e := .openText uri text) hinstall rfl

/-- A document into which a text is put has it. -/
theorem WellFormed.exists_hasText_putText (hw : w.WellFormed) (uri text : String) :
    ∃ d, (Server.putText w uri text).HasText uri text d := by
  rw [Server.putText_eq_apply, Server.textEdit]
  cases hd : w.document? uri with
  | none => exact hw.exists_hasText_openText uri text
  | some d => exact hw.exists_hasText (document?_effect_changeText hd text) rfl

end Workspace

namespace Server

/-- The workspace after the diagnostics of a document were collected, given what was replied. -/
def collected (w : Workspace) (uri : String)
    (replies : List (SectionKey × Reply (List Diagnostic))) : Workspace :=
  let w := w.cancelTask (diagnosticsTask uri)
  let token := w.taskToken (diagnosticsTask uri)
  ((w.begun (diagnosticsTask uri)).absorbAll token replies).ended token

/-- What the handlers of a document's sections reply, in order, if all of them are asked. -/
def replies (w : Workspace) (uri : String) (d : Document) :
    List (SectionKey × Reply (List Diagnostic)) :=
  d.diagnosticReplies w.grammars ⟨diagnosticsTask uri, false⟩ d.sections

/-- What is to become of a workspace, and what is to be announced, when the diagnostics of a
document are collected. -/
structure Collects (w : Workspace) (uri : String) (version : Int) (d : Document)
    (result : Workspace × List Lsp.Announcement) : Prop where
  /-- If nobody breaks off or cancels the token, all are asked and all that they answer is
  published. -/
  whole : (replies w uri d).any (·.2.stops) = false →
    result = (collected w uri (replies w uri d),
      [.published uri (Lsp.diagnosticItems (Reply.answers (replies w uri d)) uri d.index)
        (some version)])
  /-- The first who breaks off or cancels the token is the last one to be asked, and nothing is
  published. -/
  cut : ∀ before reply after, replies w uri d = before ++ reply :: after →
    before.any (·.2.stops) = false → reply.2.stops = true →
    result = (collected w uri (before ++ [reply]), [])

variable {w : Workspace} {uri : String} {d : Document}

/-- What is joined of the replies that come is the answer, and what they leave is all that is
left. -/
theorem run_diagnosticItems (hw : w.WellFormed) (hd : w.document? uri = some d) {token : TokenKey}
    {id : String} (hbears : w.Bears token ⟨id, false⟩)
    {replies : List (SectionKey × Reply (List Diagnostic))}
    (hreplies : d.diagnosticReplies w.grammars ⟨id, false⟩ d.sections = replies) :
    (diagnosticItems uri token).run w =
      (((Reply.joined (Reply.given replies)).mapError QueryFailure.broken).map
          (Lsp.diagnosticItems · uri d.index),
        w.absorbAll token (Reply.given replies)) := by
  have hdisplays : w.Displays d d.sections :=
    fun state hstate => hw.view?_eq_some hd (List.mem_append_left _ hstate)
  have hnodup : (d.sections.map SectionState.key).Nodup := by
    have hall := (hw.opened uri d hd).nodup
    rw [List.map_append] at hall
    exact hall.of_append_left
  have hgather := Query.run_gatherDiagnostics hbears hdisplays hnodup
  rw [diagnosticItems, Query.run_bind, Query.run_document_of_some hd]
  simp only
  rw [Query.run_bind, Query.diagnostics, Query.run_bind, Query.run_document_of_some hd]
  simp only
  rw [hgather, hreplies]
  cases Reply.joined (Reply.given replies) <;> rfl

/-- The task leaves what the replies leave that come, and it is cancelled if one of them cancels
it. -/
theorem runTask_diagnosticItems (hw : w.WellFormed) (hd : w.document? uri = some d) :
    (w.cancelTask (diagnosticsTask uri)).runTask (diagnosticsTask uri) (diagnosticItems uri) =
      (⟨((Reply.joined (Reply.given (replies w uri d))).mapError QueryFailure.broken).map
            (Lsp.diagnosticItems · uri d.index),
          (Reply.given (replies w uri d)).any (·.2.requests.contains .cancel)⟩,
        collected w uri (Reply.given (replies w uri d))) := by
  have hlasting := Workspace.lasting_alike w
  have hbears := (w.cancelTask (diagnosticsTask uri)).bears_begun (diagnosticsTask uri)
  have hbegun : ((w.cancelTask (diagnosticsTask uri)).begun (diagnosticsTask uri)).WellFormed :=
    (hlasting.tokens _ (Workspace.keeps_cancelTask hlasting ⟨hw, .refl w⟩ _)).1
  have hrun := run_diagnosticItems hbegun hd hbears (rfl : _ = replies w uri d)
  have hleft := (Workspace.follows_bears _ _).absorbAll hbears (Reply.given (replies w uri d))
  rw [Workspace.runTask_of_run hrun, (Workspace.bears_iff.1 hleft).2, Bool.false_or]
  rfl

/-- What is published are the diagnostics that the handlers of the sections give for the text. -/
theorem collects_publish (hw : w.WellFormed) (hd : w.document? uri = some d) (version : Int) :
    Collects w uri version d (publish w uri version) := by
  have htask := runTask_diagnosticItems hw hd
  constructor
  · intro hnone
    have hgoes : ∀ reply ∈ replies w uri d, reply.2.stops = false :=
      fun reply hreply => by simpa using List.any_eq_false.1 hnone reply hreply
    have hcalm : (replies w uri d).any (·.2.requests.contains .cancel) = false := by
      rw [List.any_eq_false]
      intro reply hreply
      rw [(Reply.stops_eq_false_iff.1 (hgoes reply hreply)).2]
      exact Bool.false_ne_true
    have hjoined := Reply.joined_eq_ok fun reply hreply =>
      (Reply.stops_eq_false_iff.1 (hgoes reply hreply)).1
    rw [Reply.given_eq_self hnone, hjoined, hcalm] at htask
    rw [publish, htask]
    rfl
  · intro before reply after hsplit hnone hstops
    rw [hsplit, Reply.given_append hnone hstops] at htask
    rw [publish, htask]
    cases hjoined : Reply.joined (before ++ [reply]) with
    | error panic => rfl
    | ok answers =>
        have hlast : reply ∈ before ++ [reply] :=
          List.mem_append_right _ (List.mem_singleton_self _)
        have hanswered : reply.2.answer.isOk = true := by
          cases hbroken : reply.2.answer.isOk with
          | true => rfl
          | false =>
              obtain ⟨panic, hpanic⟩ := Reply.exists_joined_eq_error hlast hbroken
              cases hjoined.symm.trans hpanic
        have hcancels : reply.2.requests.contains .cancel = true := by
          simpa [Reply.stops, hanswered] using hstops
        have hany : (before ++ [reply]).any (·.2.requests.contains .cancel) = true :=
          List.any_eq_true.2 ⟨reply, hlast, hcancels⟩
        simp only [hany]
        rfl

/-- Finds a fault in the first line of each section and does with its token what is asked. -/
def faultFinder (name : String) (requests : List TokenRequest) : Handler where
  name := name
  diagnostics := fun view _ =>
    ⟨.ok [⟨⟨view.documentId, .point ⟨view.current.start, 0⟩⟩, .error, name, .parser⟩],
      view.properties, requests, []⟩

-- All sections have their say; one that cancels the token silences those before it as well.
example :
    (publish ((Workspace.empty (.ofList [faultFinder "Pure" [], faultFinder "Query" []])
        default).openText "notes" "x\n###Query\n") "notes" 1).2 =
      [.published "notes" [⟨⟨⟨0, 0⟩, ⟨0, 1⟩⟩, .error, .parser, "Pure"⟩,
        ⟨⟨⟨1, 0⟩, ⟨1, 1⟩⟩, .error, .parser, "Query"⟩] (some 1)] ∧
    (publish ((Workspace.empty (.ofList [faultFinder "Pure" [], faultFinder "Query" [.cancel]])
        default).openText "notes" "x\n###Query\n") "notes" 1).2 = [] := by
  decide +kernel

/-! ## What messages publish -/

/-- What a client is told of diagnostics when the server handles a message. -/
structure Publishes (s : Server) (m : Message) : Prop where
  opened : ∀ uri version text, s.heard? m = some (.opened uri version text) →
    ∃ d, (s.workspace.openText uri text).HasText uri text d ∧
      Collects (s.workspace.openText uri text) uri version d
        ((s.handle m).server.workspace, (s.handle m).announcements)
  /-- A change has one text, which is the first if there are several. -/
  changed : ∀ uri version text more, s.heard? m = some (.changed uri version (text :: more)) →
    ∃ d, (putText s.workspace uri text).HasText uri text d ∧
      Collects (putText s.workspace uri text) uri version d
        ((s.handle m).server.workspace, (s.handle m).announcements)
  unchanged : ∀ uri version, s.heard? m = some (.changed uri version []) →
    (s.handle m).announcements = []
  closed : ∀ uri, s.heard? m = some (.closed uri) →
    (s.handle m).announcements = [.published uri [] none]
  others : ∀ uri items version?, .published uri items version? ∈ (s.handle m).announcements →
    (s.heard? m).isSome ∧
      m.method ∈ ["textDocument/didOpen", "textDocument/didChange", "textDocument/didClose"]

/-- A reply to a request publishes nothing. -/
theorem not_published_mem_reply (s : Server) (request : Lsp.Request) (uri : String)
    (items : List Lsp.DiagnosticItem) (version? : Option Int) :
    .published uri items version? ∉ (s.reply request).2.1 := by
  have houtcome : ∀ result : Except QueryFailure CommandOutcome,
      .published uri items version? ∉ (outcome result).1 := by
    intro result
    unfold outcome
    split <;> simp
  cases request with
  | execute call =>
      simp only [reply]
      split
      · exact houtcome _
      · exact List.not_mem_nil
  | _ => exact List.not_mem_nil

variable {s : Server} {m : Message}

/-- Only notices about texts publish diagnostics. -/
theorem heard_of_published_mem {items : List Lsp.DiagnosticItem} {version? : Option Int}
    (hmem : .published uri items version? ∈ (s.handle m).announcements) :
    ∃ n, s.heard? m = some n ∧ n ≠ .ready := by
  have hturn := handle_turn s m
  generalize s.handle m = handled at hturn hmem
  cases hturn with
  | idle => cases hmem
  | starts => cases hmem
  | replies unheard serving request id =>
      exact absurd hmem (not_published_mem_reply s request uri items version?)
  | hears n heard =>
      refine ⟨n, heard, ?_⟩
      rintro rfl
      simp [hear, heed] at hmem

/-- A sound server publishes for each message what it should. -/
theorem Sound.publishes {grammars : GrammarRegistry} (hs : Sound grammars s) (m : Message) :
    Publishes s m := by
  obtain ⟨segmenter, hreachable⟩ := hs.reachable
  have hw := hreachable.wellFormed
  constructor
  · intro uri version text heard
    obtain ⟨d, hd⟩ := hw.exists_hasText_openText uri text
    rw [handle_of_heard heard]
    exact ⟨d, hd, collects_publish (hw.apply (.openText uri text)) hd.document_eq version⟩
  · intro uri version text more heard
    obtain ⟨d, hd⟩ := hw.exists_hasText_putText uri text
    have hput : (putText s.workspace uri text).WellFormed := by
      rw [putText_eq_apply]
      exact hw.apply _
    rw [handle_of_heard heard]
    exact ⟨d, hd, collects_publish hput hd.document_eq version⟩
  · intro uri version heard
    rw [handle_of_heard heard]
    rfl
  · intro uri heard
    rw [handle_of_heard heard]
    rfl
  · intro uri items version? hmem
    obtain ⟨n, heard, hnotice⟩ := heard_of_published_mem hmem
    refine ⟨by rw [heard]; rfl, ?_⟩
    rw [method_of_heard heard]
    cases n with
    | ready => exact absurd rfl hnotice
    | opened uri version text => exact List.mem_cons_self
    | changed uri version texts => exact List.mem_cons_of_mem _ List.mem_cons_self
    | closed uri => exact List.mem_cons_of_mem _ (List.mem_cons_of_mem _ List.mem_cons_self)

/-- Whatever messages came before: what a message publishes are the diagnostics of the text that it
gives to a document, or that a closed document has none. -/
theorem published_diagnostics_match_text (files : FileTree) (grammars : GrammarRegistry)
    (ms : List Message) (m : Message) : Publishes ((create files grammars).run ms) m :=
  (sound_run files grammars ms).publishes m

end Server

end Polyglot
