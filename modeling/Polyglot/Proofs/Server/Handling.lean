import Polyglot.Proofs.Workspace.Asking
import Polyglot.Proofs.Workspace.Ledger
import Polyglot.Server.Message

/-!
# What a message does to the server

While it serves, the server hears the notices among its messages (`Server.heard?`) and replies to
requests. All other messages leave the workspace alone, but for the first one, which chooses the
grammar of text without a declaration line (`handle_turn`). So the workspace is reachable after any
messages (`sound_run`), and only what the server hears changes the documents.
-/

set_option autoImplicit false

namespace Polyglot

namespace Server

/-- The notice that a message tells the server, if it is told one. -/
def heard? (s : Server) (m : Message) : Option Lsp.Notice :=
  match s.phase, Method.ofName m.method, m.id? with
  | .serving, .notice reader, none => (m.read reader).toOption
  | _, _, _ => none

/-- The request that a message makes, if it makes one that the server replies to. -/
def asked? (s : Server) (m : Message) : Option Lsp.Request :=
  match s.phase, Method.ofName m.method, m.id? with
  | .serving, .request reader, some _ => (m.read reader).toOption
  | _, _, _ => none

/-- What a message does: nothing to the workspace, the beginning, or what a notice or a request
demands. -/
inductive Turn (s : Server) (m : Message) : Handled → Prop where
  | idle (unheard : s.heard? m = none) (phase : Phase)
      (waits : phase = .waiting → s.phase = .waiting) (response? : Option Lsp.Response) :
      Turn s m ⟨{ s with phase := phase }, response?, []⟩
  | starts (unheard : s.heard? m = none) (waiting : s.phase = .waiting) (roots : Lsp.Roots)
      (response? : Option Lsp.Response) : Turn s m ⟨s.start roots, response?, []⟩
  | hears (n : Lsp.Notice) (heard : s.heard? m = some n) :
      Turn s m ⟨(s.hear n).1, none, (s.hear n).2⟩
  | replies (unheard : s.heard? m = none) (serving : s.phase = .serving) (request : Lsp.Request)
      (id : Json) (asked : s.asked? m = some request) :
      Turn s m ⟨(s.reply request).1, some ⟨id, (s.reply request).2.2⟩, (s.reply request).2.1⟩

variable {s : Server} {m : Message}

/-- Notices are heard while the server is serving, and at no other time. -/
theorem heard?_of_phase (hphase : s.phase ≠ .serving) : s.heard? m = none := by
  unfold heard?
  split
  · rename_i hserving _ _
    exact absurd hserving hphase
  · rfl

/-- A message is a notice by its method only. -/
theorem heard?_of_method {method : Method} (hmethod : Method.ofName m.method = method)
    (hother : ∀ reader, method ≠ .notice reader) : s.heard? m = none := by
  unfold heard?
  split
  · rename_i reader _ hnotice _
    exact absurd (hmethod.symm.trans hnotice) (hother reader)
  · rfl

/-- A message that is neither a notice nor a request leaves the server in its phase. -/
theorem turn_pass (hnone : s.heard? m = none) : Turn s m s.pass :=
  .idle hnone s.phase id none

/-- A message that is only answered changes nothing. -/
theorem turn_respond (hnone : s.heard? m = none)
    (result : Except Lsp.RequestError Lsp.Answer) : Turn s m (s.respond m result) :=
  .idle hnone s.phase id _

/-- A message that is refused in its phase changes nothing. -/
theorem turn_refuse (hphase : s.phase ≠ .serving) : Turn s m (s.refuse m) := by
  unfold refuse
  split <;> exact turn_respond (heard?_of_phase hphase) _

/-- The first message may start the server. -/
theorem turn_handleStart (hmethod : Method.ofName m.method = .start) :
    Turn s m (s.handleStart m) := by
  have hnone : s.heard? m = none := heard?_of_method hmethod fun reader => Method.noConfusion
  unfold handleStart
  split
  · exact turn_pass hnone
  · rename_i hwaiting _
    split
    · exact .starts hnone hwaiting _ _
    · exact turn_respond hnone _
  · exact turn_respond hnone _
  · exact turn_respond hnone _
  · exact turn_respond hnone _

/-- While the server is serving, a message is a notice, a request or neither. -/
theorem turn_handleServing (hserving : s.phase = .serving) :
    Turn s m (s.handleServing m (Method.ofName m.method)) := by
  cases hmethod : Method.ofName m.method with
  | stop =>
      have hnone := heard?_of_method (s := s) hmethod fun reader => Method.noConfusion
      simp only [handleServing, handleStop]
      split <;> exact .idle hnone .stopped Phase.noConfusion _
  | request reader =>
      have hnone := heard?_of_method (s := s) hmethod fun reader => Method.noConfusion
      simp only [handleServing, handleRequest]
      split
      · exact turn_pass hnone
      · rename_i id hid
        split
        · rename_i request hread
          refine .replies hnone hserving request id ?_
          simp only [asked?, hserving, hmethod, hid, hread]
          rfl
        · exact turn_respond hnone _
  | notice reader =>
      have hheard : s.heard? m = if m.id? = none then (m.read reader).toOption else none := by
        unfold heard?
        rw [hserving, hmethod]
        cases m.id? <;> simp
      simp only [handleServing, handleNotice]
      cases hid : m.id? with
      | some id =>
          rw [hid, if_neg (by simp)] at hheard
          exact turn_respond hheard _
      | none =>
          rw [hid, if_pos rfl] at hheard
          cases hread : m.read reader with
          | ok n =>
              rw [hread] at hheard
              exact .hears n hheard
          | error cause =>
              rw [hread] at hheard
              exact turn_pass hheard
  | unserved reader =>
      have hnone := heard?_of_method (s := s) hmethod fun reader => Method.noConfusion
      simp only [handleServing, handleUnserved]
      split <;> exact turn_respond hnone _
  | unheeded =>
      exact turn_respond (heard?_of_method hmethod fun reader => Method.noConfusion) _
  | start | leave | withdraw | unknown =>
      exact turn_pass (heard?_of_method hmethod fun reader => Method.noConfusion)

/-- Every message is handled in one of these ways. -/
theorem handle_turn (s : Server) (m : Message) : Turn s m (s.handle m) := by
  unfold handle
  split
  · rename_i hleft
    exact turn_pass (heard?_of_phase (by rw [hleft]; exact Phase.noConfusion))
  · have hserve : Turn s m (if s.phase = .serving then s.handleServing m (Method.ofName m.method)
        else s.refuse m) := by
      split
      · rename_i hserving
        exact turn_handleServing hserving
      · rename_i hphase
        exact turn_refuse hphase
    unfold handlePresent
    cases hmethod : Method.ofName m.method with
    | start => exact turn_handleStart hmethod
    | leave =>
        exact .idle (heard?_of_method hmethod fun reader => Method.noConfusion) .left
          Phase.noConfusion none
    | withdraw =>
        exact turn_respond (heard?_of_method hmethod fun reader => Method.noConfusion) _
    | unknown =>
        have hnone := heard?_of_method (s := s) hmethod fun reader => Method.noConfusion
        simp only [handleUnknown]
        split
        · exact turn_pass hnone
        · exact turn_respond hnone _
    | _ =>
        rw [hmethod] at hserve
        exact hserve

/-- The notices that the server hears in messages, one after the other. -/
def notices (s : Server) : List Message → List Lsp.Notice
  | [] => []
  | m :: ms => (s.heard? m).toList ++ (s.handle m).server.notices ms

/-- What the server hears in a message has its effect, and nothing else does. -/
theorem handle_of_heard {n : Lsp.Notice} (hheard : s.heard? m = some n) :
    s.handle m = ⟨(s.hear n).1, none, (s.hear n).2⟩ := by
  have hturn := handle_turn s m
  generalize s.handle m = handled at hturn ⊢
  cases hturn with
  | hears n' heard =>
      obtain rfl := Option.some.inj (heard.symm.trans hheard)
      rfl
  | idle unheard => cases unheard.symm.trans hheard
  | starts unheard => cases unheard.symm.trans hheard
  | replies unheard => cases unheard.symm.trans hheard

/-- A request is replied to. -/
theorem handle_of_asked {request : Lsp.Request} (hasked : s.asked? m = some request) :
    ∃ id, s.handle m =
      ⟨(s.reply request).1, some ⟨id, (s.reply request).2.2⟩, (s.reply request).2.1⟩ := by
  unfold asked? at hasked
  split at hasked
  · rename_i reader id hserving hmethod hid
    cases hread : m.read reader with
    | error cause =>
        rw [hread] at hasked
        cases hasked
    | ok request' =>
        rw [hread] at hasked
        obtain rfl := Option.some.inj hasked
        refine ⟨id, ?_⟩
        simp only [handle, hserving, reduceCtorEq, if_false, handlePresent, hmethod, if_true,
          handleServing, handleRequest, hid, hread]
  · cases hasked

/-- A message that is neither heard nor replied to leaves the workspace as it is, or begins. -/
theorem handle_of_unanswered (hheard : s.heard? m = none) (hasked : s.asked? m = none) :
    (s.handle m).server.workspace = s.workspace ∨
      ∃ roots, (s.handle m).server = s.start roots := by
  have hturn := handle_turn s m
  generalize s.handle m = handled at hturn ⊢
  cases hturn with
  | idle unheard phase waits response? => exact Or.inl rfl
  | starts unheard waiting roots response? => exact Or.inr ⟨roots, rfl⟩
  | hears n heard => cases heard.symm.trans hheard
  | replies unheard serving request id asked => cases asked.symm.trans hasked

/-- A notice is heard under its own name. -/
theorem method_of_heard {n : Lsp.Notice} (hheard : s.heard? m = some n) :
    m.method = match n with
      | .ready => "initialized"
      | .opened _ _ _ => "textDocument/didOpen"
      | .changed _ _ _ => "textDocument/didChange"
      | .closed _ => "textDocument/didClose" := by
  have hread : ∃ reader, Method.ofName m.method = .notice reader ∧
      ∃ params, n = reader.take params := by
    unfold heard? at hheard
    split at hheard
    · rename_i reader _ hmethod _
      refine ⟨reader, hmethod, ?_⟩
      unfold Message.read at hheard
      cases hparams : m.params? with
      | none =>
          rw [hparams] at hheard
          cases hheard
      | some params =>
          rw [hparams] at hheard
          simp only [Lsp.Params.Reader.read] at hheard
          cases hplain : reader.shape.read .written params with
          | error mismatch =>
              rw [hplain] at hheard
              cases hheard
          | ok plain =>
              rw [hplain] at hheard
              exact ⟨plain, (Option.some.inj hheard).symm⟩
    · cases hheard
  obtain ⟨reader, hmethod, params, rfl⟩ := hread
  unfold Method.ofName at hmethod
  split at hmethod
  all_goals try cases hmethod
  · assumption
  · assumption
  · assumption
  · assumption
  · split at hmethod
    · cases hmethod
    · split at hmethod <;> cases hmethod

/-! ## What replies and publications keep -/

section Lasts

variable {P : Workspace → Prop} {w : Workspace}

/-- To consult a query keeps what the query keeps. -/
theorem keeps_consult {β : Type} {q : Query β} (hq : q.Keeps P) (hw : P w) (default : β)
    (answer : β → Lsp.Answer) : P (consult w q default answer).1 :=
  hq w hw

/-- To reply to a question, the server asks handlers without a token. -/
theorem keeps_reply_question (hP : Steady P) (hw : P s.workspace) {request : Lsp.Request}
    (hquestion : ∀ call, request ≠ .execute call) : P (s.reply request).1.workspace := by
  cases request with
  | completion uri p =>
      simp only [reply, replyWith, complete]
      split
      · exact hw
      · exact keeps_consult (.completions hP uri _) hw _ _
  | definition uri p =>
      simp only [reply, replyWith, define]
      split
      · exact hw
      · exact keeps_consult (.definition hP uri _) hw _ _
  | outline uri =>
      simp only [reply, replyWith, Server.outline]
      split
      · exact hw
      · exact keeps_consult (.declarations hP uri) hw _ _
  | actions uri r =>
      simp only [reply, replyWith, Server.actions]
      exact keeps_consult (.commands hP uri r.start.line) hw _ _
  | execute call => exact absurd rfl (hquestion call)

variable (hP : Lasting P)
include hP

/-- To publish diagnostics keeps what asking for them keeps. -/
theorem keeps_publish (hw : P w) (uri : String) (version : Int) :
    P (publish w uri version).1 := by
  have htask := Workspace.keeps_runTask hP (Workspace.keeps_cancelTask hP hw (diagnosticsTask uri))
    (diagnosticsTask uri) (q := diagnosticItems uri) fun token =>
      .bind (.document uri) fun d => .bind (.diagnostics hP uri token) fun _ => .pure _
  unfold publish
  cases hrun : (w.cancelTask (diagnosticsTask uri)).runTask (diagnosticsTask uri)
    (diagnosticItems uri) with
  | mk task w' =>
      rw [hrun] at htask
      simp only
      cases task.result <;> exact htask

/-- To reply to a request, the server asks handlers at most. -/
theorem keeps_reply (hw : P s.workspace) (request : Lsp.Request) :
    P (s.reply request).1.workspace := by
  cases request with
  | execute call =>
      simp only [reply]
      split
      · exact Workspace.keeps_runTask hP hw _ fun token => .execute hP _ _ _ token
      · exact hw
  | _ => exact keeps_reply_question hP.steady hw fun _ => Lsp.Request.noConfusion

end Lasts

/-! ## Reachable workspaces -/

/-- The edit by which a document gets the text that a client has changed it to. -/
def textEdit (w : Workspace) (uri text : String) : Edit :=
  if (w.document? uri).isSome then .changeText uri text else .openText uri text

/-- A text is put by one edit of the workspace. -/
theorem putText_eq_apply (w : Workspace) (uri text : String) :
    putText w uri text = w.apply (textEdit w uri text) := by
  unfold putText textEdit
  cases hd : w.document? uri with
  | none =>
      have hfails : w.changeText uri text = .error (.unknownDocument uri) :=
        Workspace.edit_changeText_of_none hd text
      rw [hfails]
      rfl
  | some d =>
      obtain ⟨w', hchanges⟩ := Workspace.edit_changeText_of_some hd text
      rw [Option.isSome_some, if_pos rfl, Workspace.apply, hchanges]
      change w.changeText uri text = .ok w' at hchanges
      rw [hchanges]

/-- The workspace of a server is reachable, and untouched until the server is started. -/
structure Sound (grammars : GrammarRegistry) (s : Server) : Prop where
  untouched : s.phase = .waiting → s.workspace = .empty grammars default
  reachable : ∃ segmenter, Workspace.Reachable grammars segmenter s.workspace

/-- No reply changes the phase of the server. -/
theorem phase_reply (s : Server) (request : Lsp.Request) :
    (s.reply request).1.phase = s.phase := by
  cases request with
  | execute call =>
      simp only [reply]
      split <;> rfl
  | _ => rfl

variable {grammars : GrammarRegistry}

/-- A notice leads from a reachable workspace to a reachable one. -/
theorem reachable_heed {segmenter : Segmenter} {w : Workspace}
    (hw : Workspace.Reachable grammars segmenter w) (n : Lsp.Notice) :
    Workspace.Reachable grammars segmenter (heed w n).1 := by
  have hlasting := Workspace.lasting_reachable grammars segmenter
  cases n with
  | ready => exact hw
  | opened uri version text =>
      exact keeps_publish hlasting (hw.apply (.openText uri text)) uri version
  | changed uri version texts =>
      cases texts with
      | nil => exact hw
      | cons text more =>
          refine keeps_publish hlasting ?_ uri version
          rw [putText_eq_apply]
          exact hw.apply _
  | closed uri => exact (Workspace.keeps_cancelTask hlasting hw _).apply _

/-- A new server is sound. -/
theorem sound_create (files : FileTree) (grammars : GrammarRegistry) :
    Sound grammars (create files grammars) :=
  ⟨fun _ => rfl, default, .empty⟩

/-- Handling a message leaves the server sound. -/
theorem Sound.handle (hs : Sound grammars s) (m : Message) :
    Sound grammars (s.handle m).server := by
  obtain ⟨segmenter, hw⟩ := hs.reachable
  have hturn := handle_turn s m
  generalize s.handle m = handled at hturn ⊢
  cases hturn with
  | idle unheard phase waits response? => exact ⟨fun h => hs.untouched (waits h), segmenter, hw⟩
  | starts unheard waiting roots response? =>
      refine ⟨Phase.noConfusion, ?_⟩
      simp only [start, hs.untouched waiting]
      exact ⟨_, .empty⟩
  | hears n heard =>
      refine ⟨fun h => ?_, segmenter, reachable_heed hw n⟩
      have hwaiting : s.phase = .waiting := h
      rw [heard?_of_phase (by rw [hwaiting]; exact Phase.noConfusion)] at heard
      cases heard
  | replies unheard serving request id =>
      have hlasting := Workspace.lasting_reachable grammars segmenter
      refine ⟨fun h => ?_, segmenter, keeps_reply hlasting hw request⟩
      rw [phase_reply, serving] at h
      cases h

/-- The server is sound after any messages. -/
theorem sound_run (files : FileTree) (grammars : GrammarRegistry) (ms : List Message) :
    Sound grammars ((create files grammars).run ms) := by
  have hrun : ∀ s, Sound grammars s → Sound grammars (s.run ms) := by
    induction ms with
    | nil => exact fun s hs => hs
    | cons m ms ih => exact fun s hs => ih _ (hs.handle m)
  exact hrun _ (sound_create files grammars)

end Server

end Polyglot
