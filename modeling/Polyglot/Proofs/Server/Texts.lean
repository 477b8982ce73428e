import Polyglot.Proofs.Server.Handling

/-!
# The texts of the client and of the server

A client tells the server of its texts. It changes a text by a list of whole texts that take effect
one after the other, so its text is the last one; the server takes the first one of each list and
passes the others over. The documents that are open are the same on both sides, and so are their
texts as long as no list has two texts (`texts_of_client_and_server`), but not always
(`texts_differ_after_two_changes`).
-/

set_option autoImplicit false

namespace Polyglot

/-- Texts of open documents by their identifiers. -/
def Texts :=
  String → Option String

namespace Texts

/-- No document is open. -/
def none : Texts :=
  fun _ => .none

/-- The texts with one of them put in place or taken away. -/
def put (texts : Texts) (uri : String) (text? : Option String) : Texts :=
  fun other => if uri = other then text? else texts other

/-- The texts of a client after it has told a notice: the texts of a change take effect in the order
of the list. -/
def tell (texts : Texts) : Lsp.Notice → Texts
  | .ready => texts
  | .opened uri _ text => texts.put uri (some text)
  | .changed uri _ changes => changes.foldl (fun texts text => texts.put uri (some text)) texts
  | .closed uri => texts.put uri .none

/-- The texts of a client after it has told notices, none before. -/
def ofClient (ns : List Lsp.Notice) : Texts :=
  ns.foldl tell none

variable {texts : Texts} {uri : String}

/-- Putting a text changes what is known of one document only. -/
theorem put_apply (texts : Texts) (other : String) (text? : Option String) (uri : String) :
    texts.put other text? uri = if other = uri then text? else texts uri := rfl

/-- Of several whole texts the last one counts. -/
theorem foldl_put (changes : List String) (texts : Texts) (other uri : String) :
    changes.foldl (fun texts text => texts.put other (some text)) texts uri =
      if other = uri ∧ changes ≠ [] then changes.getLast? else texts uri := by
  induction changes generalizing texts with
  | nil => simp
  | cons change changes ih =>
      rw [List.foldl_cons, ih, put_apply]
      by_cases heq : other = uri
      · cases changes with
        | nil => simp [heq]
        | cons _ _ => simp [heq]
      · simp [heq]

end Texts

namespace Lsp.Notice

/-- The texts with which the document was last told of, given those before; none if it was closed
then. -/
def recent (uri : String) (before : List String) : Notice → List String
  | .opened other _ text => if other = uri then [text] else before
  | .changed other _ changes => if other = uri ∧ changes ≠ [] then changes else before
  | .closed other => if other = uri then [] else before
  | .ready => before

end Lsp.Notice

/-- The texts with which a document was last told of in notices. -/
def recentTexts (ns : List Lsp.Notice) (uri : String) : List String :=
  ns.foldl (Lsp.Notice.recent uri) []

/-- If no change has several texts, at most one text is recent. -/
theorem length_recentTexts_le {ns : List Lsp.Notice} {uri : String}
    (hsingle : ∀ version changes, .changed uri version changes ∈ ns → changes.length ≤ 1) :
    (recentTexts ns uri).length ≤ 1 := by
  have hfold : ∀ before : List String, before.length ≤ 1 →
      (ns.foldl (Lsp.Notice.recent uri) before).length ≤ 1 := by
    induction ns with
    | nil => exact fun _ hbefore => hbefore
    | cons n ns ih =>
        intro before hbefore
        refine ih (fun version changes hn =>
          hsingle version changes (List.mem_cons_of_mem n hn)) _ ?_
        cases n with
        | changed other version changes =>
            simp only [Lsp.Notice.recent]
            split
            · rename_i hchanges
              exact hsingle version changes (hchanges.1 ▸ List.mem_cons_self)
            · exact hbefore
        | ready => exact hbefore
        | opened other version text =>
            simp only [Lsp.Notice.recent]
            split
            · exact Nat.le_refl 1
            · exact hbefore
        | closed other =>
            simp only [Lsp.Notice.recent]
            split
            · exact Nat.zero_le 1
            · exact hbefore
  exact hfold [] (Nat.zero_le 1)

namespace Texts

variable {texts : Texts} {uri : String} {before : List String}

/-- The client has the last of the texts that it told of last. -/
theorem tell_eq (htexts : texts uri = before.getLast?) (n : Lsp.Notice) :
    texts.tell n uri = (n.recent uri before).getLast? := by
  cases n with
  | ready => exact htexts
  | opened other version text =>
      simp only [tell, Lsp.Notice.recent, put_apply]
      split
      · rfl
      · exact htexts
  | changed other version changes =>
      simp only [tell, Lsp.Notice.recent, foldl_put]
      split
      · rfl
      · exact htexts
  | closed other =>
      simp only [tell, Lsp.Notice.recent, put_apply]
      split
      · rfl
      · exact htexts

/-- The text that a client holds is the last one that it told. -/
theorem ofClient_eq (ns : List Lsp.Notice) (uri : String) :
    ofClient ns uri = (recentTexts ns uri).getLast? := by
  have hfold : ∀ (texts : Texts) (before : List String), texts uri = before.getLast? →
      ns.foldl tell texts uri = (ns.foldl (Lsp.Notice.recent uri) before).getLast? := by
    induction ns with
    | nil => exact fun _ _ htexts => htexts
    | cons n ns ih => exact fun _ _ htexts => ih _ _ (tell_eq htexts n)
  exact hfold none [] rfl

end Texts

namespace Workspace

/-- The texts of the open documents. -/
def texts (w : Workspace) : Texts :=
  fun uri => (w.document? uri).map Document.text

variable {w w' : Workspace} {uri : String}

/-- Workspaces with the same documents have the same texts. -/
theorem Alike.texts_eq (h : Alike w w') : w'.texts = w.texts := by
  funext uri
  have hbare := congrArg (Option.map Document.text) (h.document uri)
  rw [Option.map_map, Option.map_map] at hbare
  exact hbare

/-- Telling handlers of an edit changes no text. -/
theorem WellFormed.texts_apply (hw : w.WellFormed) (e : Edit) :
    (w.apply e).texts = (w.effect e).1.texts := by
  rw [apply_eq_deliver_effect]
  exact ((hw.effect e).alike_deliver _).texts_eq

/-- To open a document puts its text. -/
theorem texts_effect_openText (id text : String) :
    (w.effect (.openText id text)).1.texts = w.texts.put id (some text) := by
  funext uri
  have hnew := document?_install (w := w) id text uri
  change ((w.install id text).1.document? uri).map Document.text = _
  rw [hnew, Texts.put_apply]
  split <;> rfl

/-- To change a document puts the new text. -/
theorem texts_effect_changeText {id : String} {d : Document} (hd : w.document? id = some d)
    (text : String) : (w.effect (.changeText id text)).1.texts = w.texts.put id (some text) := by
  funext uri
  rw [Texts.put_apply, texts]
  split
  · rename_i heq
    rw [← heq, document?_effect_changeText hd text]
    rfl
  · rename_i hne
    rw [document?_effect_of_ne (e := .changeText id text) hne]
    rfl

/-- To close a document leaves no text of it. -/
theorem texts_effect_close (id : String) :
    (w.effect (.close id)).1.texts = w.texts.put id none := by
  funext uri
  rw [Texts.put_apply, texts]
  split
  · rename_i heq
    rw [← heq, document?_effect_close]
    rfl
  · rename_i hne
    rw [document?_effect_of_ne (e := .close id) hne]
    rfl

end Workspace

namespace Server

variable {w : Workspace} {uri : String} {before : List String}

/-- To publish diagnostics changes no text. -/
theorem texts_publish (hw : w.WellFormed) (uri : String) (version : Int) :
    (publish w uri version).1.texts = w.texts :=
  (keeps_publish (Workspace.lasting_alike w) ⟨hw, .refl w⟩ uri version).2.texts_eq

/-- The edit for a text puts this text. -/
theorem texts_textEdit (hw : w.WellFormed) (uri text : String) :
    (w.apply (textEdit w uri text)).texts = w.texts.put uri (some text) := by
  rw [hw.texts_apply, textEdit]
  cases hd : w.document? uri with
  | none => exact Workspace.texts_effect_openText uri text
  | some d => exact Workspace.texts_effect_changeText hd text

/-- To drop a text leaves none. -/
theorem texts_dropText (hw : w.WellFormed) (uri : String) :
    (dropText w uri).texts = w.texts.put uri none := by
  have hcancelled := Workspace.keeps_cancelTask (Workspace.lasting_alike w) ⟨hw, .refl w⟩
    (diagnosticsTask uri)
  rw [dropText, hcancelled.1.texts_apply, Workspace.texts_effect_close, hcancelled.2.texts_eq]

/-- The server has the first of the texts that it was told of last. -/
theorem texts_heed (hw : w.WellFormed) (htexts : w.texts uri = before.head?) (n : Lsp.Notice) :
    (heed w n).1.texts uri = (n.recent uri before).head? := by
  cases n with
  | ready => exact htexts
  | opened other version text =>
      have hopen : (heed w (.opened other version text)).1.texts =
        w.texts.put other (some text) := by
        refine (texts_publish (hw.apply (.openText other text)) other version).trans ?_
        rw [hw.texts_apply, Workspace.texts_effect_openText]
      simp only [hopen, Lsp.Notice.recent, Texts.put_apply]
      split
      · rfl
      · exact htexts
  | changed other version changes =>
      cases changes with
      | nil =>
          simp only [Lsp.Notice.recent, ne_eq, not_true_eq_false, and_false, if_false]
          exact htexts
      | cons text more =>
          have hput : (heed w (.changed other version (text :: more))).1.texts =
              w.texts.put other (some text) := by
            change (publish (putText w other text) other version).1.texts = _
            rw [putText_eq_apply, texts_publish (hw.apply _), texts_textEdit hw]
          simp only [hput, Lsp.Notice.recent, Texts.put_apply, ne_eq, reduceCtorEq,
            not_false_eq_true, and_true]
          split
          · rfl
          · exact htexts
  | closed other =>
      have hdrop : (heed w (.closed other)).1.texts = w.texts.put other none :=
        texts_dropText hw other
      simp only [hdrop, Lsp.Notice.recent, Texts.put_apply]
      split
      · rfl
      · exact htexts

/-- Only notices change the texts of the server. -/
theorem texts_handle {s : Server} {grammars : GrammarRegistry} (hs : Sound grammars s)
    (htexts : s.workspace.texts uri = before.head?) (m : Message) :
    (s.handle m).server.workspace.texts uri =
      ((s.heard? m).toList.foldl (Lsp.Notice.recent uri) before).head? := by
  obtain ⟨_, hw⟩ := hs.reachable
  have hturn := handle_turn s m
  generalize s.handle m = handled at hturn ⊢
  cases hturn with
  | idle unheard phase waits response? =>
      rw [unheard]
      exact htexts
  | starts unheard waiting roots response? =>
      rw [unheard]
      exact htexts
  | hears n heard =>
      rw [heard]
      exact texts_heed hw.wellFormed htexts n
  | replies unheard serving request id =>
      have hreply := keeps_reply (s := s) (Workspace.lasting_alike s.workspace)
        ⟨hw.wellFormed, .refl _⟩ request
      rw [unheard, hreply.2.texts_eq]
      exact htexts

/-- After messages the server has the first text of the last notice that told any. -/
theorem texts_run {grammars : GrammarRegistry} (ms : List Message) {s : Server}
    (hs : Sound grammars s) (htexts : s.workspace.texts uri = before.head?) :
    (s.run ms).workspace.texts uri =
      ((s.notices ms).foldl (Lsp.Notice.recent uri) before).head? := by
  induction ms generalizing s before with
  | nil => exact htexts
  | cons m ms ih =>
      have hrest := ih (hs.handle m) (texts_handle hs htexts m)
      rw [notices, List.foldl_append]
      exact hrest

/-- After any messages the server has open what the client has open. The client has the last and the
server the first of the texts with which a document was last told of, so they have the same text if
there was one in each change of it, and in general exactly if these two are the same. -/
theorem texts_of_client_and_server (files : FileTree) (grammars : GrammarRegistry)
    (ms : List Message) (uri : String) :
    (((create files grammars).run ms).workspace.texts uri =
      (recentTexts ((create files grammars).notices ms) uri).head? ∧
    Texts.ofClient ((create files grammars).notices ms) uri =
      (recentTexts ((create files grammars).notices ms) uri).getLast?) ∧
    ((((create files grammars).run ms).workspace.texts uri).isSome ↔
      (Texts.ofClient ((create files grammars).notices ms) uri).isSome) ∧
    ((∀ version changes, .changed uri version changes ∈ (create files grammars).notices ms →
        changes.length ≤ 1) →
      ((create files grammars).run ms).workspace.texts uri =
        Texts.ofClient ((create files grammars).notices ms) uri) := by
  have hserver : ((create files grammars).run ms).workspace.texts uri =
      (recentTexts ((create files grammars).notices ms) uri).head? :=
    texts_run ms (sound_create files grammars) rfl
  have hclient := Texts.ofClient_eq ((create files grammars).notices ms) uri
  refine ⟨⟨hserver, hclient⟩, ?_, fun hsingle => ?_⟩
  · rw [hserver, hclient, List.isSome_head?, List.getLast?_isSome]
  · rw [hserver, hclient]
    have hlength := length_recentTexts_le hsingle
    cases hrecent : recentTexts ((create files grammars).notices ms) uri with
    | nil => rfl
    | cons text more =>
        have hnil : more = [] := by simpa [hrecent] using hlength
        rw [hnil]
        rfl

/-- A document is opened and then changed twice in one notice. -/
def twoChanges : List Message :=
  let named (version : Int) (fields : List (String × Json)) : Json :=
    .object ([("uri", .string "file:///notes"), ("version", .integer version)] ++ fields)
  let change (text : String) : Json := .object [("text", .string text)]
  [⟨"initialize", some (.integer 1), some (.object [("capabilities", .object [])])⟩,
    ⟨"textDocument/didOpen", none, some (.object [("textDocument",
      named 1 [("languageId", .string "plain"), ("text", .string "zero")])])⟩,
    ⟨"textDocument/didChange", none, some (.object [("textDocument", named 2 []),
      ("contentChanges", .array [change "one", change "two"])])⟩]

/-- The server keeps the first of two texts, and the client holds the second one. -/
theorem texts_differ_after_two_changes :
    (create .empty .empty).notices twoChanges =
      [.opened "file:///notes" 1 "zero", .changed "file:///notes" 2 ["one", "two"]] ∧
    ((create .empty .empty).run twoChanges).workspace.texts "file:///notes" = some "one" ∧
    Texts.ofClient ((create .empty .empty).notices twoChanges) "file:///notes" = some "two" := by
  decide +kernel

end Server

end Polyglot
