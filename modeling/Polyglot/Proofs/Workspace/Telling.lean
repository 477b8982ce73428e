import Polyglot.Proofs.Workspace.Handles
import Polyglot.Proofs.Workspace.Ledger
import Polyglot.Proofs.Workspace.Lifecycle

/-!
# What handlers find when they are told of changes

An edit takes effect as a whole before the first handler is told of it. At each moment at which a
handler is told, the workspace is like the one that the edit leaves, and the view that the handler
is given belongs to the new text, or to none if the section was removed
(`WellFormed.finds_of_mem_effect`). A new text is told of line by line, and a document that makes
way for another is dropped before the other is told of (`inOrder_effect`).
-/

set_option autoImplicit false

namespace Polyglot

/-- What a handler was told of, with the view at that moment, if the entry tells of a delivery. -/
def JournalEntry.telling? : JournalEntry → Option (Notification × SectionView)
  | .delivered state change view => some (⟨state, change⟩, view)
  | .reported _ => none

/-- The text that a document has after an edit. -/
def Edit.text? : Edit → Option String
  | .openText _ text => some text
  | .changeText _ text => some text
  | .close _ => none

namespace Workspace

/-- What the handlers were told of so far, in order. -/
def tellings (w : Workspace) : List (Notification × SectionView) :=
  w.journal.filterMap JournalEntry.telling?

/-- What a handler finds when it is told of the change of a state in an edit of `w`: `moment` is the
workspace as it is then, and `view` is what the handler sees of the state. -/
inductive Finds (w : Workspace) (e : Edit) (moment : Workspace) (key : SectionKey)
    (view : SectionView) : SectionChange → Prop where
  /-- A section of the new text, in its document. -/
  | present {change : SectionChange} (d : Document) (stays : change ≠ .removed)
      (attached : view.isAttached = true) (owner_eq : moment.owner? key = some d)
      (document_eq : moment.document? e.id = some d) (text_eq : e.text? = some d.text)
      (revision_eq : d.revision = w.nextRevision e.id) (shows : view.Shows w.segmenter key d) :
      Finds w e moment key view change
  /-- A section of the old text, in no document. -/
  | gone (d : Document) (state : SectionState) (document_eq : w.document? e.id = some d)
      (mem : state ∈ d.sections) (key_eq : state.key = key)
      (current_eq : view.current = state.current)
      (detached : view.isAttached = false) (owner_eq : moment.owner? key = none)
      (fails : view.Fails e.id) : Finds w e moment key view .removed

/-- The order in which an edit is told of: sections that are removed come before those of another
document, and within a document one line comes after the other. -/
def InOrder : Edit → List (Notification × SectionView) → Prop
  | .openText _ _, told => ∃ removed created, told = removed ++ created ∧
      (∀ t ∈ removed, t.1.change = .removed) ∧ ∀ t ∈ created, t.1.change = .created
  | .changeText _ _, told => told.Pairwise fun a b =>
      a.2.current.start < b.2.current.start ∨
        (a.2.current.start = b.2.current.start ∧ a.1.change = .created ∧ b.1.change = .removed)
  | .close _, told => ∀ t ∈ told, t.1.change = .removed

/-- The line on which the section of a state begins, or began when it was last in a document. -/
def startOf (w : Workspace) (key : SectionKey) : Nat :=
  ((w.view? key).map fun view => view.current.start).getD 0

variable {w : Workspace} {key : SectionKey}

/-- The start of a section is that of its view. -/
theorem startOf_eq {view : SectionView} (hview : w.view? key = some view) :
    w.startOf key = view.current.start := by
  rw [startOf, hview]
  rfl

/-- To tell handlers of changes moves no section. -/
theorem startOf_deliver (ns : List Notification) : (w.deliver ns).startOf key = w.startOf key := by
  obtain ⟨leave, hleave⟩ := view?_deliver (w := w) ns key
  rw [startOf, startOf, hleave]
  cases w.view? key <;> rfl

/-! ## The effect on a state that is told of -/

/-- The document of which the handlers are to be told has the new text and the next revision. -/
theorem document_of_mem_effect {e : Edit} {n : Notification} (hn : n ∈ (w.effect e).2)
    {d : Document} (hd : (w.effect e).1.document? e.id = some d) :
    e.text? = some d.text ∧ d.revision = w.nextRevision e.id := by
  cases e with
  | openText id text =>
      have hnew := document?_install (w := w) id text id
      rw [if_pos rfl] at hnew
      obtain rfl := Option.some.inj (hnew.symm.trans hd)
      exact ⟨rfl, rfl⟩
  | changeText id text =>
      cases hold : w.document? id with
      | none =>
          rw [effect_changeText_of_none hold] at hn
          cases hn
      | some old =>
          obtain rfl := Option.some.inj ((document?_effect_changeText hold text).symm.trans hd)
          exact ⟨rfl, (nextRevision_of_some hold).symm⟩
  | close id =>
      rw [Edit.id, document?_effect_close id] at hd
      cases hd

/-- A state that leaves its document keeps the section that it had. -/
theorem WellFormed.exists_view?_of_leaves (hw : w.WellFormed) {e : Edit} {d : Document}
    (hd : w.document? e.id = some d) {state : SectionState} (hstate : state ∈ d.sections)
    (hleaves : state.key ∉ (w.effect e).1.stateKeys e.id) :
    ∃ view, (w.effect e).1.view? state.key = some view ∧ view.current = state.current ∧
      view.documentId = e.id := by
  have hid : d.id = e.id := hw.id_eq e.id d hd
  have hdropped : ∃ d', (w.effect e).1.Remembers d' ∧ d'.id = d.id ∧
      state.detach ∈ d'.sections ++ d'.former := by
    have hreleased : state.detach ∈ d.release.sections ++ d.release.former :=
      List.mem_append_left _ (List.mem_map_of_mem hstate)
    cases e with
    | openText id text => exact ⟨d.release, Or.inr (release_mem_retired hd), rfl, hreleased⟩
    | changeText id text =>
        have hopen : w.document? id = some d := hd
        have hnew := document?_effect_changeText hopen text
        have hwell := hw.opened id d hd
        change state.key ∉ (w.effect (.changeText id text)).1.stateKeys id at hleaves
        change d.id = id at hid
        rw [stateKeys_of_some hnew] at hleaves
        have hunmatched := (hwell.mem_unmatched_iff text state).2 ⟨hstate, fun new hmem hkey =>
          hleaves (List.mem_map.2 ⟨new, hmem, hkey⟩)⟩
        refine ⟨(d.revise text w.segmenter).1, Or.inl ?_, rfl, List.mem_append_right _ ?_⟩
        · rw [← hnew, ← hid]
          rfl
        · rw [hwell.former_revise text]
          exact List.mem_append_right _ (List.mem_map_of_mem hunmatched)
    | close id =>
        have hopen : w.document? id = some d := hd
        refine ⟨d.release, Or.inr ?_, rfl, hreleased⟩
        rw [effect_close_of_some hopen]
        exact release_mem_retired hopen
  obtain ⟨d', hremembers, hsame, hmem⟩ := hdropped
  refine ⟨d'.view state.detach, ?_, rfl, hsame.trans hid⟩
  exact ((hw.effect e).view?_eq_some_iff _ _).2 ⟨d', hremembers, state.detach, hmem, rfl, rfl⟩

/-- Whatever was delivered before, a handler that is told of an edit finds it carried out. -/
theorem WellFormed.finds_of_mem_effect (hw : w.WellFormed) {e : Edit} {n : Notification}
    (hn : n ∈ (w.effect e).2) (before : List Notification) :
    ∃ view, ((w.effect e).1.deliver before).view? n.state = some view ∧
      Finds w e ((w.effect e).1.deliver before) n.state view n.change := by
  have hw' := hw.effect e
  have halike := hw'.alike_deliver before
  have hmoment := hw'.of_alike halike
  have hid := hw.document_id_of_mem_effect hn
  have hexchange := hw.exchange_effect e
  have hholds : ((w.effect e).1.deliver before).Holds n.state ↔
      n.state ∈ (w.effect e).1.stateKeys e.id := by
    rw [halike.holds_iff, holds_iff, hid]
  by_cases hchange : n.change = .removed
  · have hremoved : ⟨n.state, .removed⟩ ∈ (w.effect e).2 := by rwa [← hchange]
    obtain ⟨hold, hleaves⟩ := (hexchange.removed_iff n.state).1 hremoved
    rw [← hid, ← holds_iff] at hold
    obtain ⟨d, hd, hkey⟩ := hold
    rw [hid] at hd
    obtain ⟨state, hstate, hkey⟩ := List.mem_map.1 hkey
    rw [← hkey] at hleaves
    obtain ⟨view, hview, hcurrent, hdocument⟩ := hw.exists_view?_of_leaves hd hstate hleaves
    obtain ⟨leave, hleave⟩ := view?_deliver (w := (w.effect e).1) before n.state
    rw [← hkey, hview, Option.map_some, hkey] at hleave
    have howner : ((w.effect e).1.deliver before).owner? n.state = none := by
      refine Option.eq_none_iff_forall_ne_some.2 fun owner howner => ?_
      obtain ⟨hopen, hmem⟩ := (hmoment.owner?_eq_some_iff _ _).1 howner
      exact hleaves (hkey ▸ hholds.1 ⟨owner, hopen, hmem⟩)
    have hdetached := isSome_owner? hleave
    rw [howner] at hdetached
    have hfails := SectionView.fails_of_not_isAttached hdetached.symm
    refine ⟨_, hleave, ?_⟩
    rw [hchange]
    refine .gone d state hd hstate hkey hcurrent hdetached.symm howner ?_
    rw [← hdocument]
    exact hfails
  · have hstays : n.state ∈ (w.effect e).1.stateKeys e.id := by
      obtain ⟨state, change⟩ := n
      cases change with
      | created => exact ((hexchange.created_iff state).1 hn).2
      | updated => exact (hexchange.of_updated state hn).2
      | removed => exact absurd rfl hchange
    obtain ⟨view, hview, hattached⟩ := (hmoment.holds_iff_attached _).1 (hholds.2 hstays)
    obtain ⟨d, hd, hkey⟩ := hholds.2 hstays
    have howner := (hmoment.owner?_eq_some_iff _ _).2 ⟨hd, hkey⟩
    have hshows := hmoment.shows_of_owner? hview howner
    rw [halike.segmenter, (effect_shared e).2.1] at hshows
    rw [hid] at hd
    obtain ⟨d', hd', hbare⟩ := halike.exists_document hd
    obtain ⟨htext, hrevision⟩ := document_of_mem_effect hn hd'
    have hsametext := congrArg Document.text hbare
    have hsamerevision := congrArg Document.revision hbare
    change d'.text = d.text at hsametext
    change d'.revision = d.revision at hsamerevision
    rw [hsametext] at htext
    rw [hsamerevision] at hrevision
    exact ⟨view, hview, .present d hchange hattached howner hd htext hrevision hshows⟩

/-! ## What is delivered -/

/-- Each handler is told of the changes of its sections in order, and sees what there is at this
time. -/
theorem tellings_deliver (hw : w.WellFormed) (ns : List Notification) :
    ∃ told, (w.deliver ns).tellings = w.tellings ++ told ∧
      told.map Prod.fst = (ns.filter fun n => w.hasHandler n.state) ∧
      ∀ t ∈ told, ∃ before after, ns = before ++ t.1 :: after ∧
        (w.deliver before).view? t.1.state = some t.2 := by
  induction ns generalizing w with
  | nil => exact ⟨[], (List.append_nil _).symm, rfl, fun t ht => absurd ht List.not_mem_nil⟩
  | cons n ns ih =>
      obtain ⟨told, htellings, hfst, htold⟩ := ih (hw.of_alike (hw.alike_deliverOne n))
      have hhandlers : (ns.filter fun m => (w.deliverOne n).hasHandler m.state) =
          ns.filter fun m => w.hasHandler m.state :=
        List.filter_congr fun m _ => hasHandler_deliver [n] hw
      have hlater : ∀ t ∈ told, ∃ before after, n :: ns = before ++ t.1 :: after ∧
          (w.deliver before).view? t.1.state = some t.2 := by
        intro t ht
        obtain ⟨before, after, hns, hview⟩ := htold t ht
        exact ⟨n :: before, after, by rw [hns, List.cons_append], hview⟩
      change (w.deliver (n :: ns)).tellings = _ at htellings
      rw [hhandlers] at hfst
      rcases deliverOne_cases w n with ⟨heq, hnone⟩ | ⟨view, handler, hview, hhandler, heq⟩
      · have hno : w.hasHandler n.state = false := by
          unfold hasHandler
          cases hview : w.view? n.state with
          | none => rfl
          | some view => simp [hnone view hview]
        refine ⟨told, ?_, ?_, hlater⟩
        · rw [htellings, heq]
        · rw [List.filter_cons, hno, if_neg Bool.false_ne_true, hfst]
      · have hyes : w.hasHandler n.state = true := by simp [hasHandler, hview, hhandler]
        have hone : (w.deliverOne n).tellings = w.tellings ++ [(n, view)] := by
          rw [heq, tellings, absorb_journal, log]
          simp [tellings, JournalEntry.telling?, Function.comp_def]
        refine ⟨(n, view) :: told, ?_, ?_, ?_⟩
        · rw [htellings, hone, List.append_assoc, List.singleton_append]
        · rw [List.filter_cons, hyes, if_pos rfl, List.map_cons, hfst]
        · intro t ht
          rcases List.mem_cons.1 ht with rfl | ht
          · exact ⟨[], ns, rfl, hview⟩
          · exact hlater t ht

/-! ## The order -/

/-- States of the old and of the new text begin where their sections begin. -/
theorem WellFormed.pairwise_effect_changeText (hw : w.WellFormed) (id text : String) :
    (w.effect (.changeText id text)).2.Pairwise
      (Revising.Precedes (w.effect (.changeText id text)).1.startOf) := by
  cases hd : w.document? id with
  | none =>
      rw [effect_changeText_of_none hd]
      exact List.Pairwise.nil
  | some d =>
      have hwell := hw.opened id d hd
      have hw' := hw.effect (.changeText id text)
      have hnew := document?_effect_changeText hd text
      have hreconciled := hwell.reconciled_revise text
      have hshown : ∀ state ∈ (d.revise text w.segmenter).1.sections,
          (w.effect (.changeText id text)).1.startOf state.key = state.current.start :=
        fun state hstate => startOf_eq (hw'.view?_eq_some hnew (List.mem_append_left _ hstate))
      have hns : (w.effect (.changeText id text)).2 = (d.revise text w.segmenter).2 := by
        rw [effect_changeText_of_some hd]
      rw [hns]
      refine Revising.pairwise_notifications_reconcile _ hwell.ascending 0
        (Document.pairwise_segment w.segmenter _) ?_ ?_
      · intro old hold
        by_cases hkept : old.key ∈ (d.revise text w.segmenter).1.stateKeys
        · obtain ⟨state, hstate, hkey⟩ := List.mem_map.1 hkept
          have hsame := (hreconciled.reused_iff old hold state hstate).1 hkey
          rw [← hkey, hshown state hstate, (Section.sameIdentity_iff.1 hsame).2.1]
        · rw [← stateKeys_of_some hnew] at hkept
          obtain ⟨view, hview, hcurrent, _⟩ :=
            hw.exists_view?_of_leaves (e := .changeText id text) hd hold hkept
          rw [startOf_eq hview, hcurrent]
      · rintro ⟨s, place⟩ hs
        have hplace := List.mem_zipIdx_iff_getElem?.1 hs
        have hmem := (hwell.mem_revise_iff text _).2 ⟨place, s, hplace, rfl⟩
        have hstart := hshown _ hmem
        rw [Revising.current_stateFor] at hstart
        exact hstart

/-- What is told of an edit comes in order, whichever sections have handlers. -/
theorem WellFormed.inOrder_effect (hw : w.WellFormed) (e : Edit) {handled : Notification → Bool}
    {told : List (Notification × SectionView)}
    (hfst : told.map Prod.fst = (w.effect e).2.filter handled)
    (hstart : ∀ t ∈ told, t.2.current.start = (w.effect e).1.startOf t.1.state) :
    InOrder e told := by
  have hchange : ∀ (told : List (Notification × SectionView)) (keys : List SectionKey)
      (change : SectionChange),
      told.map Prod.fst = (keys.map fun key => (⟨key, change⟩ : Notification)).filter handled →
        ∀ t ∈ told, t.1.change = change := by
    intro told keys change heq t ht
    have hmem := List.mem_map_of_mem (f := Prod.fst) ht
    rw [heq] at hmem
    obtain ⟨key, _, hkey⟩ := List.mem_map.1 (List.mem_of_mem_filter hmem)
    rw [← hkey]
  cases e with
  | openText id text =>
      have hns : (w.effect (.openText id text)).2 = (w.retire id).2 ++
        (Document.create id (w.nextRevision id) text w.segmenter).notifications .created := rfl
      rw [hns, List.filter_append] at hfst
      obtain ⟨removed, created, rfl, hremoved, hcreated⟩ := List.map_eq_append_iff.1 hfst
      rw [retire_snd] at hremoved
      rw [Document.notifications_eq] at hcreated
      exact ⟨removed, created, rfl, hchange removed _ _ hremoved, hchange created _ _ hcreated⟩
  | changeText id text =>
      have hpairwise := (hw.pairwise_effect_changeText id text).sublist
        (List.filter_sublist (p := handled))
      rw [← hfst, List.pairwise_map] at hpairwise
      refine hpairwise.imp_of_mem fun {a b} ha hb hprecedes => ?_
      rw [hstart a ha, hstart b hb]
      exact hprecedes
  | close id =>
      rw [effect_close_snd, retire_snd] at hfst
      exact hchange told _ _ hfst

/-- In a reachable workspace, an edit tells exactly the sections that have handlers. Each time the
workspace is already like the one that the edit leaves, and the handler finds the section in the new
text or in no document, as `Finds` says; and what is told comes in order. -/
theorem changes_told_after_effect (grammars : GrammarRegistry) (segmenter : Segmenter)
    (w : Workspace) (hw : Reachable grammars segmenter w) (e : Edit) :
    w.apply e = (w.effect e).1.deliver (w.effect e).2 ∧
    ∃ told, (w.apply e).tellings = w.tellings ++ told ∧
      told.map Prod.fst = ((w.effect e).2.filter fun n => (w.effect e).1.hasHandler n.state) ∧
      (∀ t ∈ told, ∃ before after, (w.effect e).2 = before ++ t.1 :: after ∧
        ((w.effect e).1.deliver before).view? t.1.state = some t.2 ∧
        Alike ((w.effect e).1.deliver before) (w.apply e) ∧
        Finds w e ((w.effect e).1.deliver before) t.1.state t.2 t.1.change) ∧
      InOrder e told := by
  have hwell := hw.wellFormed
  have heffect := hwell.effect e
  have happly : w.apply e = (w.effect e).1.deliver (w.effect e).2 := apply_eq_deliver_effect e
  obtain ⟨told, htellings, hfst, htold⟩ := tellings_deliver heffect (w.effect e).2
  refine ⟨happly, told, ?_, hfst, ?_, hwell.inOrder_effect e hfst ?_⟩
  · rw [happly, htellings, tellings, (effect_shared e).2.2]
    rfl
  · intro t ht
    obtain ⟨before, after, hns, hview⟩ := htold t ht
    have hmem : t.1 ∈ (w.effect e).2 := by
      rw [hns]
      exact List.mem_append_right _ List.mem_cons_self
    obtain ⟨view, hview', hfinds⟩ := hwell.finds_of_mem_effect hmem before
    obtain rfl := Option.some.inj (hview'.symm.trans hview)
    refine ⟨before, after, hns, hview, ?_, hfinds⟩
    -- The rest of what is told leaves the workspace alike.
    have hrest : w.apply e = ((w.effect e).1.deliver before).deliver (t.1 :: after) := by
      rw [happly, hns]
      exact List.foldl_append
    rw [hrest]
    exact (heffect.of_alike (heffect.alike_deliver before)).alike_deliver _
  · intro t ht
    obtain ⟨before, _, _, hview⟩ := htold t ht
    rw [← startOf_deliver before, startOf_eq hview]

/-- A section makes way for one of another grammar on the same line. -/
def regrammared : List Edit × Edit :=
  ([.openText "notes" "intro\n###Mapping\nx"], .changeText "notes" "intro\n###Query\nx")

/-- A section of another grammar at the same line is created before the old one is removed. -/
theorem changes_told_after_effect_regrammared :
    ∃ (w : Workspace) (told : List (Notification × SectionView)),
      w = (Workspace.empty (.ofList [.plain "Mapping", .plain "Query"]) default).run
        regrammared.1 ∧
      Reachable (.ofList [.plain "Mapping", .plain "Query"]) default w ∧
      (w.apply regrammared.2).tellings = w.tellings ++ told ∧
      told.map Prod.fst = [⟨⟨⟨"notes", 0⟩, 1, 1⟩, .created⟩, ⟨⟨⟨"notes", 0⟩, 0, 1⟩, .removed⟩] ∧
      InOrder regrammared.2 told := by
  have hreachable : Reachable (.ofList [.plain "Mapping", .plain "Query"]) default
      ((Workspace.empty (.ofList [.plain "Mapping", .plain "Query"]) default).run regrammared.1) :=
    Reachable.empty.run _
  obtain ⟨_, told, htellings, _, _, horder⟩ := changes_told_after_effect _ _ _ hreachable
    regrammared.2
  refine ⟨_, told, rfl, hreachable, htellings, ?_, horder⟩
  have hfst := congrArg (List.map Prod.fst) htellings
  rw [List.map_append] at hfst
  have hnow : ((((Workspace.empty (.ofList [.plain "Mapping", .plain "Query"]) default).run
      regrammared.1).apply regrammared.2).tellings.map Prod.fst) =
        ((Workspace.empty (.ofList [.plain "Mapping", .plain "Query"]) default).run
          regrammared.1).tellings.map Prod.fst ++
            [⟨⟨⟨"notes", 0⟩, 1, 1⟩, .created⟩, ⟨⟨⟨"notes", 0⟩, 0, 1⟩, .removed⟩] := by
    decide +kernel
  exact List.append_cancel_left (hfst.symm.trans hnow)

end Workspace

end Polyglot
