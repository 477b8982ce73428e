import Polyglot.Proofs.Workspace.Membership

/-!
# The ledger of texts

A ledger keeps for each identifier the texts that were put in under it, by opening a document or by
changing an open one, and whether a document is open (`Account`). A workspace agrees with the ledger
of the edits that were made (`Agrees.apply`): an open document has the text that was put in last,
and its revision counts the texts before it, across any closing and opening
(`edits_agree_with_ledger`).
-/

set_option autoImplicit false

namespace Polyglot

/-- The texts that were put in under an identifier, in order, and whether a document is open. -/
structure Account where
  texts : List String
  isOpen : Bool

/-- An account for each identifier. -/
abbrev Ledger :=
  String → Account

namespace Ledger

/-- Nothing was put in. -/
def empty : Ledger :=
  fun _ => ⟨[], false⟩

/-- The ledger with a text put in under an identifier. -/
def put (l : Ledger) (id text : String) : Ledger :=
  Function.update l id ⟨(l id).texts ++ [text], true⟩

/-- The ledger with the account of an identifier closed; what was put in stays on record. -/
def settle (l : Ledger) (id : String) : Ledger :=
  Function.update l id ⟨(l id).texts, false⟩

/-- Enters an edit. Only a document that is open can be changed or closed. -/
def edit (l : Ledger) : Edit → Except Error Ledger
  | .openText id text => .ok (l.put id text)
  | .changeText id text =>
    if (l id).isOpen then .ok (l.put id text) else .error (.unknownDocument id)
  | .close id => if (l id).isOpen then .ok (l.settle id) else .error (.unknownDocument id)

/-- Enters an edit, unless it fails. -/
def apply (l : Ledger) (e : Edit) : Ledger :=
  (l.edit e).toOption.getD l

/-- The ledger of a run of edits. -/
def run (es : List Edit) : Ledger :=
  es.foldl apply empty

/-- What is held under an identifier while it is open: the text that was put in last, and how many
were put in before. -/
def held? (l : Ledger) (id : String) : Option (String × Nat) :=
  if (l id).isOpen then (l id).texts.getLast?.map fun text => (text, (l id).texts.length - 1)
  else none

variable {l : Ledger}

/-- Later edits are applied to what the earlier ones led to. -/
theorem run_append (es later : List Edit) : run (es ++ later) = later.foldl apply (run es) :=
  List.foldl_append

/-- A change of an open document puts a text. -/
theorem apply_changeText_of_open {id : String} (hopen : (l id).isOpen = true) (text : String) :
    l.apply (.changeText id text) = l.put id text := by
  rw [apply, edit, if_pos hopen]
  rfl

/-- A change of a closed document does nothing. -/
theorem apply_changeText_of_closed {id : String} (hclosed : (l id).isOpen = false) (text : String) :
    l.apply (.changeText id text) = l := by
  rw [apply, edit, hclosed, if_neg Bool.false_ne_true]
  rfl

/-- To close an open document settles its account. -/
theorem apply_close_of_open {id : String} (hopen : (l id).isOpen = true) :
    l.apply (.close id) = l.settle id := by
  rw [apply, edit, if_pos hopen]
  rfl

/-- To close a closed document does nothing. -/
theorem apply_close_of_closed {id : String} (hclosed : (l id).isOpen = false) :
    l.apply (.close id) = l := by
  rw [apply, edit, hclosed, if_neg Bool.false_ne_true]
  rfl

/-- An edit puts in a text, closes an account, or does not count. -/
theorem apply_cases (l : Ledger) (e : Edit) :
    l.apply e = l ∨ (∃ text, l.apply e = l.put e.id text) ∨ l.apply e = l.settle e.id := by
  cases e with
  | openText id text => exact Or.inr (Or.inl ⟨text, rfl⟩)
  | changeText id text =>
      cases hopen : (l id).isOpen with
      | true => exact Or.inr (Or.inl ⟨text, apply_changeText_of_open hopen text⟩)
      | false => exact Or.inl (apply_changeText_of_closed hopen text)
  | close id =>
      cases hopen : (l id).isOpen with
      | true => exact Or.inr (Or.inr (apply_close_of_open hopen))
      | false => exact Or.inl (apply_close_of_closed hopen)

/-- An edit concerns its own document only. -/
theorem apply_of_ne {e : Edit} {id : String} (hne : e.id ≠ id) : l.apply e id = l id := by
  rcases l.apply_cases e with heq | ⟨text, heq⟩ | heq
  · rw [heq]
  · rw [heq, put, Function.update_of_ne hne.symm]
  · rw [heq, settle, Function.update_of_ne hne.symm]

/-- What was put in stays on record. -/
theorem texts_prefix_apply (e : Edit) (id : String) : (l id).texts <+: (l.apply e id).texts := by
  by_cases hid : e.id = id
  · subst hid
    rcases l.apply_cases e with heq | ⟨text, heq⟩ | heq
    · simp only [heq, List.prefix_rfl]
    · rw [heq, put, Function.update_self]
      exact List.prefix_append _ _
    · simp only [heq, settle, Function.update_self, List.prefix_rfl]
  · simp only [apply_of_ne hid, List.prefix_rfl]

/-- Edits add texts to an account and take none away. -/
theorem texts_prefix_foldl (es : List Edit) (id : String) :
    (l id).texts <+: (es.foldl apply l id).texts := by
  induction es generalizing l with
  | nil => exact List.prefix_rfl
  | cons e es ih => exact (texts_prefix_apply e id).trans ih

end Ledger

namespace Workspace

/-- What the workspace has under an identifier is what the account says. -/
structure Agrees (w : Workspace) (id : String) (account : Account) : Prop where
  isOpen_eq : account.isOpen = (w.document? id).isSome
  last_eq : ∀ d, w.document? id = some d → account.texts.getLast? = some d.text
  next_eq : w.nextRevision id = account.texts.length

variable {w w' : Workspace} {id : String} {account : Account}

/-- The next revision of an open document is one more than its own. -/
theorem nextRevision_of_some {d : Document} (hd : w.document? id = some d) :
    w.nextRevision id = d.revision + 1 := by
  simp only [nextRevision, hd]

/-- The next revision depends on the open and the closed document alone. -/
theorem nextRevision_congr (hdocument : w'.document? id = w.document? id)
    (hclosed : w'.closed.find? id = w.closed.find? id) :
    w'.nextRevision id = w.nextRevision id := by
  unfold nextRevision
  rw [hdocument, hclosed]

/-- An edit leaves the remembered revisions of other identifiers alone. -/
theorem nextRevision_effect_of_ne {e : Edit} (hne : e.id ≠ id) :
    (w.effect e).1.nextRevision id = w.nextRevision id := by
  refine nextRevision_congr (document?_effect_of_ne hne) ?_
  cases e with
  | openText other text =>
      show ((w.retire other).1.closed.erase other).find? id = _
      change other ≠ id at hne
      rw [Dictionary.find?_erase, if_neg hne, closed_retire]
  | changeText other text =>
      cases hd : w.document? other with
      | none => rw [effect_changeText_of_none hd]
      | some d => rw [effect_changeText_of_some hd]
  | close other =>
      change other ≠ id at hne
      cases hd : w.document? other with
      | none => rw [effect_close_of_none hd]
      | some d =>
          rw [effect_close_of_some hd]
          simp only [Dictionary.find?_insert, if_neg hne, closed_retire]

/-- The revision of a document is remembered when it is closed. -/
theorem nextRevision_effect_close :
    (w.effect (.close id)).1.nextRevision id = w.nextRevision id := by
  cases hd : w.document? id with
  | none => rw [effect_close_of_none hd]
  | some d =>
      have hclosed := document?_retire (w := w) id id
      rw [if_pos rfl] at hclosed
      rw [effect_close_of_some hd, nextRevision_of_some hd]
      unfold nextRevision document?
      unfold document? at hclosed
      simp only [hclosed, Dictionary.find?_insert, if_true, Option.map_some, Option.getD_some]

/-- Alike workspaces have the same next revisions. -/
theorem Alike.nextRevision_eq (h : Alike w w') (id : String) :
    w'.nextRevision id = w.nextRevision id := by
  cases hd : w.document? id with
  | none =>
      have hd' := (h.document_eq_none_iff id).2 hd
      unfold nextRevision
      simp only [hd, hd', h.closed]
  | some d =>
      obtain ⟨d', hd', hbare⟩ := h.exists_document' hd
      have hrevision : d'.bare.revision = d.bare.revision := congrArg Document.revision hbare
      change d'.revision = d.revision at hrevision
      rw [nextRevision_of_some hd, nextRevision_of_some hd', hrevision]

/-- Handlers have no part in what the workspace has under an identifier. -/
theorem Agrees.of_alike (h : w.Agrees id account) (halike : Alike w w') : w'.Agrees id account := by
  refine ⟨?_, ?_, ?_⟩
  · have hdocument := congrArg Option.isSome (halike.document id)
    rw [Option.isSome_map, Option.isSome_map] at hdocument
    rw [hdocument]
    exact h.isOpen_eq
  · intro d' hd'
    obtain ⟨d, hd, hbare⟩ := halike.exists_document hd'
    have htext : d.bare.text = d'.bare.text := congrArg Document.text hbare
    change d.text = d'.text at htext
    rw [← htext]
    exact h.last_eq d hd
  · rw [halike.nextRevision_eq]
    exact h.next_eq

/-- Edits of other documents leave the account right. -/
theorem Agrees.effect_of_ne (h : w.Agrees id account) {e : Edit} (hne : e.id ≠ id) :
    (w.effect e).1.Agrees id account := by
  have hdocument := document?_effect_of_ne (w := w) hne
  refine ⟨?_, ?_, ?_⟩
  · rw [hdocument]
    exact h.isOpen_eq
  · rw [hdocument]
    exact h.last_eq
  · rw [nextRevision_effect_of_ne hne]
    exact h.next_eq

/-- A document with one more text at the revision that is next puts the text in. -/
theorem Agrees.put (h : w.Agrees id account) {d : Document} (hd : w'.document? id = some d)
    (hrevision : d.revision = w.nextRevision id) :
    w'.Agrees id ⟨account.texts ++ [d.text], true⟩ := by
  refine ⟨?_, ?_, ?_⟩
  · rw [hd]
    rfl
  · intro other hother
    obtain rfl := Option.some.inj (hd.symm.trans hother)
    exact List.getLast?_concat
  · rw [nextRevision_of_some hd, hrevision, h.next_eq, List.length_append]
    rfl

/-- An account stays right when its document is closed. -/
theorem Agrees.close (h : w.Agrees id account) (hd : w'.document? id = none)
    (hnext : w'.nextRevision id = w.nextRevision id) : w'.Agrees id ⟨account.texts, false⟩ := by
  refine ⟨?_, ?_, hnext.trans h.next_eq⟩
  · rw [hd]
    rfl
  · intro d hsome
    rw [hd] at hsome
    cases hsome

/-- The account of an open document is open. -/
theorem Agrees.isOpen_of_some (h : w.Agrees id account) {d : Document}
    (hd : w.document? id = some d) : account.isOpen = true := by
  rw [h.isOpen_eq, hd]
  rfl

/-- The account of a document that is not open is not either. -/
theorem Agrees.isOpen_of_none (h : w.Agrees id account) (hd : w.document? id = none) :
    account.isOpen = false := by
  rw [h.isOpen_eq, hd]
  rfl

/-- The effect of an edit agrees with its entry in the ledger. -/
theorem Agrees.effect {l : Ledger} {e : Edit} (h : w.Agrees e.id (l e.id)) :
    (w.effect e).1.Agrees e.id (l.apply e e.id) := by
  cases e with
  | openText id text =>
      -- An open document makes way, a closed one goes on from the revision that is remembered.
      have hnew := document?_install (w := w) id text id
      rw [if_pos rfl] at hnew
      show Agrees _ id (l.put id text id)
      rw [Ledger.put, Function.update_self]
      exact h.put hnew rfl
  | changeText id text =>
      change w.Agrees id (l id) at h
      show Agrees _ id (l.apply _ id)
      cases hd : w.document? id with
      | none =>
          rw [effect_changeText_of_none hd, Ledger.apply_changeText_of_closed (h.isOpen_of_none hd)]
          exact h
      | some d =>
          have hrevised := document?_effect_changeText hd text
          have hput := h.put hrevised (nextRevision_of_some hd).symm
          rw [Ledger.apply_changeText_of_open (h.isOpen_of_some hd), Ledger.put,
            Function.update_self]
          exact hput
  | close id =>
      change w.Agrees id (l id) at h
      show Agrees _ id (l.apply _ id)
      cases hd : w.document? id with
      | none =>
          rw [effect_close_of_none hd, Ledger.apply_close_of_closed (h.isOpen_of_none hd)]
          exact h
      | some d =>
          rw [Ledger.apply_close_of_open (h.isOpen_of_some hd), Ledger.settle, Function.update_self]
          exact h.close (document?_effect_close id) nextRevision_effect_close

/-- An edit of a workspace is an entry in the ledger. -/
theorem Agrees.apply (hw : w.WellFormed) {l : Ledger} (h : ∀ id, w.Agrees id (l id)) (e : Edit)
    (id : String) : (w.apply e).Agrees id (l.apply e id) := by
  have heffect : (w.effect e).1.Agrees id (l.apply e id) := by
    by_cases hid : e.id = id
    · subst hid
      exact (h e.id).effect
    · rw [Ledger.apply_of_ne hid]
      exact (h id).effect_of_ne hid
  rw [apply_eq_deliver_effect]
  exact heffect.of_alike ((hw.effect e).alike_deliver _)

/-- Edits agree with the ledger of these edits. -/
theorem Agrees.run (hw : w.WellFormed) {l : Ledger} (h : ∀ id, w.Agrees id (l id))
    (es : List Edit) (id : String) : (w.run es).Agrees id (es.foldl Ledger.apply l id) := by
  induction es generalizing w l with
  | nil => exact h id
  | cons e es ih => exact ih (hw.apply e) (Agrees.apply hw h e)

/-- At the beginning all accounts are empty. -/
theorem agrees_empty (grammars : GrammarRegistry) (segmenter : Segmenter) (id : String) :
    (Workspace.empty grammars segmenter).Agrees id (Ledger.empty id) := by
  refine ⟨rfl, fun d hd => ?_, rfl⟩
  cases hd

/-- What is shown of the documents is what the ledger holds. -/
theorem Agrees.held?_eq {l : Ledger} (h : w.Agrees id (l id)) :
    (w.document? id).map (fun d => (d.text, d.revision)) = l.held? id := by
  unfold Ledger.held?
  cases hd : w.document? id with
  | none =>
      rw [h.isOpen_of_none hd, if_neg Bool.false_ne_true]
      rfl
  | some d =>
      have hcount := h.next_eq
      rw [nextRevision_of_some hd] at hcount
      rw [h.isOpen_of_some hd, if_pos rfl, h.last_eq d hd, ← hcount]
      rfl

/-- A revision counts the texts that were put in before. -/
theorem Agrees.length_texts (h : w.Agrees id account) {d : Document}
    (hd : w.document? id = some d) : account.texts.length = d.revision + 1 := by
  rw [← h.next_eq, nextRevision_of_some hd]

/-! ## Edits that fail -/

/-- A change of an open document succeeds. -/
theorem edit_changeText_of_some {d : Document} (hd : w.document? id = some d) (text : String) :
    ∃ w', w.edit (.changeText id text) = .ok w' := by
  show ∃ w', w.changeText id text = .ok w'
  rw [changeText, replace_eq_of_some hd]
  exact ⟨_, rfl⟩

/-- A change of a document that is not open is refused. -/
theorem edit_changeText_of_none (hd : w.document? id = none) (text : String) :
    w.edit (.changeText id text) = .error (.unknownDocument id) := by
  show w.changeText id text = _
  simp only [changeText, replace, hd]
  rfl

/-- To close an open document succeeds. -/
theorem edit_close_of_some {d : Document} (hd : w.document? id = some d) :
    ∃ w', w.edit (.close id) = .ok w' := by
  show ∃ w', w.close id = .ok w'
  rw [Workspace.close, withdraw_eq_of_some hd]
  exact ⟨_, rfl⟩

/-- To close a document that is not open is refused. -/
theorem edit_close_of_none (hd : w.document? id = none) :
    w.edit (.close id) = .error (.unknownDocument id) := by
  show w.close id = _
  simp only [Workspace.close, withdraw, hd]
  rfl

/-- A change fails exactly if the document is not open. -/
theorem edit_changeText_eq_error_iff (id text : String) (reason : Error) :
    w.edit (.changeText id text) = .error reason ↔
      w.document? id = none ∧ reason = .unknownDocument id := by
  cases hd : w.document? id with
  | none => simp [edit_changeText_of_none hd, eq_comm]
  | some d =>
      obtain ⟨w', hw'⟩ := edit_changeText_of_some hd text
      simp [hw']

/-- Closing fails exactly if the document is not open. -/
theorem edit_close_eq_error_iff (id : String) (reason : Error) :
    w.edit (.close id) = .error reason ↔
      w.document? id = none ∧ reason = .unknownDocument id := by
  cases hd : w.document? id with
  | none => simp [edit_close_of_none hd, eq_comm]
  | some d =>
      obtain ⟨w', hw'⟩ := edit_close_of_some hd
      simp [hw']

/-- An edit that fails changes nothing. -/
theorem apply_of_error {e : Edit} {reason : Error} (hfails : w.edit e = .error reason) :
    w.apply e = w := by
  rw [Workspace.apply, hfails]

/-- A workspace after any run of edits, against the ledger of the run. Under each identifier it
holds the text that was put in last, at a revision that counts the texts before it. Opening
succeeds; changing and closing fail exactly where no document is open, with the unknown document,
and then nothing is changed. The revision of an identifier never goes back, and is the same at two
moments only if no text was put in between. -/
theorem edits_agree_with_ledger (grammars : GrammarRegistry) (segmenter : Segmenter)
    (es : List Edit) :
    (∀ id, (((Workspace.empty grammars segmenter).run es).document? id).map
        (fun d => (d.text, d.revision)) = (Ledger.run es).held? id) ∧
    (∀ id text, ((Workspace.empty grammars segmenter).run es).edit (.openText id text) =
      .ok (((Workspace.empty grammars segmenter).run es).apply (.openText id text))) ∧
    (∀ id text reason, ((Workspace.empty grammars segmenter).run es).edit (.changeText id text) =
        .error reason ↔
      ((Workspace.empty grammars segmenter).run es).document? id = none ∧
        reason = .unknownDocument id) ∧
    (∀ id reason, ((Workspace.empty grammars segmenter).run es).edit (.close id) = .error reason ↔
      ((Workspace.empty grammars segmenter).run es).document? id = none ∧
        reason = .unknownDocument id) ∧
    (∀ e reason, ((Workspace.empty grammars segmenter).run es).edit e = .error reason →
      ((Workspace.empty grammars segmenter).run es).apply e =
        (Workspace.empty grammars segmenter).run es) ∧
    ∀ later id d d', ((Workspace.empty grammars segmenter).run es).document? id = some d →
      ((Workspace.empty grammars segmenter).run (es ++ later)).document? id = some d' →
        d.revision ≤ d'.revision ∧
        (d'.revision = d.revision ↔
          (Ledger.run (es ++ later) id).texts = (Ledger.run es id).texts) := by
  have hw : (Workspace.empty grammars segmenter).WellFormed := wellFormed_empty grammars segmenter
  have hagrees : ∀ es id, ((Workspace.empty grammars segmenter).run es).Agrees id
      (Ledger.run es id) := Agrees.run hw (agrees_empty grammars segmenter)
  refine ⟨fun id => (hagrees es id).held?_eq, fun _ _ => rfl, edit_changeText_eq_error_iff,
    edit_close_eq_error_iff, fun _ _ => apply_of_error, ?_⟩
  intro later id d d' hd hd'
  have hbefore := (hagrees es id).length_texts hd
  have hafter := (hagrees (es ++ later) id).length_texts hd'
  have hextends : (Ledger.run es id).texts <+: (Ledger.run (es ++ later) id).texts := by
    rw [Ledger.run_append]
    exact Ledger.texts_prefix_foldl later id
  -- The account only grows, so it has the same length at both moments only if it is the same.
  have hlength := hextends.length_le
  refine ⟨by omega, fun hsame => ?_, fun hsame => ?_⟩
  · exact (hextends.eq_of_length (by omega)).symm
  · rw [hsame] at hafter
    omega

end Workspace

end Polyglot
