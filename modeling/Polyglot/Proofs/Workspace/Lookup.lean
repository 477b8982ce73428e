import Polyglot.Proofs.Workspace.Document
import Polyglot.Workspace.Edit

/-!
# Looking up documents and states

A document put in the place of the one with its key is found there, and all others are found as
before (`documentOf?_setDocument`). So what a handler leaves for a state changes the properties of
this state and of no other (`view?_absorb`).
-/

set_option autoImplicit false

namespace Polyglot

namespace SectionView

/-- The view with other properties. -/
def withProperties (v : SectionView) (properties : Properties) : SectionView :=
  { v with properties := properties }

end SectionView

namespace Document

variable {d : Document}

/-- To keep properties for a section changes no more than these. -/
theorem bare_setProperties (key : SectionKey) (properties : Properties) :
    (d.setProperties key properties).bare = d.bare := by
  have hput : (SectionState.bare ∘ fun state : SectionState =>
      if state.key = key then { state with properties := properties } else state) =
        SectionState.bare := by
    funext state
    simp only [Function.comp_apply, SectionState.bare]
    split <;> rfl
  simp only [bare, setProperties, List.map_map, hput]

/-- The state of the key gets the properties, and the other states keep theirs. -/
theorem state?_setProperties (key key' : SectionKey) (properties : Properties) :
    (d.setProperties key properties).state? key' =
      if key = key' then (d.state? key').map fun state => { state with properties := properties }
      else d.state? key' := by
  let put := fun state : SectionState =>
    if state.key = key then { state with properties := properties } else state
  have hkey : (fun state => decide (state.key = key')) ∘ put =
      fun state : SectionState => decide (state.key = key') := by
    funext state
    simp only [Function.comp_apply, put]
    split <;> rfl
  have hmap : (d.setProperties key properties).state? key' = (d.state? key').map put := by
    simp only [state?, setProperties, ← List.map_append]
    rw [List.find?_map, hkey]
  rw [hmap]
  cases hfound : d.state? key' with
  | none => split <;> rfl
  | some state =>
      have hstate : state.key = key' := by
        unfold state? at hfound
        simpa using List.find?_some hfound
      simp only [Option.map_some, put, hstate, eq_comm (a := key')]
      split <;> rfl

end Document

namespace Workspace

variable {w : Workspace}

/-- A document is the open one of its key if it is open under the identifier. -/
theorem openDocument?_eq_some_iff (key : DocumentKey) (d : Document) :
    w.openDocument? key = some d ↔ w.document? key.id = some d ∧ d.key = key := by
  simp [openDocument?, Option.filter_eq_some_iff]

/-- What is found under a key has the key. -/
theorem key_of_documentOf? {key : DocumentKey} {d : Document} (h : w.documentOf? key = some d) :
    d.key = key := by
  rcases Option.or_eq_some_iff.1 h with hopen | ⟨_, hretired⟩
  · exact ((openDocument?_eq_some_iff key d).1 hopen).2
  · simpa using List.find?_some hretired

/-- An open document is found under its key. -/
theorem documentOf?_of_document? {id : String} {d : Document} (h : w.document? id = some d)
    (hid : d.id = id) : w.documentOf? d.key = some d := by
  have hopen : w.openDocument? d.key = some d :=
    (openDocument?_eq_some_iff d.key d).2 ⟨(congrArg w.document? hid).trans h, rfl⟩
  rw [documentOf?, hopen, Option.some_or]

/-- Where the documents of a workspace are afterwards. -/
theorem document?_setDocument (d : Document) (id : String) :
    (w.setDocument d).document? id =
      if (w.openDocument? d.key).isSome = true ∧ d.id = id then some d else w.document? id := by
  unfold setDocument
  by_cases hopen : (w.openDocument? d.key).isSome = true
  · rw [if_pos hopen]
    simp only [document?, Dictionary.find?_insert, hopen, true_and]
  · rw [if_neg hopen]
    simp only [document?, hopen, Bool.false_eq_true, false_and, if_false]

/-- To replace an open document changes what is found under its own key only. -/
theorem documentOf?_setDocument_of_open {d : Document}
    (hopen : (w.openDocument? d.key).isSome = true) (key : DocumentKey) :
    (w.setDocument d).documentOf? key = if d.key = key then some d else w.documentOf? key := by
  obtain ⟨other, hother⟩ := Option.isSome_iff_exists.1 hopen
  obtain ⟨hdocument, hkey⟩ := (openDocument?_eq_some_iff d.key other).1 hother
  have hretired : (w.setDocument d).retired = w.retired := by rw [setDocument, if_pos hopen]
  rw [documentOf?, documentOf?, hretired, openDocument?, openDocument?, document?_setDocument]
  simp only [hopen, true_and]
  by_cases heq : d.key = key
  · subst heq
    simp [Document.id]
  · by_cases hid : d.id = key.id
    · have hno : ¬other.key = key := fun hsame => heq (hkey.symm.trans hsame)
      have hdocument' : w.document? key.id = some other := hid ▸ hdocument
      simp [Option.filter, heq, hid, hdocument', hno]
    · simp [heq, hid]

/-- To replace a retired document changes what is found under its own key only. -/
theorem find?_map_replace (retired : List Document) (d : Document) (key : DocumentKey) :
    (retired.map fun other => if other.key = d.key then d else other).find?
        (fun other => decide (other.key = key)) =
      (retired.find? fun other => decide (other.key = key)).map fun other =>
        if d.key = key then d else other := by
  have hcomp : (fun other => decide (other.key = key)) ∘
      (fun other : Document => if other.key = d.key then d else other) =
        fun other => decide (other.key = key) := by
    funext other
    simp only [Function.comp_apply]
    split
    · rename_i hsame
      rw [hsame]
    · rfl
  rw [List.find?_map, hcomp]
  cases hfound : retired.find? (fun other => decide (other.key = key)) with
  | none => rfl
  | some other =>
      have hkey : other.key = key := by simpa using List.find?_some hfound
      simp only [Option.map_some, hkey, eq_comm (a := key)]

/-- A document put in the place of the one with its key is found there; the others stay. -/
theorem documentOf?_setDocument {old d : Document} (h : w.documentOf? d.key = some old)
    (key : DocumentKey) :
    (w.setDocument d).documentOf? key = if d.key = key then some d else w.documentOf? key := by
  by_cases hopen : (w.openDocument? d.key).isSome = true
  · exact documentOf?_setDocument_of_open hopen key
  · have hdocument : (w.setDocument d).openDocument? key = w.openDocument? key := by
      rw [openDocument?, openDocument?, document?_setDocument, if_neg (fun hboth => hopen hboth.1)]
    have hretired : (w.setDocument d).retired =
        w.retired.map fun other => if other.key = d.key then d else other := by
      rw [setDocument, if_neg hopen]
    rw [documentOf?, documentOf?, hdocument, hretired, find?_map_replace]
    by_cases heq : d.key = key
    · subst heq
      have hnone : w.openDocument? d.key = none := by simpa using hopen
      rw [documentOf?, hnone, Option.none_or] at h
      rw [hnone, Option.none_or, h, if_pos rfl, Option.map_some, if_pos rfl]
    · simp only [if_neg heq, Option.map_id']

/-- The view of the key's state shows the properties that were put there; the other views stay. -/
theorem view?_setProperties (key key' : SectionKey) (properties : Properties) :
    (w.setProperties key properties).view? key' =
      if key = key' then (w.view? key').map (·.withProperties properties) else w.view? key' := by
  unfold setProperties
  cases hfound : w.documentOf? key.document with
  | none =>
      by_cases heq : key = key'
      · subst heq
        simp [view?, hfound]
      · simp [heq]
  | some d =>
      have hkey := key_of_documentOf? hfound
      have hplace : w.documentOf? (d.setProperties key properties).key = some d := by
        change w.documentOf? d.key = some d
        rw [hkey, hfound]
      have hset := documentOf?_setDocument hplace
      simp only [view?, hset]
      by_cases hdocument : d.key = key'.document
      · have hfound' : w.documentOf? key'.document = some d := by rw [← hdocument, hkey, hfound]
        have hsame : (d.setProperties key properties).key = key'.document := hdocument
        rw [if_pos hsame, hfound']
        simp only [Option.bind_eq_bind, Option.bind_some, Document.state?_setProperties]
        by_cases heq : key = key'
        · rw [if_pos heq, if_pos heq]
          cases d.state? key' <;> rfl
        · rw [if_neg heq, if_neg heq]
          cases d.state? key' <;> rfl
      · have hother : ¬(d.setProperties key properties).key = key'.document := hdocument
        have heq : ¬key = key' := by
          rintro rfl
          exact hdocument hkey
        rw [if_neg hother, if_neg heq]

/-- To replace a document changes no handlers. -/
@[simp]
theorem setDocument_grammars (d : Document) : (w.setDocument d).grammars = w.grammars := by
  unfold setDocument
  split <;> rfl

/-- To replace a document does not change the segmenter. -/
@[simp]
theorem setDocument_segmenter (d : Document) : (w.setDocument d).segmenter = w.segmenter := by
  unfold setDocument
  split <;> rfl

/-- To replace a document changes nothing about closed ones. -/
@[simp]
theorem setDocument_closed (d : Document) : (w.setDocument d).closed = w.closed := by
  unfold setDocument
  split <;> rfl

/-- To replace a document writes nothing into the journal. -/
@[simp]
theorem setDocument_journal (d : Document) : (w.setDocument d).journal = w.journal := by
  unfold setDocument
  split <;> rfl

/-- To replace a document does not change the tokens. -/
@[simp]
theorem setDocument_cancellations (d : Document) :
    (w.setDocument d).cancellations = w.cancellations := by
  unfold setDocument
  split <;> rfl

/-- To replace a document does not change the context. -/
@[simp]
theorem setDocument_context? (d : Document) : (w.setDocument d).context? = w.context? := by
  unfold setDocument
  split <;> rfl

/-- To keep properties does not change the context. -/
@[simp]
theorem setProperties_context? (key : SectionKey) (properties : Properties) :
    (w.setProperties key properties).context? = w.context? := by
  unfold setProperties
  split <;> simp

/-- To keep properties writes nothing into the journal. -/
@[simp]
theorem setProperties_journal (key : SectionKey) (properties : Properties) :
    (w.setProperties key properties).journal = w.journal := by
  unfold setProperties
  split <;> simp

/-- To keep properties changes no handlers. -/
@[simp]
theorem setProperties_grammars (key : SectionKey) (properties : Properties) :
    (w.setProperties key properties).grammars = w.grammars := by
  unfold setProperties
  split <;> simp

/-- To keep properties does not change the tokens. -/
@[simp]
theorem setProperties_cancellations (key : SectionKey) (properties : Properties) :
    (w.setProperties key properties).cancellations = w.cancellations := by
  unfold setProperties
  split <;> simp

/-- What a handler asks for its token changes nothing but tokens. -/
theorem exists_foldl_serve (w : Workspace) (token : TokenKey) (requests : List TokenRequest) :
    ∃ cancellations,
      requests.foldl (serve token) w = { w with cancellations := cancellations } := by
  induction requests generalizing w with
  | nil => exact ⟨w.cancellations, rfl⟩
  | cons request requests ih =>
      obtain ⟨c, hc⟩ := ih (serve token w request)
      refine ⟨c, ?_⟩
      rw [List.foldl_cons, hc]
      cases request <;> rfl

/-- What a handler leaves: the properties of its state, its reports, and changes of tokens. -/
theorem exists_absorb_eq {β : Type} (w : Workspace) (key : SectionKey) (token? : Option TokenKey)
    (reply : Reply β) :
    ∃ cancellations, w.absorb key token? reply =
      { w.setProperties key reply.properties with
        journal := w.journal ++ reply.reports.map .reported
        cancellations := cancellations } := by
  unfold absorb
  cases token? with
  | none =>
      refine ⟨(w.setProperties key reply.properties).cancellations, ?_⟩
      simp only [setProperties_journal]
  | some token =>
      obtain ⟨c, hc⟩ := exists_foldl_serve
        { w.setProperties key reply.properties with
          journal := w.journal ++ reply.reports.map .reported } token reply.requests
      refine ⟨c, ?_⟩
      simp only [setProperties_journal, hc]

/-- A handler changes the properties of the state it was asked for and of no other. -/
theorem view?_absorb {β : Type} (key key' : SectionKey) (token? : Option TokenKey)
    (reply : Reply β) :
    (w.absorb key token? reply).view? key' =
      if key = key' then (w.view? key').map (·.withProperties reply.properties)
      else w.view? key' := by
  obtain ⟨c, hc⟩ := w.exists_absorb_eq key token? reply
  rw [hc, ← view?_setProperties]
  rfl

/-- What a handler leaves changes no handlers. -/
@[simp]
theorem absorb_grammars {β : Type} (key : SectionKey) (token? : Option TokenKey)
    (reply : Reply β) : (w.absorb key token? reply).grammars = w.grammars := by
  obtain ⟨c, hc⟩ := w.exists_absorb_eq key token? reply
  rw [hc]
  exact setProperties_grammars key reply.properties

/-- What a handler reports goes into the journal. -/
theorem absorb_journal {β : Type} (key : SectionKey) (token? : Option TokenKey)
    (reply : Reply β) :
    (w.absorb key token? reply).journal = w.journal ++ reply.reports.map .reported := by
  obtain ⟨c, hc⟩ := w.exists_absorb_eq key token? reply
  rw [hc]

/-- What a handler leaves does not change the context. -/
theorem absorb_context? {β : Type} (key : SectionKey) (token? : Option TokenKey)
    (reply : Reply β) : (w.absorb key token? reply).context? = w.context? := by
  obtain ⟨c, hc⟩ := w.exists_absorb_eq key token? reply
  rw [hc]
  exact setProperties_context? key reply.properties

/-- A notification reaches the handler of its state, or there is no such handler. -/
theorem deliverOne_cases (w : Workspace) (n : Notification) :
    (w.deliverOne n = w ∧
        ∀ view, w.view? n.state = some view → w.grammars.handler? view.current.grammar = none) ∨
      ∃ view handler, w.view? n.state = some view ∧
        w.grammars.handler? view.current.grammar = some handler ∧
        w.deliverOne n = (w.log (.delivered n.state n.change view)).absorb n.state none
          (handler.sectionChanged view n.change) := by
  unfold deliverOne
  cases hview : w.view? n.state with
  | none => exact Or.inl ⟨rfl, fun view hsome => by cases hsome⟩
  | some view =>
      cases hhandler : w.grammars.handler? view.current.grammar with
      | none =>
          refine Or.inl ⟨by simp only [hhandler], fun other hsome => ?_⟩
          obtain rfl := Option.some.inj hsome
          exact hhandler
      | some handler => exact Or.inr ⟨view, handler, rfl, hhandler, by simp only [hhandler]⟩

end Workspace

end Polyglot
