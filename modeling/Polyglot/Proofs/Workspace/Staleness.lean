import Polyglot.Proofs.Reference.Pinning
import Polyglot.Proofs.Workspace.Definition
import Polyglot.Proofs.Workspace.Ledger

/-!
# Stale contexts

A context is built from documents at their revisions, and installed and asked at any later moment. A
text that is put in under an identifier raises its revision for good (`nextRevision_lt_play`), so a
reference that is pinned to the revision of its document is not looked for in a context that was
built before: the context is refused as stale (`definition_refuses_stale`).
-/

set_option autoImplicit false

namespace Polyglot

/-- What happens to a workspace: an edit, or another context is installed. -/
inductive Workspace.Event where
  | edit (e : Edit)
  | setContext (context? : Option Context)

/-- The edit puts in a text under the identifier: it opens a document, or changes one and does not
fail. -/
def Edit.PutsIn (e : Edit) (w : Workspace) (id : String) : Prop :=
  (∃ text, e = .openText id text) ∨ ∃ text w', e = .changeText id text ∧ w.edit e = .ok w'

namespace Workspace

/-- The workspace after an event. -/
def step (w : Workspace) : Event → Workspace
  | .edit e => w.apply e
  | .setContext context? => w.setContext context?

/-- The workspace after events, one after the other. -/
def play (w : Workspace) (events : List Event) : Workspace :=
  events.foldl step w

/-- In the course of the events, a text is put in under the identifier. -/
def Renews (w : Workspace) (id : String) : List Event → Prop
  | [] => False
  | .edit e :: events => e.PutsIn w id ∨ (w.apply e).Renews id events
  | .setContext context? :: events => (w.setContext context?).Renews id events

variable {w : Workspace} {id : String}

/-! ## Events -/

/-- An event leads from a reachable workspace to a reachable one. -/
theorem Reachable.step {grammars : GrammarRegistry} {segmenter : Segmenter}
    (h : Reachable grammars segmenter w) (event : Event) :
    Reachable grammars segmenter (w.step event) := by
  cases event with
  | edit e => exact h.apply e
  | setContext context? => exact h.share w.cancellations context? w.properties w.journal

/-- Events lead from a reachable workspace to a reachable one. -/
theorem Reachable.play {grammars : GrammarRegistry} {segmenter : Segmenter}
    (h : Reachable grammars segmenter w) (events : List Event) :
    Reachable grammars segmenter (w.play events) := by
  induction events generalizing w with
  | nil => exact h
  | cons event events ih => exact ih (h.step event)

/-! ## Revisions rise -/

/-- A text that is put in takes the next revision. -/
theorem nextRevision_effect_of_putsIn {e : Edit} (h : e.PutsIn w id) :
    (w.effect e).1.nextRevision id = w.nextRevision id + 1 := by
  rcases h with ⟨text, rfl⟩ | ⟨text, w', rfl, hsucceeds⟩
  · have hnew := document?_install (w := w) id text id
    rw [if_pos rfl] at hnew
    exact nextRevision_of_some hnew
  · cases hd : w.document? id with
    | none => cases hsucceeds.symm.trans (edit_changeText_of_none hd text)
    | some d =>
        rw [nextRevision_of_some (document?_effect_changeText hd text), nextRevision_of_some hd]
        rfl

/-- An edit that puts no text into a document leaves its next revision as it is. -/
theorem nextRevision_effect_of_not_putsIn {e : Edit} (h : ¬e.PutsIn w id) :
    (w.effect e).1.nextRevision id = w.nextRevision id := by
  by_cases hid : e.id = id
  · subst hid
    cases e with
    | openText id text => exact absurd (Or.inl ⟨text, rfl⟩) h
    | changeText id text =>
        cases hd : w.document? id with
        | none => rw [effect_changeText_of_none hd]
        | some d =>
            obtain ⟨w', hsucceeds⟩ := edit_changeText_of_some hd text
            exact absurd (Or.inr ⟨text, w', rfl, hsucceeds⟩) h
    | close id => exact nextRevision_effect_close
  · exact nextRevision_effect_of_ne hid

/-- Telling handlers of an edit does not change the next revision. -/
theorem WellFormed.nextRevision_apply (hw : w.WellFormed) (e : Edit) (id : String) :
    (w.apply e).nextRevision id = (w.effect e).1.nextRevision id := by
  rw [apply_eq_deliver_effect]
  exact ((hw.effect e).alike_deliver _).nextRevision_eq id

variable {grammars : GrammarRegistry} {segmenter : Segmenter}

/-- An event never takes a revision back. -/
theorem Reachable.nextRevision_le_step (h : Reachable grammars segmenter w) (event : Event)
    (id : String) : w.nextRevision id ≤ (w.step event).nextRevision id := by
  cases event with
  | edit e =>
      show _ ≤ (w.apply e).nextRevision id
      rw [h.wellFormed.nextRevision_apply]
      by_cases hputs : e.PutsIn w id
      · rw [nextRevision_effect_of_putsIn hputs]
        exact Nat.le_succ _
      · rw [nextRevision_effect_of_not_putsIn hputs]
  | setContext context? => exact Nat.le_refl _

/-- Events never take a revision back. -/
theorem Reachable.nextRevision_le_play (h : Reachable grammars segmenter w) (events : List Event)
    (id : String) : w.nextRevision id ≤ (w.play events).nextRevision id := by
  induction events generalizing w with
  | nil => exact Nat.le_refl _
  | cons event events ih => exact (h.nextRevision_le_step event id).trans (ih (h.step event))

/-- Events that put in a text raise the revision, and no later event takes that back. -/
theorem Reachable.nextRevision_lt_play (h : Reachable grammars segmenter w) {events : List Event}
    (hrenews : w.Renews id events) : w.nextRevision id < (w.play events).nextRevision id := by
  induction events generalizing w with
  | nil => exact absurd hrenews not_false
  | cons event events ih =>
      have hrest := (h.step event).nextRevision_le_play events id
      have hfirst := h.nextRevision_le_step event id
      cases event with
      | edit e =>
          rcases hrenews with hputs | hlater
          · -- The first event raises the revision, and the others do not lower it.
            have hraised := nextRevision_effect_of_putsIn hputs
            rw [← h.wellFormed.nextRevision_apply] at hraised
            show _ < ((w.apply e).play events).nextRevision id
            change (w.apply e).nextRevision id ≤ ((w.apply e).play events).nextRevision id at hrest
            omega
          · exact Nat.lt_of_le_of_lt hfirst (ih (h.step (.edit e)) hlater)
      | setContext context? => exact ih (h.step (.setContext context?)) hrenews

/-! ## Stale contexts -/

/-- The provider is shown the section at the revision of its document. -/
theorem WellFormed.revision_of_provider? (hw : w.WellFormed) {d : Document}
    (hd : w.document? id = some d) {p : Position} {view : SectionView}
    {find : SectionView → Reply (List Resolver)}
    (hprovider : w.provider? id p = some (view, find)) :
    view.revision = .ok d.revision := by
  rw [provider?_of_some hd] at hprovider
  obtain ⟨state, hat, hfind⟩ := Option.bind_eq_some_iff.1 hprovider
  obtain ⟨_, _, heq⟩ := Option.map_eq_some_iff.1 hfind
  have hstate := Document.mem_of_sectionAt? hat
  have hview := hw.view?_eq_some hd (List.mem_append_left _ hstate)
  obtain ⟨rfl, rfl⟩ := Prod.mk.inj heq
  rw [shown_eq_of_view? d hview, SectionView.revision, SectionView.content,
    (hw.opened id d hd).content?_view hstate]
  rfl

/-- A pinned reference of an open document is refused by a context that knows an earlier revision,
whatever its target is. -/
theorem WellFormed.resolveWith_eq_stale (hw : w.WellFormed) {d : Document}
    (hd : w.document? id = some d) {context : Context} (hcontext : w.context? = some context)
    {earlier : Nat} (hknown : context.revisionOf id = some earlier) (hlt : earlier < d.revision)
    {p : Position} (hpins : ∀ view find, w.provider? id p = some (view, find) → Pins find)
    {resolvers : List Resolver} (hcollected : w.collected id p = .ok resolvers) {r : Resolver}
    (hat : resolverAt resolvers id p = some r) (target : Target) :
    ({ r with target := target } : Resolver).resolveWith w.context? =
      .error (.resolutionFailed r.location (.staleContext d.revision earlier)) := by
  obtain ⟨hmem, hsource⟩ := mem_of_resolverAt hat
  unfold collected at hcollected
  have hpinned : r.revision? = some d.revision := by
    cases hprovider : w.provider? id p with
    | none =>
        rw [hprovider] at hcollected
        obtain rfl := Except.ok.inj hcollected
        cases hmem
    | some asked =>
        obtain ⟨view, find⟩ := asked
        rw [hprovider] at hcollected
        have hrevision := hw.revision_of_provider? hd hprovider
        exact hpins view find hprovider view d.revision resolvers hrevision hcollected r hmem
  rw [hcontext]
  refine Resolver.resolveWith_eq_stale hpinned ?_ (Nat.ne_of_lt hlt)
  show context.revisionOf r.location.source = some earlier
  rw [hsource]
  exact hknown

/-- Where all handlers pin what they find, the provider at a position does. -/
theorem pins_of_provider? {p : Position}
    (hpins : ∀ grammar handler find, w.grammars.handler? grammar = some handler →
      handler.references? = some find → Pins find) {view : SectionView}
    {find : SectionView → Reply (List Resolver)}
    (hprovider : w.provider? id p = some (view, find)) :
    Pins find := by
  unfold provider? at hprovider
  obtain ⟨d, _, hstate⟩ := Option.bind_eq_some_iff.1 hprovider
  obtain ⟨state, _, hrest⟩ := Option.bind_eq_some_iff.1 hstate
  obtain ⟨other, hother, heq⟩ := Option.bind_eq_some_iff.1 hrest
  obtain ⟨_, rfl⟩ := Prod.mk.inj (Option.some.inj heq)
  obtain ⟨handler, hhandler, hfind⟩ := Option.bind_eq_some_iff.1 hother
  exact hpins _ handler _ hhandler hfind

/-- A context is built when a document is at some revision, and knows this revision whenever it is
asked. If a text was put in under the identifier since, a definition in the open document has no
result, as long as the references at the position are pinned: the one reference that matters is
refused as stale, whatever its target is. So a definition that has a result is found in the text
from which the context was built. In any case a definition is refused exactly where no document is
open. -/
theorem definition_refuses_stale (grammars : GrammarRegistry) (segmenter : Segmenter)
    (before since : List Event) (id : String) (p : Position) (earlier now : Workspace)
    (hearlier : earlier = (Workspace.empty grammars segmenter).play before)
    (hnow : now = earlier.play since) :
    (∀ reason, ((Query.definition id p).run now).1 = .error (.refused reason) ↔
      now.document? id = none ∧ reason = .unknownDocument id) ∧
    ∀ built context, earlier.document? id = some built → now.context? = some context →
      context.revisionOf id = some built.revision →
      (∀ view find, now.provider? id p = some (view, find) → Pins find) →
        (∀ location, ((Query.definition id p).run now).1 = .ok (some location) →
          ¬earlier.Renews id since) ∧
        (earlier.Renews id since → ∀ d, now.document? id = some d →
          (∀ resolvers, now.collected id p = .ok resolvers →
            ((Query.definition id p).run now).1 = .ok none ∧
            ∀ r, resolverAt resolvers id p = some r → ∀ target,
              ({ r with target := target } : Resolver).resolveWith now.context? =
                .error (.resolutionFailed r.location (.staleContext d.revision built.revision))) ∧
          ∀ panic, now.collected id p = .error panic →
            ((Query.definition id p).run now).1 = .error (.broken panic)) := by
  have hreachable : Reachable grammars segmenter earlier := by
    rw [hearlier]
    exact Reachable.empty.play before
  have hw : now.WellFormed := by
    rw [hnow]
    exact (hreachable.play since).wellFormed
  refine ⟨Query.run_definition_eq_refused_iff now id p, ?_⟩
  intro built context hbuilt hcontext hknown hpins
  -- The context knows the revision at which it was built, and the document has a later one.
  have hstale : earlier.Renews id since → ∀ d, now.document? id = some d →
      built.revision < d.revision := by
    intro hrenews d hd
    have hlt := hreachable.nextRevision_lt_play hrenews
    rw [← hnow, nextRevision_of_some hbuilt, nextRevision_of_some hd] at hlt
    omega
  have hnothing : earlier.Renews id since → ∀ d, now.document? id = some d → ∀ resolvers,
      now.collected id p = .ok resolvers → ((Query.definition id p).run now).1 = .ok none := by
    intro hrenews d hd resolvers hcollected
    rw [Query.run_definition_of_some hd, hcollected]
    cases hat : resolverAt resolvers id p with
    | none => simp [Except.mapError, Except.map, hat]
    | some r =>
        have hrefused := hw.resolveWith_eq_stale hd hcontext hknown (hstale hrenews d hd) hpins
          hcollected hat r.target
        simp [Except.mapError, Except.map, hat, hrefused, Except.toOption]
  refine ⟨?_, ?_⟩
  · intro location hfound hrenews
    cases hd : now.document? id with
    | none => cases (Query.run_definition_of_none hd p).symm.trans hfound
    | some d =>
        cases hcollected : now.collected id p with
        | ok resolvers => cases (hnothing hrenews d hd resolvers hcollected).symm.trans hfound
        | error panic =>
            rw [Query.run_definition_of_some hd, hcollected] at hfound
            cases hfound
  · intro hrenews d hd
    refine ⟨fun resolvers hcollected => ⟨hnothing hrenews d hd resolvers hcollected, ?_⟩, ?_⟩
    · intro r hat target
      exact hw.resolveWith_eq_stale hd hcontext hknown (hstale hrenews d hd) hpins hcollected hat
        target
    · intro panic hcollected
      rw [Query.run_definition_of_some hd, hcollected]
      rfl

/-- A grammar whose only references are pinned ones behind `include`. -/
def includes : KeywordGrammar where
  name := "Mapping"
  keyword? := none
  kind? := none
  cached := false
  completions? := none
  commands := []
  panicOn? := none
  referenceKeyword? := some "include"
  pinned := true

/-- A context that was built when the document was at its first revision. -/
def people : Context where
  model? := some ⟨.ofList [("Person", ⟨"model", .point ⟨0, 6⟩⟩)]⟩
  revisionOf id := if id = "map" then some 0 else none

/-- A document is open and a context is built from it. -/
def including : Workspace :=
  (Workspace.empty (.ofList [includes.handler]) default).play
    [.edit (.openText "map" "###Mapping\ninclude Person\n")]

/-- The context is installed, and the document is closed and opened again. -/
def reopening : List Event :=
  [.setContext (some people), .edit (.close "map"),
    .edit (.openText "map" "###Mapping\ninclude Person\n")]

/-- Every handler of the registry that finds references pins them. -/
theorem pins_of_handler?_includes {grammar : String} {handler : Handler}
    {find : SectionView → Reply (List Resolver)}
    (hhandler : (GrammarRegistry.ofList [includes.handler]).handler? grammar = some handler)
    (hfind : handler.references? = some find) : Pins find := by
  have hregistered : (GrammarRegistry.ofList [includes.handler]).handler? grammar =
      if "Mapping" = grammar then some includes.handler else none :=
    Dictionary.find?_insert _ _ _ _
  rw [hregistered] at hhandler
  split at hhandler
  · obtain rfl := Option.some.inj hhandler
    obtain rfl := Option.some.inj hfind
    exact KeywordGrammar.pins_references rfl "include"
  · cases hhandler

/-- Whoever finds the references after the events pins them. -/
theorem pins_of_including (events : List Event) (view : SectionView)
    (find : SectionView → Reply (List Resolver))
    (hprovider : (including.play events).provider? "map" ⟨1, 10⟩ = some (view, find)) :
    Pins find := by
  have hreachable : Reachable (.ofList [includes.handler]) default (including.play events) :=
    (Reachable.empty.play _).play events
  refine pins_of_provider? (fun grammar handler find hhandler hfind => ?_) hprovider
  rw [hreachable.shared.1] at hhandler
  exact pins_of_handler?_includes hhandler hfind

/-- As long as nothing else happens, the installed context has the target; once the document was
opened again, the reference is found and not resolved. -/
theorem definition_refuses_stale_reopening :
    ∃ (built d : Document) (resolvers : List Resolver) (r : Resolver),
      including.document? "map" = some built ∧ people.revisionOf "map" = some built.revision ∧
      (including.play (reopening.take 1)).context? = some people ∧
      ((Query.definition "map" ⟨1, 10⟩).run (including.play (reopening.take 1))).1 =
        .ok (some ⟨"model", .point ⟨0, 6⟩⟩) ∧
      ¬including.Renews "map" (reopening.take 1) ∧
      (including.play reopening).context? = some people ∧ including.Renews "map" reopening ∧
      (including.play reopening).document? "map" = some d ∧
      (including.play reopening).collected "map" ⟨1, 10⟩ = .ok resolvers ∧
      resolverAt resolvers "map" ⟨1, 10⟩ = some r ∧
      ((Query.definition "map" ⟨1, 10⟩).run (including.play reopening)).1 = .ok none ∧
      ∀ target, ({ r with target := target } : Resolver).resolveWith (some people) =
        .error (.resolutionFailed r.location (.staleContext d.revision built.revision)) := by
  have hbuilt : (including.document? "map").map Document.revision = some 0 := by decide +kernel
  have hopen : ((including.play reopening).document? "map").isSome = true := by decide +kernel
  have hfound : ((Query.definition "map" ⟨1, 10⟩).run (including.play (reopening.take 1))).1 =
      .ok (some ⟨"model", .point ⟨0, 6⟩⟩) := by decide +kernel
  have hat : (((including.play reopening).collected "map" ⟨1, 10⟩).toOption.bind fun resolvers =>
      resolverAt resolvers "map" ⟨1, 10⟩).isSome = true := by decide +kernel
  obtain ⟨built, hbuilt, hrevision⟩ := Option.map_eq_some_iff.1 hbuilt
  obtain ⟨d, hd⟩ := Option.isSome_iff_exists.1 hopen
  obtain ⟨r, hcollected⟩ := Option.isSome_iff_exists.1 hat
  obtain ⟨resolvers, hresolvers, hr⟩ := Option.bind_eq_some_iff.1 hcollected
  have hfinds : (including.play reopening).collected "map" ⟨1, 10⟩ = .ok resolvers := by
    cases hcase : (including.play reopening).collected "map" ⟨1, 10⟩ with
    | ok found =>
        rw [hcase] at hresolvers
        exact congrArg Except.ok (Option.some.inj hresolvers)
    | error panic =>
        rw [hcase] at hresolvers
        cases hresolvers
  have hknown : people.revisionOf "map" = some built.revision := by
    rw [hrevision]
    rfl
  have hcontext : (including.play reopening).context? = some people := by with_unfolding_all rfl
  have hrenews : including.Renews "map" reopening := Or.inr (Or.inl (Or.inl ⟨_, rfl⟩))
  obtain ⟨_, hfirst⟩ := definition_refuses_stale (.ofList [includes.handler]) default
    [.edit (.openText "map" "###Mapping\ninclude Person\n")] (reopening.take 1) "map" ⟨1, 10⟩
    including (including.play (reopening.take 1)) rfl rfl
  obtain ⟨_, hlater⟩ := definition_refuses_stale (.ofList [includes.handler]) default
    [.edit (.openText "map" "###Mapping\ninclude Person\n")] reopening "map" ⟨1, 10⟩
    including (including.play reopening) rfl rfl
  obtain ⟨hunchanged, _⟩ := hfirst built people hbuilt rfl hknown (pins_of_including _)
  obtain ⟨_, hstale⟩ := hlater built people hbuilt hcontext hknown (pins_of_including _)
  obtain ⟨hnone, hrefused⟩ := (hstale hrenews d hd).1 resolvers hfinds
  exact ⟨built, d, resolvers, r, hbuilt, hknown, rfl, hfound, hunchanged _ hfound, hcontext,
    hrenews, hd, hfinds, hr, hnone, hcontext ▸ hrefused r hr⟩

end Workspace

end Polyglot
