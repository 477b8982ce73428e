import Polyglot.Dictionary
import Polyglot.Error
import Polyglot.Panic
import Polyglot.Text.Record

/-!
# References

A handler finds references before there is a model that knows what they refer to. A resolver keeps
the place of a reference together with the way to find its target in a model, and may be pinned to
the revision of the document in which the reference was found. A model that was built from another
revision of that document is refused as stale before the target is looked for.

Where references nest, the one asked for at a position is the innermost.
-/

set_option autoImplicit false

namespace Polyglot

/-- What is known about entities: the location of each by its name. -/
structure Model where
  entities : Dictionary Location

/-- That against which references are resolved: a model, unless it is a context of another kind,
and the revisions of the documents from which it was built, as far as it knows them. -/
structure Context where
  model? : Option Model
  revisionOf : String → Option Nat

/-- A way to find a target in a context; it fails for a reason or breaks off. -/
abbrev Target :=
  Context → Except Panic (Except ResolutionError Location)

/-- A reference whose target is looked for on demand. -/
structure Resolver where
  location : Location
  revision? : Option Nat
  target : Target

namespace Resolver

/-- The resolver of a target, pinned to no revision. -/
def ofTarget (location : Location) (target : Target) : Resolver :=
  ⟨location, none, target⟩

/-- The resolver of a target that is looked for in the model; a context without a model of this
kind is incompatible. -/
def inModel (location : Location) (find? : Model → Option Location) : Resolver :=
  .ofTarget location fun context =>
    match context.model? with
    | none => .ok (.error .incompatibleContext)
    | some model =>
      match find? model with
      | some target => .ok (.ok target)
      | none => .ok (.error .notFound)

/-- The resolver pinned to a revision of its document. -/
def atRevision (r : Resolver) (revision : Nat) : Resolver :=
  { r with revision? := some revision }

/-- The revision of its document that the context knows, if it is not the pinned one. -/
def staleness? (r : Resolver) (context : Context) : Option ResolutionError :=
  match r.revision?, context.revisionOf r.location.source with
  | some expected, some actual =>
    if actual = expected then none else some (.staleContext expected actual)
  | _, _ => none

/-- Looks for the target in a context that is not stale. -/
def resolve (r : Resolver) (context : Context) : Except ResolutionError Location :=
  match r.staleness? context with
  | some reason => .error reason
  | none =>
    match r.target context with
    | .ok answer => answer
    | .error panic => .error (.panicked panic.message)

/-- Looks for the target in a context, if there is one. -/
def resolveWith (r : Resolver) (context? : Option Context) : Except Error Location :=
  match context? with
  | none => .error (.resolutionFailed r.location .contextUnavailable)
  | some context => (r.resolve context).mapError (.resolutionFailed r.location)

end Resolver

/-- Of two candidates the later replaces the earlier if its interval is properly inside. -/
def nearer {α : Type} (locate : α → Location) (best next : α) : α :=
  if (locate best).interval.strictlySubsumes (locate next).interval then next else best

/-- The innermost of the items whose locations contain the position in the source; of several that
do not lie properly inside one another, the earliest. -/
def innermost {α : Type} (locate : α → Location) (items : List α) (source : String)
    (p : Position) : Option α :=
  match items.filter fun item => (locate item).contains source p with
  | [] => none
  | first :: rest => some (rest.foldl (nearer locate) first)

/-- The innermost reference at a position of a source. -/
def resolverAt (resolvers : List Resolver) (source : String) (p : Position) : Option Resolver :=
  innermost Resolver.location resolvers source p

namespace Position

/-- The position as debugging output shows it. -/
def debug (p : Position) : String :=
  Text.record "Position" [("line", Text.decimal p.line), ("column", Text.decimal p.column)]

end Position

namespace Interval

/-- The interval as debugging output shows it. -/
def debug (i : Interval) : String :=
  Text.record "Interval" [("start", i.start.debug), ("end", i.stop.debug)]

end Interval

namespace Location

/-- The location as debugging output shows it. -/
def debug (l : Location) : String :=
  Text.record "Location" [("source_id", Text.quoted l.source), ("interval", l.interval.debug)]

end Location

namespace Resolver

/-- The resolver as debugging output shows it; the way to the target is left out. -/
def debug (r : Resolver) : String :=
  Text.partialRecord "ReferenceResolver"
    [("location", r.location.debug), ("revision", Text.optional (r.revision?.map Text.decimal))]

end Resolver

end Polyglot
