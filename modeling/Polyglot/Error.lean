import Polyglot.Position

/-!
# Errors

What can go wrong when a text is addressed, a document is looked up, a property is read, a
reference is resolved or settings are parsed. Each error is given by its cause; `Error.message`
words it. A caller can do something about an unknown document (open it) and about a reference
that did not resolve (try again with another model), and about nothing else.
-/

set_option autoImplicit false

namespace Polyglot

/-- What the out-of-range value of an address is called. -/
inductive Argument where
  | line
  | startLine
  | endLine
  | column
  | offset
  | intervalStart
  | intervalEnd
deriving DecidableEq, Repr

namespace Argument

/-- The name that messages use for the argument. -/
def label : Argument → String
  | line => "line"
  | startLine => "start_line"
  | endLine => "end_line"
  | column => "column"
  | offset => "offset"
  | intervalStart => "interval start"
  | intervalEnd => "interval end"

end Argument

/-- The values that would have been accepted instead. -/
inductive ValidValues where
  /-- Every value from zero up to this one. -/
  | upTo (last : Nat)
  /-- One of two values: the boundaries of the character that was hit inside. -/
  | oneOf (before after : Nat)
deriving DecidableEq, Repr

namespace ValidValues

/-- The accepted values as messages give them. -/
def text : ValidValues → String
  | upTo last => "0..=" ++ Text.decimal last
  | oneOf before after => Text.decimal before ++ " or " ++ Text.decimal after

end ValidValues

/-- Why a reference has no target. -/
inductive ResolutionError where
  /-- The model does not know the name. -/
  | notFound
  /-- The model knows several entities of that name. -/
  | ambiguous (candidates : Nat)
  /-- There is no model. -/
  | contextUnavailable
  /-- The model is not of the kind that the reference needs. -/
  | incompatibleContext
  /-- The model was built from another revision of the document. -/
  | staleContext (expected actual : Nat)
  /-- Looking for the target broke off. -/
  | panicked (message : String)
deriving DecidableEq, Repr

namespace ResolutionError

/-- The reason in words. -/
def message : ResolutionError → String
  | notFound => "entity not found"
  | ambiguous candidates => "ambiguous (" ++ Text.decimal candidates ++ " candidates)"
  | contextUnavailable => "no resolution context available"
  | incompatibleContext => "incompatible resolution context"
  | staleContext expected actual =>
    "stale resolution context (revision " ++ Text.decimal actual ++ " instead of " ++
      Text.decimal expected ++ ")"
  | panicked message => "resolver panicked: " ++ message

end ResolutionError

/-- An error of the library. -/
inductive Error where
  /-- A line, a column or an offset is not in the text. -/
  | bounds (argument : Argument) (value : Nat) (valid : ValidValues)
  /-- The ends of an interval are in the wrong order. -/
  | invalidInterval (start stop : Position)
  /-- No document is open under the identifier. -/
  | unknownDocument (id : String)
  /-- The reference at the location has no target. -/
  | resolutionFailed (location : Location) (reason : ResolutionError)
  /-- The property holds a value of another type than the one named. -/
  | propertyType (key expected : String)
  /-- A settings file is not what it should be. -/
  | settings (reason : String)
deriving DecidableEq, Repr

namespace Error

/-- The error in words. -/
def message : Error → String
  | bounds argument value valid =>
    argument.label ++ " " ++ Text.decimal value ++ " out of bounds (valid: " ++ valid.text ++ ")"
  | invalidInterval start stop =>
    "invalid interval: start " ++ start.text ++ " is after end " ++ stop.text
  | unknownDocument id => "unknown document: " ++ id
  | resolutionFailed location reason =>
    "could not resolve reference at " ++ location.text ++ ": " ++ reason.message
  | propertyType key expected =>
    "property '" ++ key ++ "' does not hold a value of type " ++ expected
  | settings reason => "invalid settings: " ++ reason

/-- Whether opening the document or resolving again can help. -/
def isRecoverable : Error → Bool
  | unknownDocument _ | resolutionFailed _ _ => true
  | bounds _ _ _ | invalidInterval _ _ | propertyType _ _ | settings _ => false

end Error

/-- The interval between two positions; it is an error if they are in the wrong order. -/
def Interval.make (start stop : Position) : Except Error Interval :=
  match Interval.between? start stop with
  | some interval => .ok interval
  | none => .error (.invalidInterval start stop)

end Polyglot
