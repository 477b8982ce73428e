import Polyglot.Section.Segmenter
import Polyglot.Toml.Document

/-!
# Settings

Settings say in which grammar the lines before the first declaration are. They are read from a
TOML document, where they stand under `sections` as `default_grammar`; the table may also be given
as an array of which the first item counts. Other keys are ignored.

A configured name counts if it consists of alphanumeric characters and low lines; any other is
passed over in favour of the default.
-/

set_option autoImplicit false

namespace Polyglot

/-- The settings for sections: the configured grammar, if there is one. -/
structure SectionSettings where
  grammar? : Option String
deriving DecidableEq, Repr

/-- The settings of a workspace. -/
structure Settings where
  sections? : Option SectionSettings
deriving DecidableEq, Repr

namespace Settings

/-- Settings that configure nothing. -/
def unset : Settings :=
  ⟨none⟩

/-- Whether a name can be configured: it is not empty, and its characters are alphanumeric or low
lines. -/
def isGrammarName (name : String) : Bool :=
  !name.toList.isEmpty && name.toList.all fun c => Text.isAlphanumeric c || c == '_'

/-- The grammar of implicit sections: the configured one if its name counts. -/
def defaultGrammar (settings : Settings) : String :=
  match settings.sections?.bind SectionSettings.grammar? with
  | some name => if isGrammarName name then name else Polyglot.defaultGrammar
  | none => Polyglot.defaultGrammar

/-- The segmenter that the settings describe. -/
def segmenter (settings : Settings) : Segmenter :=
  ⟨settings.defaultGrammar⟩

/-- The error for settings that are not what they should be. -/
def refuse {α : Type} (reason : String) : Except Error α :=
  .error (.settings reason)

/-- The name of a grammar, which has to be a string. -/
def ofName (value : Toml.Value) : Except Error SectionSettings :=
  match value with
  | .string name => .ok ⟨some name⟩
  | _ => refuse "the default grammar is not a string"

/-- The settings for sections, from a table or from an array. A date is taken for a table without
keys that matter. -/
def ofSections (value : Toml.Value) : Except Error SectionSettings :=
  match value with
  | .table origin entries =>
    match (Toml.Table.mk origin entries).find? "default_grammar" with
    | some name => ofName name
    | none => .ok ⟨none⟩
  | .array (name :: _) => ofName name
  | .date => .ok ⟨none⟩
  | _ => refuse "the sections are not a table"

/-- The settings in the table of a document. -/
def ofTable (t : Toml.Table) : Except Error Settings :=
  match t.find? "sections" with
  | some value => (ofSections value).map fun sections => ⟨some sections⟩
  | none => .ok unset

/-- The settings in a TOML document. -/
def parse (text : String) : Except Error Settings :=
  match Toml.parse? text with
  | some t => ofTable t
  | none => refuse "not a TOML document"

end Settings

end Polyglot
