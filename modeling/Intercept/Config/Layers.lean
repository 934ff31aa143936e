import Intercept.Document.Merge
import Intercept.Text.Lower
import Intercept.Text.Split

/-!
# Layers of settings

Settings come in layers, which are documents: a configuration file, and over it the environment.
Names have no case, so each layer has them in lower case. A name with dots is a path through
sections, one for every dot, and entries that meet in a section are merged.
-/

namespace Intercept.Layer

/-- Characters of names that may be a path. -/
def isNameChar (c : Char) : Bool := c.isAlphanum || c = ' ' || c = '_' || c = '-'

/-- The path that a name stands for. A name that is no path is the name of a setting as a whole. -/
def settingPath (name : String) : List String :=
  let steps := Text.splitAt '.' name.toList
  if steps.all fun s => !s.isEmpty && s.all isNameChar then steps.map String.ofList else [name]

/-- The document with one value at the end of a path of fields. -/
def nest (d : Document) : List String → Document
  | [] => d
  | k :: ks => .ofFields [(k, nest d ks)]

/-- The layer with values at paths, later entries over earlier ones. -/
def ofEntries (entries : List (List String × Document)) : Document :=
  Document.mergeAll (.ofFields []) (entries.map fun (path, d) => nest d path)

/-- A document with the names of its fields in lower case. Nothing changes inside arrays. -/
def lowerNames : Document → Document
  | .object ks child =>
    ofEntries (ks.names.attach.map fun ⟨k, h⟩ => ([Text.lower k], lowerNames (child k h)))
  | d => d

/-- The layer of a configuration file. Only the names of its outermost fields may be paths. -/
def ofFile (d : Document) : Document :=
  ofEntries (d.fields.map fun (k, v) => (settingPath (Text.lower k), lowerNames v))

/-! ### The environment -/

/-- What the names of all environment variables with settings begin with, in any case. -/
def variableMark : String := "gatehook__"

/-- Replace double underscores by dots. -/
def dotLevels : List Char → List Char
  | '_' :: '_' :: cs => '.' :: dotLevels cs
  | c :: cs => c :: dotLevels cs
  | [] => []

/-- The path of the setting that an environment variable is for. -/
def variablePath? (name : String) : Option (List String) :=
  let cs := (Text.lower name).toList
  let mark := variableMark.toList
  if mark.isPrefixOf cs then
    some (settingPath (String.ofList (dotLevels (cs.drop mark.length))))
  else none

/-- The layer of the environment, which has variables with texts. -/
def ofEnvironment (environment : List (String × String)) : Document :=
  ofEntries (environment.filterMap fun (name, value) =>
    (variablePath? name).map fun path => (path, .string value))

end Intercept.Layer
