import Intercept.Config.Conversion
import Intercept.Config.Layers
import Intercept.Toml.Parser

/-!
# Loading the configuration

The configuration is put together from the defaults, a file and the environment, each over the one
before it. A file is found by its name with or without its extension, which tells its format.
-/

namespace Intercept

/-- Formats of configuration files. -/
inductive ConfigFormat where
  | json
  | toml

namespace ConfigFormat

/-- All formats. -/
def all : List ConfigFormat := [json, toml]

/-- The extension of files in a format. -/
def extension : ConfigFormat → String
  | json => "json"
  | toml => "toml"

/-- The format of a file by the end of its name. -/
def ofPath? (path : String) : Option ConfigFormat :=
  match (Text.splitAt '.' path.toList).reverse with
  | ending :: _ :: _ => all.find? fun f => f.extension = String.ofList ending
  | _ => none

/-- The document that a text writes. -/
def parse? : ConfigFormat → String → Option Document
  | json => Document.parse?
  | toml => Toml.parse?

end ConfigFormat

/-- The texts of files by their paths. -/
abbrev Files := String → Option String

namespace Files

/-- The configuration file at a path, or else at the path with the extension of a format. A file of
no known format does not count. -/
def config? (files : Files) (path : String) : Option (ConfigFormat × String) :=
  match files path with
  | some text => (ConfigFormat.ofPath? path).map fun f => (f, text)
  | none =>
    ConfigFormat.all.findSome? fun f =>
      (files (path ++ "." ++ f.extension)).map fun text => (f, text)

end Files

namespace EngineConfig

/-- The text without the mark of its byte order. -/
def dropByteOrderMark (text : String) : String :=
  match text.toList with
  | '\ufeff' :: cs => String.ofList cs
  | _ => text

/-- The layer that the text of a file writes, which must be an object. -/
def fileLayer? (format : ConfigFormat) (text : String) : Option Document :=
  (format.parse? (dropByteOrderMark text)).bind fun d =>
    if d.isObject then some (Layer.ofFile d) else none

/-- The configuration of a file layer with the environment over it. -/
def ofLayers (file : Document) (environment : List (String × String)) :
    Except EngineError EngineConfig :=
  match EngineConfig.ofDocument? .lenient (file.merge (Layer.ofEnvironment environment)) with
  | none => .error .unreadableConfig
  | some c => c.validate.map fun _ => c

/-- The configuration of a file and the environment. -/
def ofFile (file : ConfigFormat × String) (environment : List (String × String)) :
    Except EngineError EngineConfig :=
  match fileLayer? file.1 file.2 with
  | none => .error .unreadableConfig
  | some layer => ofLayers layer environment

/-- The path of the configuration file, without its extension. -/
def defaultPath : String := "config/engine"

/-- The configuration of the file at the default path, if there is one, and the environment. -/
def load (files : Files) (environment : List (String × String)) : Except EngineError EngineConfig :=
  match files.config? defaultPath with
  | none => ofLayers (.ofFields []) environment
  | some file => ofFile file environment

/-- The configuration of the file at a path, which must exist, and the environment. -/
def loadFrom (files : Files) (path : String) (environment : List (String × String)) :
    Except EngineError EngineConfig :=
  match files.config? path with
  | none => .error .unreadableConfig
  | some file => ofFile file environment

end EngineConfig

end Intercept
