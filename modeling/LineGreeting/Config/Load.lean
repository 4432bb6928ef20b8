import LineGreeting.Config.Merge
import LineGreeting.Files

/-! # Loading a configuration

A program reads its arguments, then the document that they name, then checks
what both come to. The first of these steps that fails decides: a document that
cannot be read is never replaced by the default.
-/

namespace LineGreeting

open Config

/-- Why a configuration cannot be had from the document and the options. -/
inductive ConfigFault where
  /-- The document cannot be read. -/
  | unreadable (path : String) (cause : Fault)
  /-- The document is refused. -/
  | refused (path : String) (cause : DocumentFault)
  /-- A merged value cannot be used. -/
  | invalid (cause : InvalidValue)

/-- Why a program does not get a configuration. -/
inductive LoadFault where
  /-- The arguments end the program. -/
  | arguments (cause : CommandLine.ArgumentFault)
  /-- The configuration cannot be had. -/
  | config (cause : ConfigFault)

namespace ConfigFault

/-- Why a configuration cannot be had, in words; why a document is refused is
left out. -/
def message : ConfigFault → String
  | unreadable path cause =>
    "Failed to read config file '" ++ path ++ "': " ++ cause.message
  | refused path _ => "Failed to parse config file '" ++ path ++ "': "
  | invalid cause => cause.message

/-- The fault as the last words of a program that ends with it; why a document
is refused is left out. -/
def report : ConfigFault → String
  | unreadable path cause =>
    "FileRead(" ++ Text.quoted path ++ ", " ++ cause.report ++ ")"
  | refused path _ => "TomlParse(" ++ Text.quoted path ++ ", ..."
  | invalid cause =>
    "InvalidValue(" ++ Text.quoted cause.key ++ ", " ++ Text.quoted cause.reason ++ ")"

end ConfigFault

/-- The document under a path. Without a path, all is as by default. -/
def Config.Document.load (readText : ReadText) (path : Option String) :
    Except ConfigFault Document :=
  match path with
  | none => .ok .default
  | some path => do
    let text ← (readText path).mapError (.unreadable path)
    (parse text).mapError (.refused path)

/-- The configuration of the server. -/
def ServerConfig.load (readText : ReadText) (arguments : List String) :
    Except LoadFault ServerConfig := do
  let options ← (ServerOptions.parse arguments).mapError .arguments
  let document ← (Document.load readText options.config).mapError .config
  (ServerConfig.merge options document).mapError fun cause => .config (.invalid cause)

/-- The configuration of the client. -/
def ClientConfig.load (readText : ReadText) (arguments : List String) :
    Except LoadFault ClientConfig := do
  let options ← (ClientOptions.parse arguments).mapError .arguments
  let document ← (Document.load readText options.config).mapError .config
  (ClientConfig.merge options document).mapError fun cause => .config (.invalid cause)

end LineGreeting
