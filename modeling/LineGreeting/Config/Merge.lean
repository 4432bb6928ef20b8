import LineGreeting.Config.Document
import LineGreeting.Config.Options

/-! # From options and document to a configuration

An option wins over the document, and the document over the default. Names of
clients are shown only if the document does not forbid it and no option does.
Only the merged values are checked: what an option overrides is not.
-/

namespace LineGreeting

open Config

/-- A merged value that cannot be used. -/
structure InvalidValue where
  key : String
  reason : String
deriving DecidableEq, Repr

/-- An invalid value in words. -/
def InvalidValue.message (invalid : InvalidValue) : String :=
  "Invalid value for '" ++ invalid.key ++ "': " ++ invalid.reason

/-- Whether a text takes more than one line. -/
def hasNewline (text : String) : Bool :=
  text.toList.contains '\n'

namespace ServerConfig

/-- The configuration that options and document come to. -/
def build (options : ServerOptions) (document : Document) : ServerConfig where
  listen := options.listen.getD document.server.listen
  backlog := options.backlog.getD document.server.backlog
  reply := options.reply.getD document.server.reply
  mode := options.mode.getD document.server.mode
  maxConnections := options.maxConnections.getD document.server.maxConnections
  replyDelay := .ofMillis (options.replyDelayMs.getD document.server.replyDelayMs)
  readTimeout := (options.readTimeoutMs.or document.server.readTimeoutMs).map .ofMillis
  resolveHostnames := !options.noResolve && document.server.resolveHostnames
  logLevel := options.logLevel.getD document.logging.level

/-- The first value that cannot be used. -/
def invalid? (config : ServerConfig) : Option InvalidValue :=
  if config.backlog = 0 then some ⟨"backlog", "must be at least 1"⟩
  else if config.maxConnections = 0 then some ⟨"max_connections", "must be at least 1"⟩
  else if hasNewline config.reply then some ⟨"reply", "must be a single line"⟩
  else none

/-- The configuration that options and document come to, if it can be used. -/
def merge (options : ServerOptions) (document : Document) : Except InvalidValue ServerConfig :=
  let config := build options document
  match config.invalid? with
  | some invalid => .error invalid
  | none => .ok config

/-- The reply delay in milliseconds: the largest number of 64 bits if there are more. -/
def replyDelayMs (config : ServerConfig) : UInt64 :=
  config.replyDelay.clampedMillis

/-- The configuration without options and document. -/
def default : ServerConfig :=
  build {} .default

theorem merge_eq_ok_iff {options : ServerOptions} {document : Document}
    {config : ServerConfig} :
    merge options document = .ok config ↔
      build options document = config ∧ config.invalid? = none := by
  simp only [merge]
  split
  next hinvalid =>
    simp only [reduceCtorEq, false_iff, not_and]
    rintro rfl
    simp [hinvalid]
  next hvalid =>
    simp only [Except.ok.injEq, iff_self_and]
    rintro rfl
    exact hvalid

end ServerConfig

namespace ClientConfig

/-- The configuration that options and document come to. -/
def build (options : ClientOptions) (document : Document) : ClientConfig where
  host := options.host.getD document.client.host
  port := options.port.getD document.client.port
  message := options.message.getD document.client.message
  connectTimeout := (options.connectTimeoutMs.or document.client.connectTimeoutMs).map .ofMillis
  readTimeout := (options.readTimeoutMs.or document.client.readTimeoutMs).map .ofMillis
  logLevel := options.logLevel.getD document.logging.level

/-- The first value that cannot be used. -/
def invalid? (config : ClientConfig) : Option InvalidValue :=
  if hasNewline config.message then some ⟨"message", "must be a single line"⟩ else none

/-- The configuration that options and document come to, if it can be used. -/
def merge (options : ClientOptions) (document : Document) : Except InvalidValue ClientConfig :=
  let config := build options document
  match config.invalid? with
  | some invalid => .error invalid
  | none => .ok config

/-- The configuration without options and document. -/
def default : ClientConfig :=
  build {} .default

theorem merge_eq_ok_iff {options : ClientOptions} {document : Document}
    {config : ClientConfig} :
    merge options document = .ok config ↔
      build options document = config ∧ config.invalid? = none := by
  simp only [merge]
  split
  next hinvalid =>
    simp only [reduceCtorEq, false_iff, not_and]
    rintro rfl
    simp [hinvalid]
  next hvalid =>
    simp only [Except.ok.injEq, iff_self_and]
    rintro rfl
    exact hvalid

end ClientConfig

end LineGreeting
