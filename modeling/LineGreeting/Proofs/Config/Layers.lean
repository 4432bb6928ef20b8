import LineGreeting.Config.Load
import LineGreeting.Proofs.Config.Sections
import Mathlib

/-! # Where each setting comes from

A setting is what its option says, else what the document says under its key, else the
default, and nothing else bears on it. The keys of the client do not bear on the server, nor
those of the server on the client, and a document that says nothing of a program is as good
as none.
-/

namespace LineGreeting

open Config
open Toml (Gives Table Told Value)

/-! ## Layers -/

variable {α β : Type} {use : α → β} {tells : α → Value → Prop}

/-- Where a setting comes from: the option if it is given, else the document if it says
something, else the default. -/
inductive Layered (use : α → β) (tells : α → Value → Prop) (default : β) :
    Option α → Option Value → β → Prop
  | option (given : α) (said : Option Value) :
      Layered use tells default (some given) said (use given)
  | document {value : Value} {told : α} (htells : tells told value) :
      Layered use tells default none (some value) (use told)
  | default : Layered use tells default none none default

theorem Layered.unique (hunique : Relator.LeftUnique tells)
    {default : β} {option : Option α} {said other : Option Value} {first second : β}
    (hfirst : Layered use tells default option said first) (hsaid : said = other)
    (hsecond : Layered use tells default option other second) : first = second := by
  subst hsaid
  cases hfirst with
  | option => cases hsecond with | option => rfl
  | document hfirst => cases hsecond with | document hsecond => rw [hunique hfirst hsecond]
  | default => cases hsecond with | default => rfl

theorem layered_getD {default told : α} {option : Option α} {said : Option Value}
    (htold : Told tells default said told) :
    Layered use tells (use default) option said (use (option.getD told)) := by
  cases option with
  | some given => exact .option given said
  | none =>
      cases htold with
      | nothing => exact .default
      | value htells => exact .document htells

/-- A number of milliseconds. -/
def IsMillis (millis : UInt64) (value : Value) : Prop :=
  value.IsNatural millis.toNat

theorem layered_or {limit option : Option UInt64} {said : Option Value}
    (htold : Told (Gives IsMillis) none said limit) :
    Layered (some ∘ Duration.ofMillis) IsMillis none option said
      ((option.or limit).map Duration.ofMillis) := by
  cases option with
  | some given => exact .option given said
  | none =>
      cases htold with
      | nothing => exact .default
      | value hgives =>
          obtain ⟨number, rfl, hnumber⟩ := hgives
          exact .document hnumber

/-! ## A value tells one thing only -/

theorem leftUnique_isString : Relator.LeftUnique Value.IsString :=
  fun _ _ _ hfirst hsecond => Value.string.inj (hfirst.symm.trans hsecond)

theorem leftUnique_isBoolean : Relator.LeftUnique Value.IsBoolean :=
  fun _ _ _ hfirst hsecond => Value.boolean.inj (hfirst.symm.trans hsecond)

theorem leftUnique_isNatural : Relator.LeftUnique Value.IsNatural :=
  fun _ _ _ hfirst hsecond =>
    Int.natCast_inj.mp (Value.integer.inj (hfirst.symm.trans hsecond))

theorem leftUnique_isChoice : Relator.LeftUnique Value.IsChoice := by
  intro first second value hfirst hsecond
  cases hfirst <;> cases hsecond <;> rfl

theorem leftUnique_comp (hunique : Relator.LeftUnique tells) {γ : Type} {of : γ → α}
    (hinjective : Function.Injective of) : Relator.LeftUnique fun told => tells (of told) :=
  fun _ _ _ hfirst hsecond => hinjective (hunique hfirst hsecond)

theorem leftUnique_word16 : Relator.LeftUnique fun number : UInt16 =>
    Value.IsNatural number.toNat :=
  leftUnique_comp leftUnique_isNatural fun _ _ => UInt16.toNat_inj.mp

theorem leftUnique_word32 : Relator.LeftUnique fun number : UInt32 =>
    Value.IsNatural number.toNat :=
  leftUnique_comp leftUnique_isNatural fun _ _ => UInt32.toNat_inj.mp

theorem leftUnique_word64 : Relator.LeftUnique fun number : UInt64 =>
    Value.IsNatural number.toNat :=
  leftUnique_comp leftUnique_isNatural fun _ _ => UInt64.toNat_inj.mp

theorem leftUnique_mode : Relator.LeftUnique fun mode : ServerMode =>
    Value.IsChoice mode.name :=
  leftUnique_comp leftUnique_isChoice fun first second hname => by
    have hlookup := ServerMode.lookup_name first
    rw [hname, ServerMode.lookup_name] at hlookup
    exact (Option.some.inj hlookup).symm

/-! ## The document that a program reads -/

namespace Config.Document

/-- The table of the file that a program is given. Without a file it is empty. -/
inductive Source (readText : ReadText) : Option String → Table → Prop
  | nowhere : Source readText none []
  | file {path text : String} {table : Table} (hread : readText path = .ok text)
      (hparse : Toml.parse? text = some table) : Source readText (some path) table

/-- A table whose sections are tables, and what a program reads of it. -/
structure Loaded (readText : ReadText) (table : Table) (document : Document) : Prop where
  load : ∃ path, Source readText path table ∧ Document.load readText path = .ok document
  tables : table.HasTables layout.keys

theorem parse_eq_ok_iff {text : String} {document : Document} : parse text = .ok document ↔
    ∃ table, Toml.parse? text = some table ∧ ofTable table = .ok document := by
  unfold parse
  cases Toml.parse? text <;> simp [mapError_eq_ok_iff]

theorem load_some_eq_ok_iff {readText : ReadText} {path : String} {document : Document} :
    Document.load readText (some path) = .ok document ↔
      ∃ text, readText path = .ok text ∧ parse text = .ok document := by
  simp only [Document.load, bind_eq_ok_iff, mapError_eq_ok_iff]

theorem loaded_nothing (readText : ReadText) : Loaded readText [] .default where
  load := ⟨none, .nowhere, rfl⟩
  tables := fun _ _ _ hlookup => by cases hlookup

theorem Loaded.reflects {readText : ReadText} {table : Table} {document : Document}
    (hloaded : Loaded readText table document) : Reflects table document := by
  obtain ⟨⟨path, hsource, hload⟩, htables⟩ := hloaded
  cases hsource with
  | nowhere =>
      cases hload
      exact ⟨rfl, .table List.nodup_nil (List.forall_mem_nil _), htables⟩
  | file hread hparse =>
      obtain ⟨text, hsame, hload⟩ := load_some_eq_ok_iff.mp hload
      cases hread.symm.trans hsame
      obtain ⟨found, hfound, hload⟩ := parse_eq_ok_iff.mp hload
      cases hparse.symm.trans hfound
      exact ⟨hload, Toml.distinct_of_parse? hparse, htables⟩

end Config.Document

/-- Whether two tables say the same under some keys of a section. -/
def Toml.Table.AgreesOn (table : Table) (name : String) (keys : List String) (other : Table) :
    Prop :=
  ∀ key ∈ keys, table.at? name key = other.at? name key

/-- Whether a table says nothing under any of some keys of a section: there is no such section
or it has none of the keys. -/
inductive Toml.Table.SaysNothing (table : Table) (name : String) (keys : List String) : Prop
  | missing (hlookup : table.lookup name = none)
  | unknown {entries : Table} (hlookup : table.lookup name = some (.table entries))
      (hkeys : ∀ key ∈ keys, key ∉ entries.map Prod.fst)

theorem Toml.Table.SaysNothing.agreesOn {table : Table} {name : String} {keys : List String}
    (hnothing : table.SaysNothing name keys) : table.AgreesOn name keys [] := by
  intro key hkey
  have hempty : Table.at? [] name key = none := rfl
  rw [hempty, Option.eq_none_iff_forall_ne_some]
  intro value hat
  obtain ⟨entries, hlookup, hentry⟩ := Table.at?_eq_some_iff.mp hat
  cases hnothing with
  | missing hnone => simp [hlookup] at hnone
  | unknown hsome hkeys =>
      rw [hlookup, Option.some.injEq, Value.table.injEq] at hsome
      subst hsome
      exact hkeys key hkey (List.mem_map_of_mem (Toml.mem_of_lookup_eq_some hentry))

/-! ## The server -/

namespace ServerConfig

/-- Whether each setting of the server comes from its option, else from the value under its
key, else from the default. Names of clients are shown unless the document or the options
forbid it. -/
structure FromLayers (options : ServerOptions) (table : Table) (config : ServerConfig) : Prop where
  listen : Layered id Value.IsString ServerConfig.default.listen
    options.listen (table.at? "server" "listen") config.listen
  backlog : Layered id (fun number => Value.IsNatural number.toNat) ServerConfig.default.backlog
    options.backlog (table.at? "server" "backlog") config.backlog
  reply : Layered id Value.IsString ServerConfig.default.reply
    options.reply (table.at? "server" "reply") config.reply
  mode : Layered id (fun mode => Value.IsChoice mode.name) ServerConfig.default.mode
    options.mode (table.at? "server" "mode") config.mode
  maxConnections : Layered id (fun number => Value.IsNatural number.toNat)
    ServerConfig.default.maxConnections
    options.maxConnections (table.at? "server" "max_connections") config.maxConnections
  replyDelay : Layered Duration.ofMillis IsMillis ServerConfig.default.replyDelay
    options.replyDelayMs (table.at? "server" "reply_delay_ms") config.replyDelay
  readTimeout : Layered (some ∘ Duration.ofMillis) IsMillis ServerConfig.default.readTimeout
    options.readTimeoutMs (table.at? "server" "read_timeout_ms") config.readTimeout
  resolveHostnames : ∃ said, Layered id Value.IsBoolean ServerConfig.default.resolveHostnames
    none (table.at? "server" "resolve_hostnames") said ∧
    config.resolveHostnames = (said && !options.noResolve)
  logLevel : Layered id Value.IsString ServerConfig.default.logLevel
    options.logLevel (table.at? "logging" "level") config.logLevel

variable {options : ServerOptions} {table other : Table} {document otherDocument : Document}

theorem fromLayers_build (hreflects : document.Reflects table) (options : ServerOptions) :
    (build options document).FromLayers options table := by
  obtain ⟨entries, hserver, htold⟩ := hreflects.server
  obtain ⟨logEntries, hlogging, htoldLog⟩ := hreflects.logging
  rw [build, hserver, hlogging]
  exact {
    listen := layered_getD ((htold ServerSection.reads_listen).getD defaultListen)
    backlog := layered_getD ((htold ServerSection.reads_backlog).getD defaultBacklog)
    reply := layered_getD ((htold ServerSection.reads_reply).getD defaultReply)
    mode := layered_getD ((htold ServerSection.reads_mode).getD .default)
    maxConnections :=
      layered_getD ((htold ServerSection.reads_maxConnections).getD defaultMaxConnections)
    replyDelay := layered_getD ((htold ServerSection.reads_replyDelayMs).getD 0)
    readTimeout := layered_or (htold ServerSection.reads_readTimeoutMs)
    resolveHostnames := ⟨_, layered_getD
      ((htold ServerSection.reads_resolveHostnames).getD defaultResolveHostnames),
      Bool.and_comm _ _⟩
    logLevel := layered_getD ((htoldLog LoggingSection.reads_level).getD defaultLogLevel) }

theorem FromLayers.unique {first second : ServerConfig}
    (hfirst : first.FromLayers options table) (hsecond : second.FromLayers options other)
    (hserver : table.AgreesOn "server" ServerSection.layout.keys other)
    (hlogging : table.AgreesOn "logging" LoggingSection.layout.keys other) : first = second := by
  obtain ⟨said, hsaid, hshown⟩ := hfirst.resolveHostnames
  obtain ⟨again, hagain, hshownAgain⟩ := hsecond.resolveHostnames
  have hresolve :=
    hsaid.unique leftUnique_isBoolean (hserver "resolve_hostnames" (by decide)) hagain
  have hlisten :=
    hfirst.listen.unique leftUnique_isString (hserver "listen" (by decide)) hsecond.listen
  have hbacklog :=
    hfirst.backlog.unique leftUnique_word32 (hserver "backlog" (by decide)) hsecond.backlog
  have hreply := hfirst.reply.unique leftUnique_isString (hserver "reply" (by decide)) hsecond.reply
  have hmode := hfirst.mode.unique leftUnique_mode (hserver "mode" (by decide)) hsecond.mode
  have hmax := hfirst.maxConnections.unique leftUnique_word64
    (hserver "max_connections" (by decide)) hsecond.maxConnections
  have hdelay := hfirst.replyDelay.unique leftUnique_word64
    (hserver "reply_delay_ms" (by decide)) hsecond.replyDelay
  have hlimit := hfirst.readTimeout.unique leftUnique_word64
    (hserver "read_timeout_ms" (by decide)) hsecond.readTimeout
  have hlevel :=
    hfirst.logLevel.unique leftUnique_isString (hlogging "level" (by decide)) hsecond.logLevel
  rw [hresolve, ← hshownAgain] at hshown
  cases first
  cases second
  simp_all

theorem merge_congr (hbuild : build options document = build options otherDocument) :
    merge options document = merge options otherDocument := by
  simp only [merge, hbuild]

end ServerConfig

/-! ## The client -/

namespace ClientConfig

/-- Whether each setting of the client comes from its option, else from the value under its
key, else from the default. -/
structure FromLayers (options : ClientOptions) (table : Table) (config : ClientConfig) : Prop where
  host : Layered id Value.IsString ClientConfig.default.host
    options.host (table.at? "client" "host") config.host
  port : Layered id (fun number => Value.IsNatural number.toNat) ClientConfig.default.port
    options.port (table.at? "client" "port") config.port
  message : Layered id Value.IsString ClientConfig.default.message
    options.message (table.at? "client" "message") config.message
  connectTimeout : Layered (some ∘ Duration.ofMillis) IsMillis ClientConfig.default.connectTimeout
    options.connectTimeoutMs (table.at? "client" "connect_timeout_ms") config.connectTimeout
  readTimeout : Layered (some ∘ Duration.ofMillis) IsMillis ClientConfig.default.readTimeout
    options.readTimeoutMs (table.at? "client" "read_timeout_ms") config.readTimeout
  logLevel : Layered id Value.IsString ClientConfig.default.logLevel
    options.logLevel (table.at? "logging" "level") config.logLevel

variable {options : ClientOptions} {table other : Table} {document otherDocument : Document}

theorem fromLayers_build (hreflects : document.Reflects table) (options : ClientOptions) :
    (build options document).FromLayers options table := by
  obtain ⟨entries, hclient, htold⟩ := hreflects.client
  obtain ⟨logEntries, hlogging, htoldLog⟩ := hreflects.logging
  rw [build, hclient, hlogging]
  exact {
    host := layered_getD ((htold ClientSection.reads_host).getD defaultHost)
    port := layered_getD ((htold ClientSection.reads_port).getD defaultPort)
    message := layered_getD ((htold ClientSection.reads_message).getD defaultMessage)
    connectTimeout := layered_or (htold ClientSection.reads_connectTimeoutMs)
    readTimeout := layered_or (htold ClientSection.reads_readTimeoutMs)
    logLevel := layered_getD ((htoldLog LoggingSection.reads_level).getD defaultLogLevel) }

theorem FromLayers.unique {first second : ClientConfig}
    (hfirst : first.FromLayers options table) (hsecond : second.FromLayers options other)
    (hclient : table.AgreesOn "client" ClientSection.layout.keys other)
    (hlogging : table.AgreesOn "logging" LoggingSection.layout.keys other) : first = second := by
  have hhost := hfirst.host.unique leftUnique_isString (hclient "host" (by decide)) hsecond.host
  have hport := hfirst.port.unique leftUnique_word16 (hclient "port" (by decide)) hsecond.port
  have hmessage :=
    hfirst.message.unique leftUnique_isString (hclient "message" (by decide)) hsecond.message
  have hconnect := hfirst.connectTimeout.unique leftUnique_word64
    (hclient "connect_timeout_ms" (by decide)) hsecond.connectTimeout
  have hread := hfirst.readTimeout.unique leftUnique_word64
    (hclient "read_timeout_ms" (by decide)) hsecond.readTimeout
  have hlevel :=
    hfirst.logLevel.unique leftUnique_isString (hlogging "level" (by decide)) hsecond.logLevel
  cases first
  cases second
  simp_all

theorem merge_congr (hbuild : build options document = build options otherDocument) :
    merge options document = merge options otherDocument := by
  simp only [merge, hbuild]

end ClientConfig

/-! ## Both programs -/

/-- Each setting that is merged comes from its option, else from the document, else from the
default, and from nothing else. So documents that agree on the keys of a program and of the log
come to the same. The defaults of the keys agree with those of the sections: a document that
says nothing there, such as an empty one, comes to what no document does, and a section without
any key that it knows is read as if it were missing. -/
theorem merge_by_layers {readText : ReadText} {table : Table} {document : Document}
    (hloaded : Document.Loaded readText table document) :
    (∀ options config, ServerConfig.merge options document = .ok config →
      config.FromLayers options table ∧
      ∀ other : ServerConfig, other.FromLayers options table → other = config) ∧
    (∀ options config, ClientConfig.merge options document = .ok config →
      config.FromLayers options table ∧
      ∀ other : ClientConfig, other.FromLayers options table → other = config) ∧
    (∀ readOther other otherDocument, Document.Loaded readOther other otherDocument →
      table.AgreesOn "logging" LoggingSection.layout.keys other →
      (table.AgreesOn "server" ServerSection.layout.keys other → ∀ options,
        ServerConfig.merge options document = ServerConfig.merge options otherDocument) ∧
      (table.AgreesOn "client" ClientSection.layout.keys other → ∀ options,
        ClientConfig.merge options document = ClientConfig.merge options otherDocument)) ∧
    (table.SaysNothing "logging" LoggingSection.layout.keys →
      (table.SaysNothing "server" ServerSection.layout.keys → ∀ options,
        ServerConfig.merge options document = ServerConfig.merge options .default) ∧
      (table.SaysNothing "client" ClientSection.layout.keys → ∀ options,
        ClientConfig.merge options document = ClientConfig.merge options .default)) ∧
    Document.parse "" = .ok .default ∧
    (∀ entries : Table,
      ((∀ key ∈ ServerSection.layout.keys, key ∉ entries.map Prod.fst) →
        ServerSection.read (.table entries) = .ok .default) ∧
      ((∀ key ∈ ClientSection.layout.keys, key ∉ entries.map Prod.fst) →
        ClientSection.read (.table entries) = .ok .default) ∧
      ((∀ key ∈ LoggingSection.layout.keys, key ∉ entries.map Prod.fst) →
        LoggingSection.read (.table entries) = .ok .default)) := by
  have hagree : ∀ readOther other otherDocument,
      Document.Loaded readOther other otherDocument →
      table.AgreesOn "logging" LoggingSection.layout.keys other →
      (table.AgreesOn "server" ServerSection.layout.keys other → ∀ options,
        ServerConfig.merge options document = ServerConfig.merge options otherDocument) ∧
      (table.AgreesOn "client" ClientSection.layout.keys other → ∀ options,
        ClientConfig.merge options document = ClientConfig.merge options otherDocument) := by
    intro readOther other otherDocument hother hlogging
    constructor
    · intro hserver options
      exact ServerConfig.merge_congr <|
        (ServerConfig.fromLayers_build hloaded.reflects options).unique
          (ServerConfig.fromLayers_build hother.reflects options) hserver hlogging
    · intro hclient options
      exact ClientConfig.merge_congr <|
        (ClientConfig.fromLayers_build hloaded.reflects options).unique
          (ClientConfig.fromLayers_build hother.reflects options) hclient hlogging
  refine ⟨?_, ?_, hagree, ?_, by cbv, fun _ => ⟨ServerSection.read_of_unknown,
    ClientSection.read_of_unknown, LoggingSection.read_of_unknown⟩⟩
  · intro options config hmerge
    obtain ⟨rfl, -⟩ := ServerConfig.merge_eq_ok_iff.mp hmerge
    have hlayers := ServerConfig.fromLayers_build hloaded.reflects options
    exact ⟨hlayers, fun other hother => hother.unique hlayers (fun _ _ => rfl) (fun _ _ => rfl)⟩
  · intro options config hmerge
    obtain ⟨rfl, -⟩ := ClientConfig.merge_eq_ok_iff.mp hmerge
    have hlayers := ClientConfig.fromLayers_build hloaded.reflects options
    exact ⟨hlayers, fun other hother => hother.unique hlayers (fun _ _ => rfl) (fun _ _ => rfl)⟩
  · -- No document is one with an empty table, which agrees with all that say nothing.
    intro hlogging
    obtain ⟨hserver, hclient⟩ :=
      hagree readText [] .default (Document.loaded_nothing readText) hlogging.agreesOn
    exact ⟨fun hnothing => hserver hnothing.agreesOn, fun hnothing => hclient hnothing.agreesOn⟩

/-- A document for both programs. -/
def sharedText : String :=
  "[server]\nlisten = \"0.0.0.0:7\"\nbacklog = 3\ncolour = 1\n[client]\nport = 4711\n" ++
    "[logging]\nlevel = \"debug\"\n"

/-- What the document for both programs stands for. -/
def sharedTable : Table := [
  ("server", .table [("listen", .string "0.0.0.0:7"), ("backlog", .integer 3),
    ("colour", .integer 1)]),
  ("client", .table [("port", .integer 4711)]),
  ("logging", .table [("level", .string "debug")])]

/-- What is read of the document for both programs. -/
def sharedDocument : Document where
  server := { ServerSection.default with listen := "0.0.0.0:7", backlog := 3 }
  client := { ClientSection.default with port := 4711 }
  logging := { level := "debug" }

theorem loaded_sharedText :
    Document.Loaded (fun _ => .ok sharedText) sharedTable sharedDocument where
  load := ⟨some "shared.toml", .file rfl (by cbv), by cbv⟩
  tables := by
    intro name _ value hlookup
    have hmem := Toml.mem_of_lookup_eq_some hlookup
    simp only [sharedTable, List.mem_cons, Prod.mk.injEq, List.not_mem_nil, or_false] at hmem
    rcases hmem with ⟨-, rfl⟩ | ⟨-, rfl⟩ | ⟨-, rfl⟩ <;> exact ⟨_, rfl⟩

/-- An option against the document for both programs. -/
theorem merge_by_layers_sharedText : ∃ config : ServerConfig,
    ServerConfig.merge { backlog := some 5, noResolve := true } sharedDocument = .ok config ∧
      config.FromLayers { backlog := some 5, noResolve := true } sharedTable ∧
      config.listen = "0.0.0.0:7" ∧ config.backlog = 5 ∧ config.reply = "Hallo" := by
  obtain ⟨hserver, -⟩ := merge_by_layers loaded_sharedText
  have hmerge : ServerConfig.merge { backlog := some 5, noResolve := true } sharedDocument =
      .ok (ServerConfig.build { backlog := some 5, noResolve := true } sharedDocument) := by
    decide +kernel
  exact ⟨_, hmerge, (hserver _ _ hmerge).1, rfl, rfl, rfl⟩

end LineGreeting
