import LineGreeting.Config.Document
import LineGreeting.Proofs.Toml.Sections

/-! # What a document says

Each key of a section sets one field, and each field is set by one key. So a section is its
default changed by what stands under the known keys, and the document is its three sections.
It is read unless a known key, in whichever section, has a value of a wrong kind.
-/

namespace LineGreeting.Config

open Toml (Gives Layout Table Told Value)

/-! ## The section about the server -/

theorem lookup_variants_eq_some_iff {name : String} {mode : ServerMode} :
    ServerMode.variants.lookup name = some mode ↔ name = mode.name := by
  constructor
  · intro hlookup
    obtain ⟨front, rest, hvariants, -⟩ := List.lookup_eq_some_iff.mp hlookup
    have hmem : (name, mode) ∈ ServerMode.variants := by simp [hvariants]
    cases mode <;> simpa [ServerMode.variants, ServerMode.name] using hmem
  · rintro rfl
    exact ServerMode.lookup_name mode

theorem map_expectMode {σ : Type} {put : ServerMode → σ} {value : Value} {next : σ} :
    (Toml.expectChoice ServerMode.variants value).map put = .ok next ↔
      ∃ mode : ServerMode, value.IsChoice mode.name ∧ put mode = next := by
  simp [map_eq_ok_iff, Toml.expectChoice_eq_ok_iff, lookup_variants_eq_some_iff]

namespace ServerSection

/-- The defaults of the keys make up the default of the section. -/
theorem complete_empty : Entries.complete {} = .default := rfl

theorem read_of_unknown {table : Table} (hkeys : ∀ key ∈ layout.keys, key ∉ table.map Prod.fst) :
    read (.table table) = .ok .default := by
  rw [read, Layout.read_of_unknown hkeys, ← complete_empty]
  rfl

/-- What an entry with a known key does to the section. -/
inductive Sets (entries : Entries) : String × Value → Entries → Prop
  | listen {value : Value} {listen : String} (hvalue : value.IsString listen) :
      Sets entries ("listen", value) { entries with listen := some listen }
  | backlog {value : Value} {backlog : UInt32} (hvalue : value.IsNatural backlog.toNat) :
      Sets entries ("backlog", value) { entries with backlog := some backlog }
  | reply {value : Value} {reply : String} (hvalue : value.IsString reply) :
      Sets entries ("reply", value) { entries with reply := some reply }
  | mode {value : Value} {mode : ServerMode} (hvalue : value.IsChoice mode.name) :
      Sets entries ("mode", value) { entries with mode := some mode }
  | maxConnections {value : Value} {maxConnections : UInt64}
      (hvalue : value.IsNatural maxConnections.toNat) :
      Sets entries ("max_connections", value) { entries with maxConnections := some maxConnections }
  | replyDelayMs {value : Value} {replyDelayMs : UInt64}
      (hvalue : value.IsNatural replyDelayMs.toNat) :
      Sets entries ("reply_delay_ms", value) { entries with replyDelayMs := some replyDelayMs }
  | readTimeoutMs {value : Value} {limit : UInt64} (hvalue : value.IsNatural limit.toNat) :
      Sets entries ("read_timeout_ms", value) { entries with readTimeoutMs := some limit }
  | resolveHostnames {value : Value} {resolveHostnames : Bool}
      (hvalue : value.IsBoolean resolveHostnames) :
      Sets entries ("resolve_hostnames", value) { entries with resolveHostnames := some resolveHostnames }

theorem sets_of_setEntry {entries next : Entries} {entry : String × Value}
    (hknown : entry.1 ∈ layout.keys) (hset : layout.setEntry entries entry = .ok next) :
    Sets entries entry next := by
  obtain ⟨key, value⟩ := entry
  simp only [Layout.keys, layout, stringField, wordField, List.map_cons, List.map_nil,
    List.mem_cons, List.not_mem_nil, or_false] at hknown
  rcases hknown with rfl | rfl | rfl | rfl | rfl | rfl | rfl | rfl
  · obtain ⟨listen, hvalue, rfl⟩ := Toml.map_expectString.mp hset
    exact .listen hvalue
  · obtain ⟨backlog, hvalue, rfl⟩ := Toml.map_expectUInt32.mp hset
    rw [UInt32.ofNat_toNat]
    exact .backlog hvalue
  · obtain ⟨reply, hvalue, rfl⟩ := Toml.map_expectString.mp hset
    exact .reply hvalue
  · obtain ⟨mode, hvalue, rfl⟩ := map_expectMode.mp hset
    exact .mode hvalue
  · obtain ⟨maxConnections, hvalue, rfl⟩ := Toml.map_expectUInt64.mp hset
    rw [UInt64.ofNat_toNat]
    exact .maxConnections hvalue
  · obtain ⟨replyDelayMs, hvalue, rfl⟩ := Toml.map_expectUInt64.mp hset
    rw [UInt64.ofNat_toNat]
    exact .replyDelayMs hvalue
  · obtain ⟨limit, hvalue, rfl⟩ := Toml.map_expectUInt64.mp hset
    rw [UInt64.ofNat_toNat]
    exact .readTimeoutMs hvalue
  · obtain ⟨resolveHostnames, hvalue, rfl⟩ := Toml.map_expectBool.mp hset
    exact .resolveHostnames hvalue

theorem reads_listen : layout.Reads "listen" Entries.listen (Gives Value.IsString) :=
  Layout.reads (by decide) sets_of_setEntry fun hsets => by
    cases hsets with | _ hvalue => simp [Gives, hvalue]

theorem reads_backlog : layout.Reads "backlog" Entries.backlog
    (Gives fun number => Value.IsNatural number.toNat) :=
  Layout.reads (by decide) sets_of_setEntry fun hsets => by
    cases hsets with | _ hvalue => simp [Gives, hvalue]

theorem reads_reply : layout.Reads "reply" Entries.reply (Gives Value.IsString) :=
  Layout.reads (by decide) sets_of_setEntry fun hsets => by
    cases hsets with | _ hvalue => simp [Gives, hvalue]

theorem reads_mode : layout.Reads "mode" Entries.mode
    (Gives fun mode => Value.IsChoice mode.name) :=
  Layout.reads (by decide) sets_of_setEntry fun hsets => by
    cases hsets with | _ hvalue => simp [Gives, hvalue]

theorem reads_maxConnections : layout.Reads "max_connections" Entries.maxConnections
    (Gives fun number => Value.IsNatural number.toNat) :=
  Layout.reads (by decide) sets_of_setEntry fun hsets => by
    cases hsets with | _ hvalue => simp [Gives, hvalue]

theorem reads_replyDelayMs : layout.Reads "reply_delay_ms" Entries.replyDelayMs
    (Gives fun number => Value.IsNatural number.toNat) :=
  Layout.reads (by decide) sets_of_setEntry fun hsets => by
    cases hsets with | _ hvalue => simp [Gives, hvalue]

theorem reads_readTimeoutMs : layout.Reads "read_timeout_ms" Entries.readTimeoutMs
    (Gives fun number => Value.IsNatural number.toNat) :=
  Layout.reads (by decide) sets_of_setEntry fun hsets => by
    cases hsets with | _ hvalue => simp [Gives, hvalue]

theorem reads_resolveHostnames : layout.Reads "resolve_hostnames" Entries.resolveHostnames
    (Gives Value.IsBoolean) :=
  Layout.reads (by decide) sets_of_setEntry fun hsets => by
    cases hsets with | _ hvalue => simp [Gives, hvalue]

/-- The keys of the section and the kinds of their values. -/
def kinds : Layout.Kinds := [
  ("listen", fun value => ∃ text, value.IsString text),
  ("backlog", fun value => ∃ number : UInt32, value.IsNatural number.toNat),
  ("reply", fun value => ∃ text, value.IsString text),
  ("mode", fun value => ∃ mode : ServerMode, value.IsChoice mode.name),
  ("max_connections", fun value => ∃ number : UInt64, value.IsNatural number.toNat),
  ("reply_delay_ms", fun value => ∃ number : UInt64, value.IsNatural number.toNat),
  ("read_timeout_ms", fun value => ∃ number : UInt64, value.IsNatural number.toNat),
  ("resolve_hostnames", fun value => ∃ truth, value.IsBoolean truth)]

theorem hasKinds : layout.HasKinds kinds := by
  refine ⟨rfl, ?_⟩
  simp only [kinds, List.forall_mem_cons]
  refine ⟨?_, ?_, ?_, ?_, ?_, ?_, ?_, ?_, List.forall_mem_nil _⟩ <;> intro sect value
  · exact Toml.exists_ok_iff fun _ => Toml.map_expectString
  · exact Toml.exists_ok_iff fun _ => Toml.map_expectUInt32
  · exact Toml.exists_ok_iff fun _ => Toml.map_expectString
  · exact Toml.exists_ok_iff fun _ => map_expectMode
  · exact Toml.exists_ok_iff fun _ => Toml.map_expectUInt64
  · exact Toml.exists_ok_iff fun _ => Toml.map_expectUInt64
  · exact Toml.exists_ok_iff fun _ => Toml.map_expectUInt64
  · exact Toml.exists_ok_iff fun _ => Toml.map_expectBool

end ServerSection

/-! ## The section about the client -/

namespace ClientSection

/-- The defaults of the keys make up the default of the section. -/
theorem complete_empty : Entries.complete {} = .default := rfl

theorem read_of_unknown {table : Table} (hkeys : ∀ key ∈ layout.keys, key ∉ table.map Prod.fst) :
    read (.table table) = .ok .default := by
  rw [read, Layout.read_of_unknown hkeys, ← complete_empty]
  rfl

/-- What an entry with a known key does to the section. -/
inductive Sets (entries : Entries) : String × Value → Entries → Prop
  | host {value : Value} {host : String} (hvalue : value.IsString host) :
      Sets entries ("host", value) { entries with host := some host }
  | port {value : Value} {port : UInt16} (hvalue : value.IsNatural port.toNat) :
      Sets entries ("port", value) { entries with port := some port }
  | message {value : Value} {message : String} (hvalue : value.IsString message) :
      Sets entries ("message", value) { entries with message := some message }
  | connectTimeoutMs {value : Value} {limit : UInt64} (hvalue : value.IsNatural limit.toNat) :
      Sets entries ("connect_timeout_ms", value) { entries with connectTimeoutMs := some limit }
  | readTimeoutMs {value : Value} {limit : UInt64} (hvalue : value.IsNatural limit.toNat) :
      Sets entries ("read_timeout_ms", value) { entries with readTimeoutMs := some limit }

theorem sets_of_setEntry {entries next : Entries} {entry : String × Value}
    (hknown : entry.1 ∈ layout.keys) (hset : layout.setEntry entries entry = .ok next) :
    Sets entries entry next := by
  obtain ⟨key, value⟩ := entry
  simp only [Layout.keys, layout, stringField, wordField, List.map_cons, List.map_nil,
    List.mem_cons, List.not_mem_nil, or_false] at hknown
  rcases hknown with rfl | rfl | rfl | rfl | rfl
  · obtain ⟨host, hvalue, rfl⟩ := Toml.map_expectString.mp hset
    exact .host hvalue
  · obtain ⟨port, hvalue, rfl⟩ := Toml.map_expectUInt16.mp hset
    rw [UInt16.ofNat_toNat]
    exact .port hvalue
  · obtain ⟨message, hvalue, rfl⟩ := Toml.map_expectString.mp hset
    exact .message hvalue
  · obtain ⟨limit, hvalue, rfl⟩ := Toml.map_expectUInt64.mp hset
    rw [UInt64.ofNat_toNat]
    exact .connectTimeoutMs hvalue
  · obtain ⟨limit, hvalue, rfl⟩ := Toml.map_expectUInt64.mp hset
    rw [UInt64.ofNat_toNat]
    exact .readTimeoutMs hvalue

theorem reads_host : layout.Reads "host" Entries.host (Gives Value.IsString) :=
  Layout.reads (by decide) sets_of_setEntry fun hsets => by
    cases hsets with | _ hvalue => simp [Gives, hvalue]

theorem reads_port : layout.Reads "port" Entries.port
    (Gives fun number => Value.IsNatural number.toNat) :=
  Layout.reads (by decide) sets_of_setEntry fun hsets => by
    cases hsets with | _ hvalue => simp [Gives, hvalue]

theorem reads_message : layout.Reads "message" Entries.message (Gives Value.IsString) :=
  Layout.reads (by decide) sets_of_setEntry fun hsets => by
    cases hsets with | _ hvalue => simp [Gives, hvalue]

theorem reads_connectTimeoutMs : layout.Reads "connect_timeout_ms" Entries.connectTimeoutMs
    (Gives fun number => Value.IsNatural number.toNat) :=
  Layout.reads (by decide) sets_of_setEntry fun hsets => by
    cases hsets with | _ hvalue => simp [Gives, hvalue]

theorem reads_readTimeoutMs : layout.Reads "read_timeout_ms" Entries.readTimeoutMs
    (Gives fun number => Value.IsNatural number.toNat) :=
  Layout.reads (by decide) sets_of_setEntry fun hsets => by
    cases hsets with | _ hvalue => simp [Gives, hvalue]

/-- The keys of the section and the kinds of their values. -/
def kinds : Layout.Kinds := [
  ("host", fun value => ∃ text, value.IsString text),
  ("port", fun value => ∃ number : UInt16, value.IsNatural number.toNat),
  ("message", fun value => ∃ text, value.IsString text),
  ("connect_timeout_ms", fun value => ∃ number : UInt64, value.IsNatural number.toNat),
  ("read_timeout_ms", fun value => ∃ number : UInt64, value.IsNatural number.toNat)]

theorem hasKinds : layout.HasKinds kinds := by
  refine ⟨rfl, ?_⟩
  simp only [kinds, List.forall_mem_cons]
  refine ⟨?_, ?_, ?_, ?_, ?_, List.forall_mem_nil _⟩ <;> intro sect value
  · exact Toml.exists_ok_iff fun _ => Toml.map_expectString
  · exact Toml.exists_ok_iff fun _ => Toml.map_expectUInt16
  · exact Toml.exists_ok_iff fun _ => Toml.map_expectString
  · exact Toml.exists_ok_iff fun _ => Toml.map_expectUInt64
  · exact Toml.exists_ok_iff fun _ => Toml.map_expectUInt64

end ClientSection

/-! ## The section about the log -/

namespace LoggingSection

/-- The defaults of the keys make up the default of the section. -/
theorem complete_empty : Entries.complete {} = .default := rfl

theorem read_of_unknown {table : Table} (hkeys : ∀ key ∈ layout.keys, key ∉ table.map Prod.fst) :
    read (.table table) = .ok .default := by
  rw [read, Layout.read_of_unknown hkeys, ← complete_empty]
  rfl

/-- What an entry with a known key does to the section. -/
inductive Sets (entries : Entries) : String × Value → Entries → Prop
  | level {value : Value} {level : String} (hvalue : value.IsString level) :
      Sets entries ("level", value) { entries with level := some level }

theorem sets_of_setEntry {entries next : Entries} {entry : String × Value}
    (hknown : entry.1 ∈ layout.keys) (hset : layout.setEntry entries entry = .ok next) :
    Sets entries entry next := by
  obtain ⟨key, value⟩ := entry
  simp only [Layout.keys, layout, stringField, List.map_cons, List.map_nil, List.mem_singleton]
    at hknown
  subst hknown
  obtain ⟨level, hvalue, rfl⟩ := Toml.map_expectString.mp hset
  exact .level hvalue

theorem reads_level : layout.Reads "level" Entries.level (Gives Value.IsString) :=
  Layout.reads (by decide) sets_of_setEntry fun hsets => by
    cases hsets with | _ hvalue => simp [Gives, hvalue]

/-- The keys of the section and the kinds of their values. -/
def kinds : Layout.Kinds := [
  ("level", fun value => ∃ text, value.IsString text)]

theorem hasKinds : layout.HasKinds kinds := by
  refine ⟨rfl, ?_⟩
  simp only [kinds, List.forall_mem_singleton]
  intro sect value
  exact Toml.exists_ok_iff fun _ => Toml.map_expectString

end LoggingSection

/-! ## The document -/

namespace Document

/-- What an entry with a known key does to the document. -/
inductive Sets (entries : Entries) : String × Value → Entries → Prop
  | server {value : Value} {server : ServerSection}
      (hvalue : ServerSection.read value = .ok server) :
      Sets entries ("server", value) { entries with server := some server }
  | client {value : Value} {client : ClientSection}
      (hvalue : ClientSection.read value = .ok client) :
      Sets entries ("client", value) { entries with client := some client }
  | logging {value : Value} {logging : LoggingSection}
      (hvalue : LoggingSection.read value = .ok logging) :
      Sets entries ("logging", value) { entries with logging := some logging }

theorem sets_of_setEntry {entries next : Entries} {entry : String × Value}
    (hknown : entry.1 ∈ layout.keys) (hset : layout.setEntry entries entry = .ok next) :
    Sets entries entry next := by
  obtain ⟨key, value⟩ := entry
  simp only [Layout.keys, layout, List.map_cons, List.map_nil, List.mem_cons, List.not_mem_nil,
    or_false] at hknown
  rcases hknown with rfl | rfl | rfl
  · obtain ⟨server, hvalue, rfl⟩ := map_eq_ok_iff.mp hset
    exact .server hvalue
  · obtain ⟨client, hvalue, rfl⟩ := map_eq_ok_iff.mp hset
    exact .client hvalue
  · obtain ⟨logging, hvalue, rfl⟩ := map_eq_ok_iff.mp hset
    exact .logging hvalue

theorem reads_server : layout.Reads "server" Entries.server
    (Gives fun server value => ServerSection.read value = .ok server) :=
  Layout.reads (by decide) sets_of_setEntry fun hsets => by
    cases hsets with | _ hvalue => simp [Gives, hvalue]

theorem reads_client : layout.Reads "client" Entries.client
    (Gives fun client value => ClientSection.read value = .ok client) :=
  Layout.reads (by decide) sets_of_setEntry fun hsets => by
    cases hsets with | _ hvalue => simp [Gives, hvalue]

theorem reads_logging : layout.Reads "logging" Entries.logging
    (Gives fun logging value => LoggingSection.read value = .ok logging) :=
  Layout.reads (by decide) sets_of_setEntry fun hsets => by
    cases hsets with | _ hvalue => simp [Gives, hvalue]

section

variable {table : Table} {document : Document}

/-- What is read of a table in which no key is twice and whose sections are tables. -/
structure Reflects (table : Table) (document : Document) : Prop where
  read : ofTable table = .ok document
  distinct : (Value.table table).Distinct
  tables : table.HasTables layout.keys

theorem Reflects.exists_entries (hreflects : Reflects table document) :
    ∃ entries : Entries, entries.complete = document ∧
      layout.read {} (.table table) = .ok entries := by
  obtain ⟨entries, hread, hcomplete⟩ := map_eq_ok_iff.mp hreflects.read
  exact ⟨entries, hcomplete, hread⟩

theorem Reflects.server (hreflects : Reflects table document) :
    ∃ entries : ServerSection.Entries, document.server = entries.complete ∧
      ∀ {α : Type} {key : String} {field : ServerSection.Entries → α} {tells : α → Value → Prop},
        ServerSection.layout.Reads key field tells →
        Told tells (field {}) (table.at? "server" key) (field entries) := by
  obtain ⟨sections, rfl, hread⟩ := hreflects.exists_entries
  obtain ⟨entries, hserver, htold⟩ := Told.exists_entries ServerSection.complete_empty
    (reads_server.told hreflects.distinct.keys hread)
  exact ⟨entries, hserver, fun hreads =>
    hreads.told_at hreflects.distinct (hreflects.tables "server" (by decide)) htold⟩

theorem Reflects.client (hreflects : Reflects table document) :
    ∃ entries : ClientSection.Entries, document.client = entries.complete ∧
      ∀ {α : Type} {key : String} {field : ClientSection.Entries → α} {tells : α → Value → Prop},
        ClientSection.layout.Reads key field tells →
        Told tells (field {}) (table.at? "client" key) (field entries) := by
  obtain ⟨sections, rfl, hread⟩ := hreflects.exists_entries
  obtain ⟨entries, hclient, htold⟩ := Told.exists_entries ClientSection.complete_empty
    (reads_client.told hreflects.distinct.keys hread)
  exact ⟨entries, hclient, fun hreads =>
    hreads.told_at hreflects.distinct (hreflects.tables "client" (by decide)) htold⟩

theorem Reflects.logging (hreflects : Reflects table document) :
    ∃ entries : LoggingSection.Entries, document.logging = entries.complete ∧
      ∀ {α : Type} {key : String} {field : LoggingSection.Entries → α} {tells : α → Value → Prop},
        LoggingSection.layout.Reads key field tells →
        Told tells (field {}) (table.at? "logging" key) (field entries) := by
  obtain ⟨sections, rfl, hread⟩ := hreflects.exists_entries
  obtain ⟨entries, hlogging, htold⟩ := Told.exists_entries LoggingSection.complete_empty
    (reads_logging.told hreflects.distinct.keys hread)
  exact ⟨entries, hlogging, fun hreads =>
    hreads.told_at hreflects.distinct (hreflects.tables "logging" (by decide)) htold⟩

/-- The sections of a document, their keys and the kinds of their values. -/
def parts : List (String × Layout.Kinds) := [
  ("server", ServerSection.kinds),
  ("client", ClientSection.kinds),
  ("logging", LoggingSection.kinds)]

/-- What each section has to be. -/
def kinds : Layout.Kinds := [
  ("server", fun value => ∃ server, ServerSection.read value = .ok server),
  ("client", fun value => ∃ client, ClientSection.read value = .ok client),
  ("logging", fun value => ∃ logging, LoggingSection.read value = .ok logging)]

theorem hasKinds : layout.HasKinds kinds := by
  refine ⟨rfl, ?_⟩
  simp only [kinds, List.forall_mem_cons]
  refine ⟨?_, ?_, ?_, List.forall_mem_nil _⟩ <;> intro document value
  · exact Toml.exists_ok_iff fun _ => map_eq_ok_iff
  · exact Toml.exists_ok_iff fun _ => map_eq_ok_iff
  · exact Toml.exists_ok_iff fun _ => map_eq_ok_iff

/-- No document is read in which a known key has a value of a wrong kind, whichever section
it is in. -/
theorem kinds_of_ofTable (hread : ofTable table = .ok document) : ∀ part ∈ parts,
    ∀ kind ∈ part.2, ∀ value, table.at? part.1 kind.1 = some value → kind.2 value := by
  have hfits := hasKinds.exists_read_iff.mp (exists_map_eq_ok_iff.mp ⟨document, hread⟩)
  have hsection : ∀ kind ∈ kinds, ∀ value, table.lookup kind.1 = some value → kind.2 value :=
    fun kind hmem value hlookup =>
      hfits (kind.1, value) (Toml.mem_of_lookup_eq_some hlookup) kind hmem rfl
  simp only [kinds, List.forall_mem_cons, ServerSection.read, ClientSection.read,
    LoggingSection.read, exists_map_eq_ok_iff] at hsection
  obtain ⟨hserver, hclient, hlogging, -⟩ := hsection
  simp only [parts, List.forall_mem_cons]
  exact ⟨ServerSection.hasKinds.of_read hserver,
    ClientSection.hasKinds.of_read hclient,
    LoggingSection.hasKinds.of_read hlogging,
    List.forall_mem_nil _⟩

/-- A document whose sections are tables is read exactly if no known key has a value of a
wrong kind. -/
theorem exists_ofTable_iff (hdistinct : (Value.table table).Distinct)
    (htables : table.HasTables layout.keys) :
    (∃ document, ofTable table = .ok document) ↔ ∀ part ∈ parts,
      ∀ kind ∈ part.2, ∀ value, table.at? part.1 kind.1 = some value → kind.2 value := by
  constructor
  · rintro ⟨document, hread⟩
    exact kinds_of_ofTable hread
  · intro hall
    simp only [parts, List.forall_mem_cons] at hall
    obtain ⟨hserver, hclient, hlogging, -⟩ := hall
    refine exists_map_eq_ok_iff.mpr (hasKinds.exists_read_iff.mpr
      ((Toml.forall_fits_iff hdistinct.keys).mpr ?_))
    simp only [kinds, List.forall_mem_cons, ServerSection.read, ClientSection.read,
      LoggingSection.read, exists_map_eq_ok_iff]
    exact ⟨ServerSection.hasKinds.exists_read hdistinct (htables "server" (by decide)) hserver,
      ClientSection.hasKinds.exists_read hdistinct (htables "client" (by decide)) hclient,
      LoggingSection.hasKinds.exists_read hdistinct (htables "logging" (by decide)) hlogging,
      List.forall_mem_nil _⟩

end

end Document

end LineGreeting.Config
