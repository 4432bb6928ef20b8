import LineGreeting.Files
import LineGreeting.Proofs.Config.Layers

/-! # Which stage fails

A program reads its arguments, then its file, then what the file says, and looks at the merged
values last. What it comes to is the fault of the first of these stages that fails, whatever
the later ones would have made of it. Options change nothing about whether a file can be read,
and what they hide in it is not looked at.
-/

namespace LineGreeting

open Config

/-! ## Texts of files -/

theorem Text.toByteArray_eq (text : String) : text.toByteArray = ⟨(Text.utf8 text).toArray⟩ := by
  have hchars : text.toByteArray = text.toList.utf8Encode := by
    rw [← String.toByteArray_ofList, String.ofList_toList]
  rw [hchars, List.utf8Encode, Text.utf8]
  exact ByteArray.ext List.data_toByteArray

theorem Text.ofUtf8?_eq_some_iff {bytes : Bytes} {text : String} :
    Text.ofUtf8? bytes = some text ↔ bytes = Text.utf8 text := by
  unfold Text.ofUtf8? String.fromUTF8?
  constructor
  · split
    next hvalid =>
      intro hsome
      cases hsome
      simpa [String.fromUTF8] using Text.toByteArray_eq (String.fromUTF8 _ hvalid)
    next => nofun
  · rintro rfl
    rw [← Text.toByteArray_eq, dif_pos text.isValidUTF8]
    rfl

/-- A text can be read exactly if its bytes can. -/
theorem ReadBytes.text_eq_ok_iff {readBytes : ReadBytes} {path text : String} :
    readBytes.text path = .ok text ↔ readBytes path = .ok (Text.utf8 text) := by
  unfold ReadBytes.text
  cases readBytes path with
  | error cause => simp [bind, Except.bind]
  | ok bytes =>
      rw [Except.ok.injEq, ← Text.ofUtf8?_eq_some_iff]
      cases hfound : Text.ofUtf8? bytes <;> simp [bind, Except.bind, pure, Except.pure, hfound]

theorem ReadBytes.text_of_unreadable {readBytes : ReadBytes} {path : String} {cause : Fault}
    (hread : readBytes path = .error cause) : readBytes.text path = .error cause := by
  rw [ReadBytes.text, hread]
  rfl

theorem ReadBytes.text_of_notUtf8 {readBytes : ReadBytes} {path : String} {bytes : Bytes}
    (hread : readBytes path = .ok bytes) (hbytes : ∀ text, bytes ≠ Text.utf8 text) :
    readBytes.text path = .error .notUtf8 := by
  have hnone : Text.ofUtf8? bytes = none :=
    Option.eq_none_iff_forall_ne_some.mpr fun text hsome =>
      hbytes text (Text.ofUtf8?_eq_some_iff.mp hsome)
  simp [ReadBytes.text, hread, hnone, bind, Except.bind]

theorem Files.readBytes_eq_ok_iff {files : Files} {path : String} {bytes : Bytes} :
    files.readBytes path = .ok bytes ↔ files.find path = .ok (.file bytes) := by
  unfold Files.readBytes
  cases files.find path with
  | error cause => simp
  | ok place => cases place <;> simp

/-- A file can be read exactly if its path leads to a file with the bytes of a text. -/
theorem Files.readText_eq_ok_iff {files : Files} {path text : String} :
    files.readText path = .ok text ↔ files.find path = .ok (.file (Text.utf8 text)) :=
  ReadBytes.text_eq_ok_iff.trans Files.readBytes_eq_ok_iff

/-! ## The stages -/

variable {Options Settings : Type}

/-- What the file that the options name says: nothing if they name none. -/
inductive Config.Document.IsRead (readText : ReadText) : Option String → Document → Prop
  | nothing : IsRead readText none .default
  | file {path text : String} {document : Document} (hread : readText path = .ok text)
      (hparse : Document.parse text = .ok document) : IsRead readText (some path) document

/-- What loading comes to: the fault of the first stage that fails, or else the
configuration. -/
inductive Loads (parse : List String → Except CommandLine.ArgumentFault Options)
    (path? : Options → Option String)
    (Merges : Options → Document → Except InvalidValue Settings → Prop)
    (readText : ReadText) (arguments : List String) : Except LoadFault Settings → Prop
  | arguments {cause : CommandLine.ArgumentFault} (hparse : parse arguments = .error cause) :
      Loads parse path? Merges readText arguments (.error (.arguments cause))
  | unreadable {options : Options} {path : String} {cause : Fault}
      (hparse : parse arguments = .ok options) (hpath : path? options = some path)
      (hread : readText path = .error cause) :
      Loads parse path? Merges readText arguments (.error (.config (.unreadable path cause)))
  | refused {options : Options} {path text : String} {cause : DocumentFault}
      (hparse : parse arguments = .ok options) (hpath : path? options = some path)
      (hread : readText path = .ok text) (hrefused : Document.parse text = .error cause) :
      Loads parse path? Merges readText arguments (.error (.config (.refused path cause)))
  | invalid {options : Options} {document : Document} {cause : InvalidValue}
      (hparse : parse arguments = .ok options)
      (hdocument : Document.IsRead readText (path? options) document)
      (hmerge : Merges options document (.error cause)) :
      Loads parse path? Merges readText arguments (.error (.config (.invalid cause)))
  | loaded {options : Options} {document : Document} {settings : Settings}
      (hparse : parse arguments = .ok options)
      (hdocument : Document.IsRead readText (path? options) document)
      (hmerge : Merges options document (.ok settings)) :
      Loads parse path? Merges readText arguments (.ok settings)

section

variable {parse : List String → Except CommandLine.ArgumentFault Options}
variable {path? : Options → Option String}
variable {merge : Options → Document → Except InvalidValue Settings}
variable {Merges : Options → Document → Except InvalidValue Settings → Prop}
variable {readText : ReadText} {arguments : List String} {result : Except LoadFault Settings}

/-- Loading in three steps, by what reads the arguments and what merges. -/
def loadWith (parse : List String → Except CommandLine.ArgumentFault Options)
    (path? : Options → Option String)
    (merge : Options → Document → Except InvalidValue Settings) (readText : ReadText)
    (arguments : List String) : Except LoadFault Settings := do
  let options ← (parse arguments).mapError .arguments
  let document ← (Document.load readText (path? options)).mapError .config
  (merge options document).mapError fun cause => .config (.invalid cause)

theorem ServerConfig.load_eq_loadWith :
    ServerConfig.load = loadWith ServerOptions.parse ServerOptions.config ServerConfig.merge :=
  rfl

theorem ClientConfig.load_eq_loadWith :
    ClientConfig.load = loadWith ClientOptions.parse ClientOptions.config ClientConfig.merge :=
  rfl

theorem exists_isRead (path? : Option String) :
    (∃ document, Document.IsRead readText path? document) ∨ ∃ path, path? = some path ∧
      ((∃ cause, readText path = .error cause) ∨
        ∃ text cause, readText path = .ok text ∧ Document.parse text = .error cause) := by
  cases path? with
  | none => exact .inl ⟨.default, .nothing⟩
  | some path =>
      cases hread : readText path with
      | error cause => exact .inr ⟨path, rfl, .inl ⟨cause, hread⟩⟩
      | ok text =>
          cases hparse : Document.parse text with
          | error cause => exact .inr ⟨path, rfl, .inr ⟨text, cause, hread, hparse⟩⟩
          | ok document => exact .inl ⟨document, .file hread hparse⟩

theorem load_of_isRead {path? : Option String} {document : Document}
    (hdocument : Document.IsRead readText path? document) :
    Document.load readText path? = .ok document := by
  cases hdocument with
  | nothing => rfl
  | file hread hparse => exact Document.load_some_eq_ok_iff.mpr ⟨_, hread, hparse⟩

theorem exists_loads (hmerge : ∀ options document result,
      merge options document = result ↔ Merges options document result) :
    ∃ result, Loads parse path? Merges readText arguments result := by
  cases hparse : parse arguments with
  | error cause => exact ⟨_, .arguments hparse⟩
  | ok options =>
      rcases exists_isRead (path? options) with
        ⟨document, hdocument⟩ | ⟨path, hpath, ⟨cause, hread⟩ | ⟨text, cause, hread, hrefused⟩⟩
      · have hmerged := (hmerge options document _).mp rfl
        cases hresult : merge options document with
        | error cause => exact ⟨_, .invalid hparse hdocument (hresult ▸ hmerged)⟩
        | ok settings => exact ⟨_, .loaded hparse hdocument (hresult ▸ hmerged)⟩
      · exact ⟨_, .unreadable hparse hpath hread⟩
      · exact ⟨_, .refused hparse hpath hread hrefused⟩

theorem Loads.eq (hmerge : ∀ options document result,
      merge options document = result ↔ Merges options document result)
    (hloads : Loads parse path? Merges readText arguments result) :
    loadWith parse path? merge readText arguments = result := by
  unfold loadWith
  cases hloads with
  | arguments hparse => simp [hparse, Except.mapError, bind, Except.bind]
  | unreadable hparse hpath hread =>
      simp [hparse, hpath, hread, Document.load, Except.mapError, bind, Except.bind]
  | refused hparse hpath hread hrefused =>
      simp [hparse, hpath, hread, hrefused, Document.load, Except.mapError, bind, Except.bind]
  | invalid hparse hdocument hmerged | loaded hparse hdocument hmerged =>
      simp [hparse, load_of_isRead hdocument, (hmerge _ _ _).mpr hmerged, Except.mapError, bind,
        Except.bind]

/-- Loading comes to one result, and the stages say which. -/
theorem loadWith_eq_iff
    (hmerge : ∀ options document result,
      merge options document = result ↔ Merges options document result) :
    loadWith parse path? merge readText arguments = result ↔
      Loads parse path? Merges readText arguments result := by
  constructor
  · rintro rfl
    obtain ⟨found, hfound⟩ : ∃ found, Loads parse path? Merges readText arguments found :=
      exists_loads hmerge
    rwa [hfound.eq hmerge]
  · exact fun hloads => hloads.eq hmerge

end

/-! ## The merged values -/

namespace ServerConfig

/-- What merging comes to: the fault of the first merged value that cannot be used, or else the
configuration. -/
inductive Merges (options : ServerOptions) (document : Document) :
    Except InvalidValue ServerConfig → Prop
  | backlog (hbacklog : options.backlog.getD document.server.backlog = 0) :
      Merges options document (.error ⟨"backlog", "must be at least 1"⟩)
  | maxConnections (hbacklog : options.backlog.getD document.server.backlog ≠ 0)
      (hmax : options.maxConnections.getD document.server.maxConnections = 0) :
      Merges options document (.error ⟨"max_connections", "must be at least 1"⟩)
  | reply (hbacklog : options.backlog.getD document.server.backlog ≠ 0)
      (hmax : options.maxConnections.getD document.server.maxConnections ≠ 0)
      (hreply : '\n' ∈ (options.reply.getD document.server.reply).toList) :
      Merges options document (.error ⟨"reply", "must be a single line"⟩)
  | valid (hbacklog : options.backlog.getD document.server.backlog ≠ 0)
      (hmax : options.maxConnections.getD document.server.maxConnections ≠ 0)
      (hreply : '\n' ∉ (options.reply.getD document.server.reply).toList) :
      Merges options document (.ok (build options document))

theorem merge_eq_iff (options : ServerOptions) (document : Document)
    (result : Except InvalidValue ServerConfig) :
    merge options document = result ↔ Merges options document result := by
  constructor
  · rintro rfl
    by_cases hbacklog : options.backlog.getD document.server.backlog = 0
    · simpa [merge, invalid?, build, hbacklog] using Merges.backlog hbacklog
    · by_cases hmax : options.maxConnections.getD document.server.maxConnections = 0
      · simpa [merge, invalid?, build, hbacklog, hmax] using Merges.maxConnections hbacklog hmax
      · by_cases hreply : '\n' ∈ (options.reply.getD document.server.reply).toList
        · simpa [merge, invalid?, build, hbacklog, hmax, hasNewline, hreply] using
            Merges.reply hbacklog hmax hreply
        · simpa [merge, invalid?, build, hbacklog, hmax, hasNewline, hreply] using
            Merges.valid hbacklog hmax hreply
  · intro hmerges
    cases hmerges with
    | backlog hbacklog => simp [merge, invalid?, build, hbacklog]
    | maxConnections hbacklog hmax => simp [merge, invalid?, build, hbacklog, hmax]
    | reply hbacklog hmax hreply | valid hbacklog hmax hreply =>
        simp [merge, invalid?, build, hbacklog, hmax, hasNewline, hreply]

/-- Whether options and documents come to the same in all that is checked. -/
structure SameChecked (options : ServerOptions) (document : Document)
    (otherOptions : ServerOptions) (other : Document) : Prop where
  backlog : options.backlog.getD document.server.backlog =
    otherOptions.backlog.getD other.server.backlog
  maxConnections : options.maxConnections.getD document.server.maxConnections =
    otherOptions.maxConnections.getD other.server.maxConnections
  reply : options.reply.getD document.server.reply = otherOptions.reply.getD other.server.reply

variable {options otherOptions : ServerOptions} {document other : Document}

theorem SameChecked.merges (hsame : SameChecked options document otherOptions other)
    {cause : InvalidValue} (hmerges : Merges options document (.error cause)) :
    Merges otherOptions other (.error cause) := by
  cases hmerges with
  | backlog hbacklog => exact .backlog (hsame.backlog ▸ hbacklog)
  | maxConnections hbacklog hmax =>
      exact .maxConnections (hsame.backlog ▸ hbacklog) (hsame.maxConnections ▸ hmax)
  | reply hbacklog hmax hreply =>
      exact .reply (hsame.backlog ▸ hbacklog) (hsame.maxConnections ▸ hmax)
        (hsame.reply ▸ hreply)

theorem SameChecked.symm (hsame : SameChecked options document otherOptions other) :
    SameChecked otherOptions other options document :=
  ⟨hsame.backlog.symm, hsame.maxConnections.symm, hsame.reply.symm⟩

theorem SameChecked.merge_iff (hsame : SameChecked options document otherOptions other)
    (cause : InvalidValue) : merge options document = .error cause ↔
      merge otherOptions other = .error cause := by
  rw [merge_eq_iff, merge_eq_iff]
  exact ⟨hsame.merges, hsame.symm.merges⟩

end ServerConfig

namespace ClientConfig

/-- What merging comes to: a fault if the merged message takes more than one line, or else the
configuration. -/
inductive Merges (options : ClientOptions) (document : Document) :
    Except InvalidValue ClientConfig → Prop
  | message (hmessage : '\n' ∈ (options.message.getD document.client.message).toList) :
      Merges options document (.error ⟨"message", "must be a single line"⟩)
  | valid (hmessage : '\n' ∉ (options.message.getD document.client.message).toList) :
      Merges options document (.ok (build options document))

theorem merge_eq_iff (options : ClientOptions) (document : Document)
    (result : Except InvalidValue ClientConfig) :
    merge options document = result ↔ Merges options document result := by
  constructor
  · rintro rfl
    by_cases hmessage : '\n' ∈ (options.message.getD document.client.message).toList
    · simpa [merge, invalid?, build, hasNewline, hmessage] using Merges.message hmessage
    · simpa [merge, invalid?, build, hasNewline, hmessage] using Merges.valid hmessage
  · intro hmerges
    cases hmerges with
    | message hmessage | valid hmessage => simp [merge, invalid?, build, hasNewline, hmessage]

theorem merge_iff_of_message {options otherOptions : ClientOptions} {document other : Document}
    (hmessage : options.message.getD document.client.message =
      otherOptions.message.getD other.client.message) (cause : InvalidValue) :
    merge options document = .error cause ↔ merge otherOptions other = .error cause := by
  by_cases hline : hasNewline (otherOptions.message.getD other.client.message)
  · simp [merge, invalid?, build, hmessage, hline]
  · simp [merge, invalid?, build, hmessage, hline]

end ClientConfig

/-! ## Loading -/

/-- Whether a text cannot be read as a document: it breaks the rules of the format, or it has a
value of a wrong kind under a known key of some section. -/
inductive Config.Document.IsWrong (text : String) : Prop
  | malformed (hparse : Toml.parse? text = none)
  | kind {table : Toml.Table} {part : String × Toml.Layout.Kinds}
      {kind : String × (Toml.Value → Prop)} {value : Toml.Value}
      (hparse : Toml.parse? text = some table) (hpart : part ∈ Document.parts)
      (hkind : kind ∈ part.2) (hat : table.at? part.1 kind.1 = some value)
      (hwrong : ¬ kind.2 value)

theorem Config.Document.IsWrong.exists_parse {text : String} (hwrong : Document.IsWrong text) :
    ∃ cause, Document.parse text = .error cause := by
  cases hresult : Document.parse text with
  | error cause => exact ⟨cause, rfl⟩
  | ok document =>
      obtain ⟨table, hparse, hread⟩ := Document.parse_eq_ok_iff.mp hresult
      cases hwrong with
      | malformed hnone => simp [hparse] at hnone
      | kind hsame hpart hkind hat hwrong =>
          cases hparse.symm.trans hsame
          exact absurd (Document.kinds_of_ofTable hread _ hpart _ hkind _ hat) hwrong

theorem Config.Document.exists_parse_iff {text : String}
    (htables : ∀ table, Toml.parse? text = some table →
      table.HasTables Document.layout.keys) :
    (∃ document, Document.parse text = .ok document) ↔ ¬ Document.IsWrong text := by
  constructor
  · rintro ⟨document, hdocument⟩ hwrong
    obtain ⟨cause, hcause⟩ := hwrong.exists_parse
    simp [hdocument] at hcause
  · intro hwrong
    cases hparse : Toml.parse? text with
    | none => exact absurd (.malformed hparse) hwrong
    | some table =>
        obtain ⟨document, hread⟩ := (Document.exists_ofTable_iff
          (Toml.distinct_of_parse? hparse) (htables table hparse)).mpr
          fun part hpart kind hkind value hat => by
            by_contra hkindWrong
            exact hwrong (.kind hparse hpart hkind hat hkindWrong)
        exact ⟨document, Document.parse_eq_ok_iff.mpr ⟨table, hparse, hread⟩⟩

/-- Whether both programs end with the same fault if their options name a file, whatever else
the options say. -/
structure BothFail (readText : ReadText) (arguments : List String) (path : String)
    (cause : ConfigFault) : Prop where
  server {options : ServerOptions} (hparse : ServerOptions.parse arguments = .ok options)
    (hpath : options.config = some path) :
    ServerConfig.load readText arguments = .error (.config cause)
  client {options : ClientOptions} (hparse : ClientOptions.parse arguments = .ok options)
    (hpath : options.config = some path) :
    ClientConfig.load readText arguments = .error (.config cause)

theorem bothFail_of_unreadable {readText : ReadText} {path : String} {cause : Fault}
    (hread : readText path = .error cause) (arguments : List String) :
    BothFail readText arguments path (.unreadable path cause) where
  server hparse hpath := by
    rw [ServerConfig.load_eq_loadWith, loadWith_eq_iff ServerConfig.merge_eq_iff]
    exact .unreadable hparse hpath hread
  client hparse hpath := by
    rw [ClientConfig.load_eq_loadWith, loadWith_eq_iff ClientConfig.merge_eq_iff]
    exact .unreadable hparse hpath hread

theorem bothFail_of_refused {readText : ReadText} {path text : String} {cause : DocumentFault}
    (hread : readText path = .ok text) (hrefused : Document.parse text = .error cause)
    (arguments : List String) : BothFail readText arguments path (.refused path cause) where
  server hparse hpath := by
    rw [ServerConfig.load_eq_loadWith, loadWith_eq_iff ServerConfig.merge_eq_iff]
    exact .refused hparse hpath hread hrefused
  client hparse hpath := by
    rw [ClientConfig.load_eq_loadWith, loadWith_eq_iff ClientConfig.merge_eq_iff]
    exact .refused hparse hpath hread hrefused

/-- Loading comes to the fault of the first stage that fails, or else to the configuration,
however files are read. A file that cannot be read is never passed over, whatever stands in the
way and be it only that its bytes are those of no text, nor is one with a value of a wrong kind
under a known key, whatever the options say of that key and whichever program it is for. The
merged values alone decide whether they can be used. -/
theorem load_by_stages (readText : ReadText) (arguments : List String) :
    (∀ result, ServerConfig.load readText arguments = result ↔
      Loads ServerOptions.parse ServerOptions.config ServerConfig.Merges readText arguments
        result) ∧
    (∀ result, ClientConfig.load readText arguments = result ↔
      Loads ClientOptions.parse ClientOptions.config ClientConfig.Merges readText arguments
        result) ∧
    (∀ path cause, readText path = .error cause →
      BothFail readText arguments path (.unreadable path cause)) ∧
    (∀ path text, readText path = .ok text → Document.IsWrong text →
      ∃ cause, BothFail readText arguments path (.refused path cause)) ∧
    (∀ (readBytes : ReadBytes) path,
      (∀ cause, readBytes path = .error cause →
        BothFail readBytes.text arguments path (.unreadable path cause)) ∧
      ∀ bytes, readBytes path = .ok bytes → (∀ text, bytes ≠ Text.utf8 text) →
        BothFail readBytes.text arguments path (.unreadable path .notUtf8)) ∧
    (∀ text, (∀ table, Toml.parse? text = some table →
      table.HasTables Document.layout.keys) →
      ((∃ document, Document.parse text = .ok document) ↔ ¬ Document.IsWrong text)) ∧
    (∀ options document otherOptions other,
      ServerConfig.SameChecked options document otherOptions other →
      ∀ cause, ServerConfig.merge options document = .error cause ↔
        ServerConfig.merge otherOptions other = .error cause) ∧
    (∀ (options : ClientOptions) (document : Document) (otherOptions : ClientOptions)
      (other : Document), options.message.getD document.client.message =
        otherOptions.message.getD other.client.message →
      ∀ cause, ClientConfig.merge options document = .error cause ↔
        ClientConfig.merge otherOptions other = .error cause) := by
  refine ⟨?_, ?_, fun path cause hread => bothFail_of_unreadable hread arguments, ?_, ?_,
    fun text htables => Document.exists_parse_iff htables,
    fun _ _ _ _ hsame => hsame.merge_iff,
    fun _ _ _ _ hmessage => ClientConfig.merge_iff_of_message hmessage⟩
  · intro result
    rw [ServerConfig.load_eq_loadWith]
    exact loadWith_eq_iff ServerConfig.merge_eq_iff
  · intro result
    rw [ClientConfig.load_eq_loadWith]
    exact loadWith_eq_iff ClientConfig.merge_eq_iff
  · intro path text hread hwrong
    obtain ⟨cause, hrefused⟩ := hwrong.exists_parse
    exact ⟨cause, bothFail_of_refused hread hrefused arguments⟩
  · intro readBytes path
    constructor
    · intro cause hread
      exact bothFail_of_unreadable (ReadBytes.text_of_unreadable hread) arguments
    · intro bytes hread hbytes
      exact bothFail_of_unreadable (ReadBytes.text_of_notUtf8 hread hbytes) arguments

/-- A document with a backlog that cannot be used, one with a wrong port for the client, one
that is no text and one that is out of reach. -/
def faultyFiles : Files where
  files := [(["b"], Text.utf8 "[server]\nbacklog = 0\n"),
    (["p"], Text.utf8 "[client]\nport = \"x\"\n"), (["t"], [255]), (["k"], [])]
  barred := [(["k"], .notPermitted)]

theorem readText_port : faultyFiles.readText "p" = .ok "[client]\nport = \"x\"\n" :=
  Files.readText_eq_ok_iff.mpr (by cbv)

theorem readText_backlog : faultyFiles.readText "b" = .ok "[server]\nbacklog = 0\n" :=
  Files.readText_eq_ok_iff.mpr (by cbv)

theorem isWrong_port : Document.IsWrong "[client]\nport = \"x\"\n" := by
  have hparse : Toml.parse? "[client]\nport = \"x\"\n" =
      some [("client", .table [("port", .string "x")])] := by
    cbv
  have hpart : ("client", ClientSection.kinds) ∈ Document.parts := by simp [Document.parts]
  refine .kind hparse hpart (List.mem_cons_of_mem _ List.mem_cons_self) rfl ?_
  rintro ⟨number, hnumber⟩
  cases hnumber

theorem load_by_stages_faultyFiles :
    (∃ cause, ServerConfig.load faultyFiles.readText ["-c", "p", "-b", "0"] =
      .error (.config (.refused "p" cause))) ∧
    (∃ config, ServerConfig.load faultyFiles.readText ["-c", "b", "-b", "5"] = .ok config) ∧
    ServerConfig.load faultyFiles.readText ["-c", "b"] =
      .error (.config (.invalid ⟨"backlog", "must be at least 1"⟩)) ∧
    ServerConfig.load faultyFiles.readText ["-c", "t"] =
      .error (.config (.unreadable "t" .notUtf8)) ∧
    ClientConfig.load faultyFiles.readText ["-c", "k"] =
      .error (.config (.unreadable "k" (.system .notPermitted))) := by
  have hparse : Document.parse "[server]\nbacklog = 0\n" =
      .ok { Document.default with server := { ServerSection.default with backlog := 0 } } := by
    cbv
  refine ⟨?_, ?_, ?_, ?_, ?_⟩
  · obtain ⟨-, -, -, hrefused, -⟩ := load_by_stages faultyFiles.readText ["-c", "p", "-b", "0"]
    obtain ⟨cause, hfail⟩ := hrefused "p" _ readText_port isWrong_port
    have hoptions : ServerOptions.parse ["-c", "p", "-b", "0"] =
        .ok { config := some "p", backlog := some 0 } := by cbv
    exact ⟨cause, hfail.server hoptions rfl⟩
  · obtain ⟨hserver, -⟩ := load_by_stages faultyFiles.readText ["-c", "b", "-b", "5"]
    have hoptions : ServerOptions.parse ["-c", "b", "-b", "5"] =
        .ok { config := some "b", backlog := some 5 } := by cbv
    exact ⟨_, (hserver _).mpr (.loaded hoptions (.file readText_backlog hparse)
      (.valid (by decide) (by decide) (by decide)))⟩
  · obtain ⟨hserver, -⟩ := load_by_stages faultyFiles.readText ["-c", "b"]
    have hoptions : ServerOptions.parse ["-c", "b"] = .ok { config := some "b" } := by cbv
    exact (hserver _).mpr (.invalid hoptions (.file readText_backlog hparse) (.backlog rfl))
  · obtain ⟨-, -, hunreadable, -⟩ := load_by_stages faultyFiles.readText ["-c", "t"]
    have hoptions : ServerOptions.parse ["-c", "t"] = .ok { config := some "t" } := by cbv
    exact (hunreadable "t" _ (by cbv)).server hoptions rfl
  · obtain ⟨-, -, hunreadable, -⟩ := load_by_stages faultyFiles.readText ["-c", "k"]
    have hoptions : ClientOptions.parse ["-c", "k"] = .ok { config := some "k" } := by cbv
    exact (hunreadable "k" _ (by cbv)).client hoptions rfl

end LineGreeting
