import LineGreeting.Client
import LineGreeting.Config.Merge
import LineGreeting.Proofs.Exchange.Answering
import LineGreeting.Proofs.Wire.RoundTrip
import LineGreeting.Server.Basic

/-! # A client against a server

The client writes its message before it listens, and the server listens for just
one line before it writes. So with any two valid configurations the one that
waits always waits for bytes that are on their way, and takes all of them and no
more: the dialogue comes to its end on both sides.
-/

namespace LineGreeting

open Wire (Reader Script Stream Writer)

/-- Whether a peer gives some bytes, in any pieces and with any pauses, and then the
rest of its stream. -/
def Wire.Script.Carries (script : Script) (bytes : Bytes) (rest : Stream) : Prop :=
  script.stream = bytes.map .byte ++ rest

/-- What a reader makes of a text sent as a line: the text itself if it is short and does
not end like a line. -/
structure Wire.Delivers (text heard : String) : Prop where
  read_eq : (Wire.value? (Reader.readLine { script := [.data (Wire.encodeLine text)] })).map
    Prod.fst = some (.ok (some heard))
  unchanged : (Text.utf8 text).length ≤ 65535 → text.toList.getLast? ≠ some '\r' → heard = text

namespace Wire

variable {text : String}

/-- A reader takes the whole line of a text, and what comes behind it stays. -/
theorem Script.Carries.readLine_eq {script : Script} {rest : Stream}
    (hcarries : script.Carries (encodeLine text) rest) (hnewline : '\n' ∉ text.toList) :
    ∃ after next, Reader.readLine { script } =
        .ready after (.ok (some (decodeLine (encodeLine text))), next) ∧ next.stream = rest := by
  have hopen : newline ∉ Text.utf8 text := fun hmem => hnewline (newline_mem_utf8_iff.mp hmem)
  have hnext : Stream.next? (Reader.stream { script }) =
      some (.ok (some (decodeLine (encodeLine text))), rest) := by
    rw [encodeLine, ← Stream.next?_line hopen rest, ← encodeLine, ← hcarries]
    rfl
  have hcapacity : 1 ≤ Reader.capacity { script } := by change 1 ≤ 8192; decide
  obtain ⟨after, next, hread, -, hrest⟩ := Reader.exists_readLine_eq _ hcapacity hnext
  exact ⟨after, next, hread, hrest⟩

theorem delivers_decodeLine (hnewline : '\n' ∉ text.toList) :
    Delivers text (decodeLine (encodeLine text)) where
  read_eq := by
    have hcarries : Script.Carries [.data (encodeLine text)] (encodeLine text) [] := by
      rw [Script.Carries, Script.stream_data, Stream.taken_ok (by simp [encodeLine])]
      rfl
    obtain ⟨after, next, hread, -⟩ := hcarries.readLine_eq hnewline
    rw [hread]
    rfl
  unchanged hlength hending :=
    (decodeLine_encodeLine_iff hnewline (Nat.le_succ_of_le hlength)).mpr (.inl hending)

end Wire

theorem not_mem_of_hasNewline_eq_false {text : String} (hline : hasNewline text = false) :
    '\n' ∉ text.toList := by
  simpa [hasNewline] using hline

theorem ServerConfig.newline_not_mem_reply {options : Config.ServerOptions}
    {document : Config.Document} {config : ServerConfig}
    (hmerge : ServerConfig.merge options document = .ok config) :
    '\n' ∉ config.reply.toList := by
  obtain ⟨-, hvalid⟩ := ServerConfig.merge_eq_ok_iff.mp hmerge
  apply not_mem_of_hasNewline_eq_false
  by_contra hnewline
  rw [Bool.not_eq_false] at hnewline
  rw [invalid?, hnewline] at hvalid
  split at hvalid
  · cases hvalid
  · split at hvalid <;> cases hvalid

theorem ClientConfig.newline_not_mem_message {options : Config.ClientOptions}
    {document : Config.Document} {config : ClientConfig}
    (hmerge : ClientConfig.merge options document = .ok config) :
    '\n' ∉ config.message.toList := by
  obtain ⟨-, hvalid⟩ := ClientConfig.merge_eq_ok_iff.mp hmerge
  apply not_mem_of_hasNewline_eq_false
  by_contra hnewline
  rw [Bool.not_eq_false] at hnewline
  rw [invalid?, if_pos hnewline] at hvalid
  cases hvalid

/-! ## Both sides -/

/-- A client and a server with valid configurations and a connection between them. Neither
has a timeout, and both can write. -/
structure Meeting where
  server : ServerConfig
  client : ClientConfig
  /-- The names of addresses, as the server and as the client finds them. -/
  serverNames : Net.Names
  clientNames : Net.Names
  /-- Whom the client is connected to. -/
  remote : Net.Endpoint
  /-- How long connecting took. -/
  connected : Nat
  /-- How much each call to write takes. -/
  serverGrain : Nat → Option Nat
  clientGrain : Nat → Option Nat
  server_merged : ∃ options document, ServerConfig.merge options document = .ok server
  client_merged : ∃ options document, ClientConfig.merge options document = .ok client
  server_readTimeout : server.readTimeout = none
  client_connectTimeout : client.connectTimeout = none
  client_readTimeout : client.readTimeout = none
  serverGrain_ne : ∀ call, serverGrain call ≠ some 0
  clientGrain_ne : ∀ call, clientGrain call ≠ some 0

namespace Meeting

variable {meeting : Meeting} {transcript : Transcript} {script : Script} {behind : Stream}

/-- How requests are answered. -/
def responder (meeting : Meeting) : Responder :=
  (Server.Setup.ofConfig meeting.serverNames meeting.server).responder

/-- What the client meets when some things come from the server. -/
def encounter (meeting : Meeting) (script : Script) : Client.Encounter where
  connected := .ready meeting.connected (.ok meeting.remote)
  writer := { grain := meeting.clientGrain }
  script

/-- The exchange as the client has it. -/
def ask (meeting : Meeting) (transcript : Transcript) (script : Script) : Client.Exchange :=
  Client.exchange meeting.clientNames meeting.client (meeting.encounter script) transcript

/-- The exchange as the server has it. -/
def serve (meeting : Meeting) (transcript : Transcript) (patience : Nat) (script : Script) :
    Exchange :=
  meeting.responder.respond patience script { grain := meeting.serverGrain } transcript

/-- What the client prints when it is connected. -/
def announcement (meeting : Meeting) : String :=
  Client.announcement meeting.clientNames meeting.client meeting.remote.address

/-- The server takes just one line, prints it and sends its own. -/
structure Serves (meeting : Meeting) (transcript : Transcript) (script : Script)
    (behind : Stream) (request : String) (heard patience : Nat) : Prop where
  consumed : ∃ left, Reader.readLine { script } = .ready heard (.ok (some request), left) ∧
    left.stream = behind
  outcome_eq : (meeting.serve transcript patience script).outcome =
    .ready (heard + meeting.responder.replyDelay) (.ok (some request))
  printed : (meeting.serve transcript patience script).transcript.captured =
    transcript.captured ++ (Text.utf8 ("Message Received: " ++ request) ++ [0x0A])
  taken_eq : (meeting.serve transcript patience script).writer.taken.toList =
    Wire.encodeLine meeting.server.reply
  shutdowns_eq : (meeting.serve transcript patience script).writer.shutdowns = 1

/-- The client has sent one line, takes just one line and prints it. -/
structure Hears (meeting : Meeting) (transcript : Transcript) (script : Script)
    (behind : Stream) (reply : String) : Prop where
  consumed : ∃ after left,
    Reader.readLine { script } = .ready after (.ok (some reply), left) ∧
    left.stream = behind ∧
    (meeting.ask transcript script).outcome =
      .ready (meeting.connected + after) (.ok (some reply))
  printed : (meeting.ask transcript script).transcript.captured =
    transcript.captured ++ (Text.utf8 meeting.announcement ++ [0x0A]) ++
      (Text.utf8 ("Message Received: " ++ reply) ++ [0x0A])
  taken_eq : (meeting.ask transcript script).writer.taken.toList =
    Wire.encodeLine meeting.client.message

theorem serves (meeting : Meeting) (transcript : Transcript)
    (hcarries : script.Carries (Wire.encodeLine meeting.client.message) behind) :
    ∃ heard, ∀ patience, heard + meeting.responder.replyDelay ≤ patience →
      meeting.Serves transcript script behind
        (Wire.decodeLine (Wire.encodeLine meeting.client.message)) heard patience := by
  obtain ⟨options, document, hmerged⟩ := meeting.client_merged
  obtain ⟨heard, left, hread, hleft⟩ :=
    hcarries.readLine_eq (ClientConfig.newline_not_mem_message hmerged)
  refine ⟨heard, fun patience hpatience => ?_⟩
  have hheard : meeting.responder.hear script = .ready heard (.ok (some
      (Wire.decodeLine (Wire.encodeLine meeting.client.message)))) := by
    rw [Responder.hear, hread]
    simp [responder, Server.Setup.ofConfig, meeting.server_readTimeout, Delayed.map]
  let writer : Writer := { grain := meeting.serverGrain }
  have hsteady : writer.Steady := ⟨meeting.serverGrain_ne⟩
  have hall : writer.accepts (Wire.encodeLine meeting.responder.reply) =
      Wire.encodeLine meeting.responder.reply :=
    Writer.accepts_of_barrier_eq_none rfl _
  have hgood : writer.firstFault? (Wire.encodeLine meeting.responder.reply) = none := by
    rw [Writer.firstFault?, if_pos hall]
    rfl
  obtain ⟨hprinted, -, hsent, hsucceeds, -⟩ :=
    Responder.answers_respond hsteady hheard (Nat.le_of_add_right_le hpatience) transcript
  obtain ⟨-, htaken, -, hshutdowns⟩ := hsent hpatience
  refine ⟨⟨left, hread, hleft⟩, hsucceeds hpatience hgood, hprinted, ?_, ?_⟩
  · rw [hall] at htaken
    exact htaken
  · rw [if_pos ⟨hall, rfl⟩] at hshutdowns
    exact hshutdowns

/-- The client's writer when the message is out. -/
def asked (meeting : Meeting) : Writer :=
  (Writer.writeLine { grain := meeting.clientGrain } meeting.client.message).2

theorem writeLine_asked (meeting : Meeting) :
    Writer.writeLine { grain := meeting.clientGrain } meeting.client.message =
        (.ok (), meeting.asked) ∧
      meeting.asked.taken.toList = Wire.encodeLine meeting.client.message := by
  obtain ⟨taken, calls, htaken, hline⟩ := @Writer.writeLine_eq_ok
    { grain := meeting.clientGrain } meeting.clientGrain_ne rfl rfl meeting.client.message
  rw [asked, hline]
  exact ⟨rfl, htaken⟩

theorem hear_encounter (meeting : Meeting) (script : Script) :
    Client.hear meeting.client (meeting.encounter script) =
      (Reader.readLine { script }).map Prod.fst := by
  rw [Client.hear, meeting.client_readTimeout]
  rfl

theorem connect_encounter (meeting : Meeting) (script : Script) :
    Client.connect meeting.client (meeting.encounter script) =
      .ready meeting.connected (.ok meeting.remote) := by
  rw [Client.connect, meeting.client_connectTimeout]
  rfl

/-- The message goes out before the client listens, so it does not depend on what comes. -/
theorem ask_of_read {after : Nat} {reply : Option String} {next : Reader}
    (hread : Reader.readLine { script } = .ready after (.ok reply, next)) :
    (meeting.ask transcript script).outcome = .ready (meeting.connected + after) (.ok reply) ∧
      (meeting.ask transcript script).transcript =
        (transcript.line meeting.announcement).line (Wire.received reply) ∧
      (meeting.ask transcript script).writer = meeting.asked := by
  have hhear := meeting.hear_encounter script
  rw [hread, Delayed.map] at hhear
  exact Client.exchange_of_heard (meeting.connect_encounter script) transcript
    meeting.writeLine_asked.1 hhear

theorem ask_of_never (hread : Reader.readLine { script } = .never) :
    (meeting.ask transcript script).outcome = .never ∧
      (meeting.ask transcript script).writer = meeting.asked := by
  have hhear := meeting.hear_encounter script
  rw [hread, Delayed.map] at hhear
  have hunheard (after : Nat) (reply : Option String) :
      Client.hear meeting.client (meeting.encounter script) ≠ .ready after (.ok reply) := by
    rw [hhear]
    intro hready
    cases hready
  obtain ⟨houtcome, -, hwriter⟩ := Client.exchange_of_unheard (meeting.connect_encounter script)
    transcript meeting.writeLine_asked.1 hunheard
  rw [hhear] at houtcome
  exact ⟨houtcome, hwriter⟩

theorem hears (meeting : Meeting) (transcript : Transcript)
    (hcarries : script.Carries (Wire.encodeLine meeting.server.reply) behind) :
    meeting.Hears transcript script behind
      (Wire.decodeLine (Wire.encodeLine meeting.server.reply)) := by
  obtain ⟨options, document, hmerged⟩ := meeting.server_merged
  obtain ⟨after, left, hread, hleft⟩ :=
    hcarries.readLine_eq (ServerConfig.newline_not_mem_reply hmerged)
  obtain ⟨houtcome, hprinted, hwriter⟩ := @ask_of_read meeting transcript _ _ _ _ hread
  refine ⟨⟨after, left, hread, hleft, houtcome⟩, ?_, ?_⟩
  · rw [hprinted, Transcript.captured_line, Transcript.captured_line]
    rfl
  · rw [hwriter]
    exact meeting.writeLine_asked.2

/-- While the client still hears nothing, its whole message is out. From these bytes alone,
in whatever pieces they come and whatever follows them, the server takes the message, prints
it and sends its whole reply, and from the bytes of the reply alone the client takes the
reply and prints it. Each of them leaves just what follows. -/
theorem dialogue_concludes (meeting : Meeting) (serverTranscript clientTranscript : Transcript) :
    ∃ request reply,
      Wire.Delivers meeting.client.message request ∧
      Wire.Delivers meeting.server.reply reply ∧
      (meeting.ask clientTranscript [.silence]).outcome = .never ∧
      ∀ question behind,
        question.Carries (meeting.ask clientTranscript [.silence]).writer.taken.toList behind →
        ∃ heard, ∀ patience, heard + meeting.responder.replyDelay ≤ patience →
          meeting.Serves serverTranscript question behind request heard patience ∧
          ∀ answer behind',
            answer.Carries
              (meeting.serve serverTranscript patience question).writer.taken.toList behind' →
            meeting.Hears clientTranscript answer behind' reply := by
  obtain ⟨serverOptions, serverDocument, hserver⟩ := meeting.server_merged
  obtain ⟨clientOptions, clientDocument, hclient⟩ := meeting.client_merged
  obtain ⟨hwaits, hasked⟩ :=
    @ask_of_never meeting clientTranscript _ (Reader.readLine_silence [])
  refine ⟨_, _, Wire.delivers_decodeLine (ClientConfig.newline_not_mem_message hclient),
    Wire.delivers_decodeLine (ServerConfig.newline_not_mem_reply hserver), hwaits, ?_⟩
  intro question behind hquestion
  rw [hasked, meeting.writeLine_asked.2] at hquestion
  obtain ⟨heard, hserves⟩ := meeting.serves serverTranscript hquestion
  refine ⟨heard, fun patience hpatience => ⟨hserves patience hpatience, ?_⟩⟩
  intro answer behind' hanswer
  rw [(hserves patience hpatience).taken_eq] at hanswer
  exact meeting.hears clientTranscript hanswer

/-- A client and a server as they are by default. -/
def plain : Meeting where
  server := .default
  client := .default
  serverNames _ := none
  clientNames _ := none
  remote := ⟨.v4 .loopback, 10001⟩
  connected := 1
  serverGrain _ := some 2
  clientGrain _ := none
  server_merged := ⟨{}, .default, rfl⟩
  client_merged := ⟨{}, .default, rfl⟩
  server_readTimeout := rfl
  client_connectTimeout := rfl
  client_readTimeout := rfl
  serverGrain_ne _ := nofun
  clientGrain_ne _ := nofun

/-- The message in two pieces, from a client that then waits. -/
def plainQuestion : Script :=
  [.data [0x48, 0x61, 0x6C, 0x6C], .wait 3, .data [0x6F, 0x58, 0x58, 0x58, 0x58, 0x0A], .silence]

/-- The reply in two pieces, and the end of the stream. -/
def plainAnswer : Script :=
  [.wait 4, .data [0x48], .data [0x61, 0x6C, 0x6C, 0x6F, 0x0A]]

theorem dialogue_concludes_plain : ∃ heard,
    plainQuestion.Carries (plain.ask {} [.silence]).writer.taken.toList [.silence] ∧
    plain.Serves {} plainQuestion [.silence] "HalloXXXX" heard heard ∧
    plainAnswer.Carries (plain.serve {} heard plainQuestion).writer.taken.toList [] ∧
    plain.Hears {} plainAnswer [] "Hallo" := by
  obtain ⟨request, reply, hrequest, hreply, -, hdialogue⟩ := dialogue_concludes plain {} {}
  have hquestion :
      plainQuestion.Carries (plain.ask {} [.silence]).writer.taken.toList [.silence] := by
    rw [(@ask_of_never plain {} _ (Reader.readLine_silence [])).2, plain.writeLine_asked.2]
    unfold Wire.Script.Carries
    decide +kernel
  obtain ⟨heard, hserved⟩ := hdialogue _ _ hquestion
  obtain ⟨hserves, hhears⟩ := hserved heard le_rfl
  have hanswer : plainAnswer.Carries
      (plain.serve {} heard plainQuestion).writer.taken.toList [] := by
    rw [hserves.taken_eq]
    unfold Wire.Script.Carries
    decide +kernel
  have hrequest_eq : request = "HalloXXXX" :=
    hrequest.unchanged (by decide +kernel) (by decide +kernel)
  have hreply_eq : reply = "Hallo" :=
    hreply.unchanged (by decide +kernel) (by decide +kernel)
  subst hrequest_eq hreply_eq
  exact ⟨heard, hquestion, hserves, hanswer, hhears _ _ hanswer⟩

end Meeting

end LineGreeting
