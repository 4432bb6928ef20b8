import LineGreeting.Config.Basic
import LineGreeting.Console.Transcript
import LineGreeting.Log.Entry
import LineGreeting.Net.Network
import LineGreeting.Wire.Reader
import LineGreeting.Wire.Writer

/-! # The client

A client connects, says to whom, sends its message as one line and reads one line
back. Connecting and reading have timeouts of their own; that of reading starts
when the message is sent. A fault ends the exchange where it arises.
-/

namespace LineGreeting.Client

/-- What a client meets. -/
structure Encounter where
  /-- What becomes of connecting. -/
  connected : Delayed (Except Fault Net.Endpoint)
  /-- What the message is written to. -/
  writer : Wire.Writer := {}
  /-- What the server does from the time on when the message is sent. -/
  script : Wire.Script := []

/-- An exchange as the client sees it. -/
structure Exchange where
  /-- How the exchange ends: with the reply, or with a fault. -/
  outcome : Delayed (Except Fault (Option String))
  /-- What is printed. -/
  transcript : Transcript
  /-- What is written. -/
  writer : Wire.Writer
  /-- What is logged. -/
  logged : List Log.Entry

/-- The topic of what the client logs. -/
def topic : String := Log.sharedTopic "client"

/-- Where a client connects to. -/
def target (config : ClientConfig) : String :=
  config.host ++ ":" ++ toString config.port.toNat

/-- The name under which the server is shown: that of its address if the
configuration has an address, else what the configuration says. -/
def hostName (names : Net.Names) (config : ClientConfig) (remote : Net.Address) : String :=
  if (Net.Address.parse? config.host).isSome then
    (Net.PeerName.lookup names true remote).host
  else config.host

/-- The line that says to whom the client is connected. -/
def announcement (names : Net.Names) (config : ClientConfig) (remote : Net.Address) : String :=
  "Pripojuju se na : " ++ remote.text ++ " se jmenem : " ++ hostName names config remote

/-- Connects, within the time for it. -/
def connect (config : ClientConfig) (encounter : Encounter) :
    Delayed (Except Fault Net.Endpoint) :=
  encounter.connected.withTimeout (config.connectTimeout.map Duration.millis)

/-- The reader of the reply. -/
def reader (encounter : Encounter) : Wire.Reader where
  script := encounter.script

/-- Reads the reply, within the time for it. -/
def hear (config : ClientConfig) (encounter : Encounter) :
    Delayed (Except Fault (Option String)) :=
  (reader encounter).readLine.map Prod.fst
    |>.withTimeout (config.readTimeout.map Duration.millis)

/-- What is logged when the reply has been read. -/
def replyEntries (encounter : Encounter) : List Log.Entry :=
  match (reader encounter).readLine with
  | .ready _ (_, next) => (reader encounter).lineEntries next
  | .never => []

/-- Sends the message and reads the reply, when the connection is there. -/
def talk (names : Net.Names) (config : ClientConfig) (encounter : Encounter)
    (remote : Net.Endpoint) (transcript : Transcript) (logged : List Log.Entry) : Exchange :=
  let transcript := transcript.line (announcement names config remote.address)
  let logged := logged ++
    [{ level := .info, topic, text := "Connected", values := [("peer", remote.text)] }]
  match encounter.writer.writeLine config.message with
  | (.error fault, writer) => ⟨.ready 0 (.error fault), transcript, writer, logged⟩
  | (.ok (), writer) =>
    match hear config encounter with
    | .ready after (.ok reply) =>
      ⟨.ready after (.ok reply), transcript.line (Wire.received reply), writer,
        logged ++ replyEntries encounter⟩
    | outcome => ⟨outcome, transcript, writer, logged⟩

/-- One exchange with a server. -/
def exchange (names : Net.Names) (config : ClientConfig) (encounter : Encounter)
    (transcript : Transcript) : Exchange :=
  let logged : List Log.Entry :=
    [{ level := .debug, topic, text := "Connecting", values := [("target", target config)] }]
  match connect config encounter with
  | .never => ⟨.never, transcript, encounter.writer, logged⟩
  | .ready after (.error fault) =>
    ⟨.ready after (.error fault), transcript, encounter.writer, logged⟩
  | .ready after (.ok remote) =>
    let talked := talk names config encounter remote transcript logged
    { talked with outcome := talked.outcome.postpone after }

variable {names : Net.Names} {config : ClientConfig} {encounter : Encounter}

theorem exchange_of_connect_never (transcript : Transcript)
    (hconnect : connect config encounter = .never) :
    (exchange names config encounter transcript).outcome = .never ∧
      (exchange names config encounter transcript).transcript = transcript ∧
      (exchange names config encounter transcript).writer = encounter.writer := by
  simp [exchange, hconnect]

/-- Without a connection nothing is printed and nothing is written. -/
theorem exchange_of_connect_error {after : Nat} {fault : Fault} (transcript : Transcript)
    (hconnect : connect config encounter = .ready after (.error fault)) :
    (exchange names config encounter transcript).outcome = .ready after (.error fault) ∧
      (exchange names config encounter transcript).transcript = transcript ∧
      (exchange names config encounter transcript).writer = encounter.writer := by
  simp [exchange, hconnect]

section Connected

variable {connected : Nat} {remote : Net.Endpoint} {writer : Wire.Writer}
variable (hconnect : connect config encounter = .ready connected (.ok remote))

include hconnect

theorem exchange_of_unsent {fault : Fault} (transcript : Transcript)
    (hunsent : encounter.writer.writeLine config.message = (.error fault, writer)) :
    (exchange names config encounter transcript).outcome = .ready connected (.error fault) ∧
      (exchange names config encounter transcript).transcript =
        transcript.line (announcement names config remote.address) ∧
      (exchange names config encounter transcript).writer = writer := by
  simp [exchange, hconnect, talk, hunsent, Delayed.postpone]

theorem exchange_of_unheard (transcript : Transcript)
    (hsent : encounter.writer.writeLine config.message = (.ok (), writer))
    (hunheard : ∀ after reply, hear config encounter ≠ .ready after (.ok reply)) :
    (exchange names config encounter transcript).outcome =
        (hear config encounter).postpone connected ∧
      (exchange names config encounter transcript).transcript =
        transcript.line (announcement names config remote.address) ∧
      (exchange names config encounter transcript).writer = writer := by
  cases hheard : hear config encounter with
  | never => simp [exchange, hconnect, talk, hsent, hheard]
  | ready after answer =>
    cases answer with
    | error fault => simp [exchange, hconnect, talk, hsent, hheard]
    | ok reply => exact absurd hheard (hunheard after reply)

theorem exchange_of_heard {after : Nat} {reply : Option String} (transcript : Transcript)
    (hsent : encounter.writer.writeLine config.message = (.ok (), writer))
    (hheard : hear config encounter = .ready after (.ok reply)) :
    (exchange names config encounter transcript).outcome = .ready (connected + after) (.ok reply) ∧
      (exchange names config encounter transcript).transcript =
        (transcript.line (announcement names config remote.address)).line
          (Wire.received reply) ∧
      (exchange names config encounter transcript).writer = writer := by
  simp [exchange, hconnect, talk, hsent, hheard, Delayed.postpone]

end Connected

end LineGreeting.Client
