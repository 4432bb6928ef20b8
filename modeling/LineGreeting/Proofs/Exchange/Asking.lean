import LineGreeting.Client
import LineGreeting.Config.Merge
import LineGreeting.Proofs.Exchange.Deadline

/-! # The client against any server

A client prints to whom it is connected, sends its line and only then listens. Whatever the
server does, and whenever, the stage that fails first decides what has been printed and sent
by the end. As nothing is read before the whole line is out, what comes from the server has
no say in what is sent.
-/

namespace LineGreeting

/-- What becomes of an operation that may take just so long, if there is a limit. -/
inductive Delayed.Awaits {α : Type} (limit : Option Nat) (operation : Delayed (Except Fault α)) :
    Delayed (Except Fault α) → Prop
  | inTime {after : Nat} {result : Except Fault α} (hready : operation = .ready after result)
      (hkept : ∀ most, limit = some most → after ≤ most) :
      Awaits limit operation (.ready after result)
  | late {most : Nat} (hlimit : limit = some most)
      (hlate : ∀ after result, operation = .ready after result → most < after) :
      Awaits limit operation (.ready most (.error (.timedOut most)))
  | pending (hlimit : limit = none) (hnever : operation = .never) :
      Awaits limit operation .never

theorem Delayed.awaits_withTimeout {α : Type} (limit : Option Nat)
    (operation : Delayed (Except Fault α)) :
    Awaits limit operation (operation.withTimeout limit) := by
  cases limit with
  | none =>
      rw [withTimeout_none]
      cases operation with
      | ready after result => exact .inTime rfl nofun
      | never => exact .pending rfl rfl
  | some most =>
      cases operation with
      | ready after result =>
          by_cases hkept : after ≤ most
          · rw [withTimeout_of_le result hkept]
            exact .inTime rfl (by rintro _ ⟨⟩; exact hkept)
          · rw [withTimeout_of_lt result (Nat.not_le.mp hkept)]
            exact .late rfl (by rintro _ _ ⟨⟩; exact Nat.not_le.mp hkept)
      | never => exact .late rfl nofun

namespace Wire

/-- What a peer gives first, a line or the end or a fault, and when. -/
def Script.first (script : Script) : Delayed Answer :=
  match script.lineTime, script.stream.next? with
  | some after, some (answer, _) => .ready after answer
  | _, _ => .never

/-- Whether a peer ends its stream before it has given a byte. -/
def Script.endsAtOnce : Script → Bool
  | [] => true
  | .data bytes :: _ => bytes.isEmpty
  | .wait _ :: rest => endsAtOnce rest
  | .fault _ :: _ | .silence :: _ => false

variable {script : Script} {stream : Stream}

theorem Script.readLine_eq_first (script : Script) :
    (Reader.readLine { script }).map Prod.fst = script.first := by
  have htime := Reader.time?_readLine script
  have hstream := Reader.readLine_eq_next?_of_script script
  cases hread : Reader.readLine { script } with
  | ready after result =>
      rw [hread] at htime hstream
      rw [first, ← htime, ← hstream]
      rfl
  | never =>
      rw [hread] at htime
      rw [first, ← htime]
      rfl

/-- Where a byte comes first there is a line. -/
theorem Stream.next?_byte_ne {byte : UInt8} {rest : Stream} :
    next? (.byte byte :: stream) ≠ some (.ok none, rest) := by
  intro hnext
  have hline {bytes : Bytes} (hne : bytes ≠ []) : lineOf bytes ≠ none := by
    rw [lineOf, if_neg hne]
    exact Option.some_ne_none _
  by_cases hbyte : byte = newline
  · have hgoesOn : (Symbol.byte byte).goesOn = false := by simp [Symbol.goesOn, hbyte]
    have hstop := @next?_bytes_append_cons [] List.not_mem_nil _ hgoesOn stream
    rw [List.map_nil, List.nil_append, hnext, ended] at hstop
    simp only [Option.some_inj, Prod.mk.injEq, Except.ok.injEq] at hstop
    exact hline (by simp) hstop.1.symm
  · have hgoesOn : (Symbol.byte byte).goesOn = true := by simp [Symbol.goesOn, hbyte]
    rw [next?, List.takeWhile_cons_of_pos hgoesOn, List.dropWhile_cons_of_pos hgoesOn] at hnext
    split at hnext
    · simp [Symbol.byte?, hline] at hnext
    · rw [ended.eq_def] at hnext
      split at hnext <;> simp [Symbol.byte?, hline] at hnext

/-- Nothing is heard of just those peers that end their stream before any byte. -/
theorem Script.next?_eq_ok_none_iff {script : Script} :
    (∃ rest, script.stream.next? = some (.ok none, rest)) ↔ script.endsAtOnce = true := by
  induction script with
  | nil => exact ⟨fun _ => rfl, fun _ => ⟨[], rfl⟩⟩
  | cons event script ih =>
      cases event with
      | data bytes =>
          cases bytes with
          | nil => exact ⟨fun _ => rfl, fun _ => ⟨Script.stream script, rfl⟩⟩
          | cons byte more =>
              refine ⟨?_, nofun⟩
              rintro ⟨rest, hnext⟩
              exact absurd hnext Stream.next?_byte_ne
      | fault fault =>
          refine ⟨?_, nofun⟩
          rintro ⟨rest, hnext⟩
          cases hnext
      | wait pause => exact ih
      | silence =>
          refine ⟨?_, nofun⟩
          rintro ⟨rest, hnext⟩
          cases hnext

theorem Script.first_eq_ready {after : Nat} {answer : Answer}
    (hfirst : script.first = .ready after answer) :
    script.lineTime = some after ∧ ∃ rest, script.stream.next? = some (answer, rest) := by
  rw [first] at hfirst
  split at hfirst
  next htime hnext =>
    cases hfirst
    exact ⟨htime, _, hnext⟩
  next => cases hfirst

namespace Writer

/-- Whatever a writer does, it takes the bytes in their order and none of them twice, and
all of them if it says so. -/
theorem exists_taken_writeAll (writer : Writer) (bytes : Bytes) :
    ∃ front, front <+: bytes ∧
      (writer.writeAll bytes).2.taken.toList = writer.taken.toList ++ front ∧
      ((writer.writeAll bytes).1 = .ok () → front = bytes) := by
  fun_induction writeAll writer bytes with
  | case1 writer => exact ⟨[], List.prefix_rfl, by simp, fun _ => rfl⟩
  | case2 writer byte more hgrant =>
      exact ⟨byte :: more, List.prefix_rfl, toList_taken_accept _, fun _ => rfl⟩
  | case3 writer byte more hgrant =>
      exact ⟨[], List.nil_prefix, toList_taken_accept _, by simp⟩
  | case4 writer byte more count hgrant ih =>
      obtain ⟨front, hfront, htaken, hall⟩ := ih
      have hsplit : byte :: more = (byte :: more.take count) ++ more.drop count := by
        rw [List.cons_append, List.take_append_drop]
      refine ⟨(byte :: more.take count) ++ front, ?_, ?_, ?_⟩
      · rw [hsplit]
        exact (List.prefix_append_right_inj _).mpr hfront
      · rw [htaken, toList_taken_accept, List.append_assoc]
      · intro hok
        rw [hall hok, ← hsplit]
  | case5 writer byte more fault hgrant =>
      exact ⟨[], List.nil_prefix, toList_taken_accept _, by simp⟩

theorem exists_taken_writeLine (writer : Writer) (text : String) :
    ∃ front, front <+: encodeLine text ∧
      (writer.writeLine text).2.taken.toList = writer.taken.toList ++ front ∧
      ((writer.writeLine text).1 = .ok () → front = encodeLine text) := by
  obtain ⟨front, hfront, htaken, hall⟩ := writer.exists_taken_writeAll (encodeLine text)
  rw [writeLine]
  cases hwritten : writer.writeAll (encodeLine text) with
  | mk result after =>
      rw [hwritten] at htaken hall
      cases result with
      | ok => exact ⟨front, hfront, htaken, fun _ => hall rfl⟩
      | error fault => exact ⟨front, hfront, htaken, by simp⟩

/-- A writer that breaks down after some bytes from now. -/
def breaking (writer : Writer) (sent : Nat) (fault : Fault) : Writer :=
  { writer with barrier := some ⟨writer.taken.size + sent, some fault⟩ }

theorem writeLine_breaking {writer : Writer} {text : String} {sent : Nat} {fault : Fault}
    (hgrain : ∀ call, writer.grain call ≠ some 0)
    (hsent : sent < (encodeLine text).length) :
    ((writer.breaking sent fault).writeLine text).1 = .error fault ∧
      ((writer.breaking sent fault).writeLine text).2.taken.toList =
        writer.taken.toList ++ (encodeLine text).take sent := by
  have hsteady : (writer.breaking sent fault).Steady := ⟨hgrain⟩
  have haccepts : (writer.breaking sent fault).accepts (encodeLine text) =
      (encodeLine text).take sent := by
    rw [accepts, breaking]
    dsimp only
    rw [Nat.add_sub_cancel_left]
  have hpart : (encodeLine text).take sent ≠ encodeLine text := by
    intro hwhole
    have hlength := congrArg List.length hwhole
    rw [List.length_take] at hlength
    omega
  obtain ⟨taken, calls, htaken, hline⟩ := hsteady.writeLine_eq text
  rw [haccepts] at htaken hline
  rw [hline, if_neg hpart]
  exact ⟨rfl, htaken⟩

end Writer

end Wire

namespace Client

open Wire (Script Writer)

variable {names : Net.Names} {config : ClientConfig} {encounter : Encounter}
variable {transcript : Transcript} {connected : Nat} {remote : Net.Endpoint} {fault : Fault}

/-- The same client with a server that does something else once it has the message. -/
def Encounter.answering (encounter : Encounter) (script : Script) : Encounter :=
  { encounter with script }

/-- The same client with a connection that breaks down when some bytes are out. -/
def Encounter.breaking (encounter : Encounter) (sent : Nat) (fault : Fault) : Encounter :=
  { encounter with writer := encounter.writer.breaking sent fault }

/-- How an exchange has ended, which bytes have been printed and which have been sent. -/
structure Exchange.Ends (exchange : Exchange) (outcome : Delayed (Except Fault (Option String)))
    (printed sent : Bytes) : Prop where
  outcome_eq : exchange.outcome = outcome
  captured_eq : exchange.transcript.captured = printed
  taken_eq : exchange.writer.taken.toList = sent

/-- How an exchange goes on that is connected after `connected` milliseconds; `announced` is
all that has been printed when the line has been that says so. -/
structure Speaks (names : Net.Names) (config : ClientConfig) (encounter : Encounter)
    (transcript : Transcript) (connected : Nat) (announced : Bytes) : Prop where
  /-- Some beginning of the message as a line is sent, once. -/
  sent : ∃ front, front <+: Wire.encodeLine config.message ∧
    (exchange names config encounter transcript).writer.taken.toList =
      encounter.writer.taken.toList ++ front
  /-- All that is sent is sent before anything is read. -/
  deaf : ∀ script, (exchange names config (encounter.answering script) transcript).writer =
    (exchange names config encounter transcript).writer
  /-- At any byte of the message, the first one too, the one line stands there. -/
  speaking : ∀ sent fault, (∀ call, encounter.writer.grain call ≠ some 0) →
    sent < (Wire.encodeLine config.message).length →
    (exchange names config (encounter.breaking sent fault) transcript).Ends
      (.ready connected (.error fault)) announced
      (encounter.writer.taken.toList ++ (Wire.encodeLine config.message).take sent)
  unsent : ∀ fault, (encounter.writer.writeLine config.message).1 = .error fault →
    (exchange names config encounter transcript).outcome = .ready connected (.error fault) ∧
      (exchange names config encounter transcript).transcript.captured = announced
  /-- The time for the reply starts when the message is out. -/
  unheard : (encounter.writer.writeLine config.message).1 = .ok () →
    (∀ after reply, hear config encounter ≠ .ready after (.ok reply)) →
    (exchange names config encounter transcript).Ends
      ((hear config encounter).postpone connected) announced
      (encounter.writer.taken.toList ++ Wire.encodeLine config.message)
  heard : (encounter.writer.writeLine config.message).1 = .ok () →
    ∀ after reply, hear config encounter = .ready after (.ok reply) →
    (exchange names config encounter transcript).Ends
      (.ready (connected + after) (.ok reply))
      (announced ++ (Text.utf8 ("Message Received: " ++ reply.getD "") ++ [0x0A]))
      (encounter.writer.taken.toList ++ Wire.encodeLine config.message)

theorem hear_eq (config : ClientConfig) (encounter : Encounter) :
    hear config encounter =
      encounter.script.first.withTimeout (config.readTimeout.map Duration.millis) := by
  rw [hear, reader, Script.readLine_eq_first]

theorem reply_eq_none_iff {after : Nat} {reply : Option String}
    (hheard : hear config encounter = .ready after (.ok reply)) :
    reply = none ↔ encounter.script.endsAtOnce = true := by
  have hawaits := Delayed.awaits_withTimeout (config.readTimeout.map Duration.millis)
    encounter.script.first
  rw [← hear_eq, hheard] at hawaits
  cases hawaits with
  | inTime hfirst _ =>
      obtain ⟨-, rest, hnext⟩ := Script.first_eq_ready hfirst
      rw [← Script.next?_eq_ok_none_iff]
      constructor
      · rintro rfl
        exact ⟨rest, hnext⟩
      · rintro ⟨rest', hnone⟩
        cases hnext.symm.trans hnone
        rfl

section Connected

variable (hconnect : connect config encounter = .ready connected (.ok remote))

include hconnect

/-- What is sent depends on the message and on the connection alone. -/
theorem writer_exchange (names : Net.Names) (transcript : Transcript) :
    (exchange names config encounter transcript).writer =
      (encounter.writer.writeLine config.message).2 := by
  cases hwritten : encounter.writer.writeLine config.message with
  | mk result writer =>
      cases result with
      | error fault => exact (exchange_of_unsent hconnect transcript hwritten).2.2
      | ok =>
          by_cases hheard : ∃ after reply, hear config encounter = .ready after (.ok reply)
          · obtain ⟨after, reply, hheard⟩ := hheard
            exact (exchange_of_heard hconnect transcript hwritten hheard).2.2
          · push Not at hheard
            exact (exchange_of_unheard hconnect transcript hwritten hheard).2.2

theorem speaks_exchange (names : Net.Names) (transcript : Transcript) :
    Speaks names config encounter transcript connected
      (transcript.captured ++ (Text.utf8 (announcement names config remote.address) ++ [0x0A])) := by
  obtain ⟨front, hfront, htaken, hall⟩ := encounter.writer.exists_taken_writeLine config.message
  have hwriter := writer_exchange hconnect names transcript
  have hline := transcript.captured_line (announcement names config remote.address)
  rw [← hline]
  refine ⟨⟨front, hfront, ?_⟩, ?_, ?_, ?_, ?_, ?_⟩
  · rw [hwriter, htaken]
  · intro script
    have hconnect' : connect config (encounter.answering script) =
        .ready connected (.ok remote) := hconnect
    rw [writer_exchange hconnect' names transcript, hwriter]
    rfl
  · -- A connection that breaks down at some byte shows what there is when this byte is due.
    intro sent fault hgrain hless
    have hconnect' : connect config (encounter.breaking sent fault) =
        .ready connected (.ok remote) := hconnect
    obtain ⟨hfails, hpart⟩ := Writer.writeLine_breaking hgrain hless
    obtain ⟨houtcome, hprinted, hbroken⟩ :=
      exchange_of_unsent hconnect' transcript (Prod.ext hfails rfl)
    refine ⟨houtcome, congrArg Transcript.captured hprinted, ?_⟩
    rw [hbroken]
    exact hpart
  · intro fault hfails
    obtain ⟨houtcome, hprinted, -⟩ :=
      exchange_of_unsent hconnect transcript (Prod.ext hfails rfl)
    exact ⟨houtcome, congrArg Transcript.captured hprinted⟩
  · intro hok hunheard
    obtain ⟨houtcome, hprinted, -⟩ :=
      exchange_of_unheard hconnect transcript (Prod.ext hok rfl) hunheard
    refine ⟨houtcome, congrArg Transcript.captured hprinted, ?_⟩
    rw [hwriter, htaken, hall hok]
  · intro hok after reply hheard
    obtain ⟨houtcome, hprinted, -⟩ :=
      exchange_of_heard hconnect transcript (Prod.ext hok rfl) hheard
    refine ⟨houtcome, ?_, ?_⟩
    · rw [hprinted, Transcript.captured_line, Wire.received, Wire.receivedPrefix]
    · rw [hwriter, htaken, hall hok]

end Connected

theorem exists_host_announcement (names : Net.Names) (config : ClientConfig)
    (remote : Net.Address) :
    ∃ host, announcement names config remote =
        "Pripojuju se na : " ++ remote.text ++ " se jmenem : " ++ host ∧
      (Net.Address.parse? config.host = none → host = config.host) ∧
      (Net.Address.parse? config.host ≠ none → host = (names remote).getD remote.text) := by
  refine ⟨hostName names config remote, rfl, ?_, ?_⟩
  · intro hname
    rw [hostName, hname, Option.isSome_none, if_neg Bool.false_ne_true]
  · intro haddress
    rw [hostName, if_pos (Option.isSome_iff_ne_none.mpr haddress), Net.PeerName.lookup]
    cases names remote <;> rfl

/-- A server that sends its line in two pieces with a pause between them, and more behind. -/
def hesitant : Encounter where
  connected := .ready 2 (.ok ⟨.v4 .loopback, 10001⟩)
  writer := { grain := fun _ => some 2 }
  script := [.data [0x48, 0x61], .wait 4, .data [0x6C, 0x6C, 0x6F, 0x0D, 0x0A, 0x78]]

end Client

end LineGreeting
