import LineGreeting.Proofs.Text.Decoding
import LineGreeting.Wire.Reader
import Mathlib.Data.List.TakeWhile

/-! # Lines of a stream

A stream is what a peer gives, byte by byte, whatever the pieces in which it is
fetched. A line takes what comes up to its end and no more. A buffered reader
answers as if there were no pieces and no buffer: its lines are those of the
stream, call after call, also around ends of the stream and faults.
-/

namespace LineGreeting.Wire

/-- What one read of a line comes to. -/
abbrev Answer := Except Fault (Option String)

/-- What a peer gives at a time. -/
inductive Symbol where
  /-- One byte. -/
  | byte (byte : UInt8)
  /-- The end of the stream, for one read. -/
  | close
  /-- A read that fails. -/
  | fault (fault : Fault)
  /-- Nothing comes any more. -/
  | silence
deriving DecidableEq, Repr

/-- What a peer gives, one after the other. After the last symbol the stream is at
its end. -/
abbrev Stream := List Symbol

/-- Whether a line goes on after a symbol. -/
def Symbol.goesOn : Symbol → Bool
  | .byte given => given ≠ newline
  | _ => false

/-- The byte that a symbol is. -/
def Symbol.byte? : Symbol → Option UInt8
  | .byte given => some given
  | _ => none

/-- What the bytes of a line say: nothing if there are none, else its text. -/
def lineOf (bytes : Bytes) : Option String :=
  if bytes = [] then none else some (decodeLine bytes)

namespace Stream

/-- What a line of some bytes comes to at the symbol after which it does not go on:
a fault loses the bytes, and a newline is one of them. -/
def ended (bytes : Bytes) (rest : Stream) : Symbol → Option (Answer × Stream)
  | .byte stop => some (.ok (lineOf (bytes ++ [stop])), rest)
  | .close => some (.ok (lineOf bytes), rest)
  | .fault fault => some (.error fault, rest)
  | .silence => none

/-- What one call answers, and where the next one starts: a line takes all up to the
first newline, end or fault. No call answers where nothing comes. -/
def next? (stream : Stream) : Option (Answer × Stream) :=
  let bytes := (stream.takeWhile Symbol.goesOn).filterMap Symbol.byte?
  match stream.dropWhile Symbol.goesOn with
  | [] => some (.ok (lineOf bytes), [])
  | symbol :: rest => ended bytes rest symbol

/-- What some calls answer, one after the other. -/
def answers : Nat → Stream → List Answer
  | 0, _ => []
  | calls + 1, stream =>
    match stream.next? with
    | some (answer, rest) => answer :: answers calls rest
    | none => []

end Stream

/-- What a script gives, whatever its pieces and its pauses. -/
def Script.stream : Script → Stream
  | [] => []
  | .data [] :: rest => .close :: stream rest
  | .data (byte :: more) :: rest => (byte :: more).map .byte ++ stream rest
  | .fault fault :: rest => .fault fault :: stream rest
  | .wait _ :: rest => stream rest
  | .silence :: _ => [.silence]

namespace Reader

/-- What a reader has yet to give: what it holds, and then what the peer does. -/
def stream (reader : Reader) : Stream :=
  reader.buffer.map .byte ++ reader.script.stream

/-- What some calls answer, one after the other. -/
def readLines : Nat → Reader → List Answer
  | 0, _ => []
  | calls + 1, reader =>
    match reader.readLine with
    | .ready _ (answer, next) => answer :: readLines calls next
    | .never => []

end Reader

/-! ## Lines of a stream -/

namespace Stream

variable {bytes : Bytes}

theorem takeWhile_bytes_append (hopen : newline ∉ bytes) (stream : Stream) :
    (bytes.map Symbol.byte ++ stream).takeWhile Symbol.goesOn =
      bytes.map .byte ++ stream.takeWhile Symbol.goesOn := by
  apply List.takeWhile_append_of_pos
  intro symbol hmem
  obtain ⟨byte, hbyte, rfl⟩ := List.mem_map.mp hmem
  simpa [Symbol.goesOn] using ne_of_mem_of_not_mem hbyte hopen

theorem dropWhile_bytes_append (hopen : newline ∉ bytes) (stream : Stream) :
    (bytes.map Symbol.byte ++ stream).dropWhile Symbol.goesOn =
      stream.dropWhile Symbol.goesOn := by
  apply List.dropWhile_append_of_pos
  intro symbol hmem
  obtain ⟨byte, hbyte, rfl⟩ := List.mem_map.mp hmem
  simpa [Symbol.goesOn] using ne_of_mem_of_not_mem hbyte hopen

theorem filterMap_byte?_map (bytes : Bytes) :
    (bytes.map Symbol.byte).filterMap Symbol.byte? = bytes := by
  induction bytes with
  | nil => rfl
  | cons byte rest ih => rw [List.map_cons, List.filterMap_cons, Symbol.byte?, ih]

theorem next?_bytes (hopen : newline ∉ bytes) :
    Stream.next? (bytes.map .byte) = some (.ok (lineOf bytes), []) := by
  have htake := takeWhile_bytes_append hopen []
  have hdrop := dropWhile_bytes_append hopen []
  simp only [List.append_nil, List.takeWhile_nil, List.dropWhile_nil] at htake hdrop
  rw [next?, htake, hdrop, filterMap_byte?_map]

/-- A line ends with the first symbol after which it does not go on. -/
theorem next?_bytes_append_cons (hopen : newline ∉ bytes) {symbol : Symbol}
    (hstop : symbol.goesOn = false) (rest : Stream) :
    Stream.next? (bytes.map .byte ++ symbol :: rest) = ended bytes rest symbol := by
  rw [next?, takeWhile_bytes_append hopen, dropWhile_bytes_append hopen,
    List.takeWhile_cons_of_neg (by simp [hstop]), List.dropWhile_cons_of_neg (by simp [hstop]),
    List.append_nil, filterMap_byte?_map]

theorem next?_returned (hopen : newline ∉ bytes) (rest : Stream) :
    Stream.next? (bytes.map .byte ++ .byte carriageReturn :: .byte newline :: rest) =
      some (.ok (lineOf (bytes ++ [carriageReturn, newline])), rest) := by
  have hreturned : newline ∉ bytes ++ [carriageReturn] := by simp [hopen]; decide
  have hgoesOn : (Symbol.byte newline).goesOn = false := rfl
  have hstop := next?_bytes_append_cons hreturned hgoesOn rest
  rw [List.map_append, List.append_assoc] at hstop
  rw [ended, List.append_assoc] at hstop
  exact hstop

end Stream

/-! ## Reading on -/

/-- A line in the making holds some bytes: as many as it may keep, and the number of
the others. -/
structure Partial.Holds (line : Partial) (bytes : Bytes) : Prop where
  kept : line.kept.toList = bytes.take maxLineLength
  length : line.length = bytes.length

namespace Partial.Holds

theorem nil : Partial.Holds {} [] := ⟨rfl, rfl⟩

theorem absorb {line : Partial} {bytes : Bytes} (hline : line.Holds bytes) (more : Bytes) :
    (line.absorb more).Holds (bytes ++ more) where
  kept := by
    have hsize : line.kept.size = (bytes.take maxLineLength).length := by
      rw [← Array.length_toList, hline.kept]
    rw [kept_absorb, hline.kept, hsize, List.take_append, List.length_take]
    congr 2
    omega
  length := by rw [length_absorb, hline.length, List.length_append]

theorem close {line : Partial} {bytes : Bytes} (hline : line.Holds bytes) :
    line.close = lineOf bytes := by
  rw [Partial.close, lineOf, hline.length, Partial.text, hline.kept, decodeLine]
  simp only [List.length_eq_zero_iff]

end Partial.Holds

/-- What a read takes from the stream. -/
def Stream.taken : Except Fault Bytes → Stream
  | .ok [] => [.close]
  | .ok bytes => bytes.map .byte
  | .error fault => [.fault fault]

theorem Stream.taken_ok {bytes : Bytes} (hne : bytes ≠ []) :
    Stream.taken (.ok bytes) = bytes.map .byte := by
  cases bytes with
  | nil => exact absurd rfl hne
  | cons byte rest => rfl

theorem Script.stream_data (given : Bytes) (rest : Script) :
    Script.stream (.data given :: rest) = Stream.taken (.ok given) ++ rest.stream := by
  cases given <;> rfl

theorem taken_drop_append {bytes : Bytes} {room : Nat} (hroom : 1 ≤ room)
    (hmore : room < bytes.length) :
    Stream.taken (.ok (bytes.take room)) ++ Stream.taken (.ok (bytes.drop room)) =
      Stream.taken (.ok bytes) := by
  have hfirst : bytes.take room ≠ [] := by
    rw [Ne, List.take_eq_nil_iff, not_or]
    exact ⟨by omega, List.ne_nil_of_length_pos (Nat.zero_lt_of_lt hmore)⟩
  have hrest : bytes.drop room ≠ [] := List.drop_eq_nil_iff.not.mpr (Nat.not_le.mpr hmore)
  have hall := List.ne_nil_of_length_pos (Nat.zero_lt_of_lt hmore)
  rw [Stream.taken_ok hfirst, Stream.taken_ok hrest, Stream.taken_ok hall, ← List.map_append,
    List.take_append_drop]

/-- A read gives what comes first in the stream, and the end where nothing is left. -/
theorem Script.stream_of_read {room after : Nat} (hroom : 1 ≤ room) {script rest : Script}
    {result : Except Fault Bytes} (hread : script.read room = .ready after (result, rest)) :
    script.stream = Stream.taken result ++ rest.stream ∨
      result = .ok [] ∧ script.stream = [] ∧ rest.stream = [] := by
  have hgives := gives_of_read hread
  clear hread
  induction hgives with
  | atEnd => exact .inr ⟨rfl, rfl, rfl⟩
  | whole => exact .inl (Script.stream_data _ _)
  | part hmore =>
      left
      rw [Script.stream_data, Script.stream_data, ← List.append_assoc,
        taken_drop_append hroom hmore]
  | fault => exact .inl rfl
  | wait _ ih => exact ih

theorem Script.stream_of_read_never {room : Nat} {script : Script}
    (hread : script.read room = .never) : script.stream = [.silence] := by
  have hpends := pends_of_read hread
  clear hread
  induction hpends with
  | silence => rfl
  | wait _ ih => exact ih

/-- The first newline of a piece, and what stands before it. -/
theorem piece_split {piece rest : Bytes} {stop : UInt8}
    (hstop : piece.dropWhile (· ≠ newline) = stop :: rest) :
    stop = newline ∧ newline ∉ piece.takeWhile (· ≠ newline) ∧
      piece = piece.takeWhile (· ≠ newline) ++ stop :: rest := by
  have hhead := List.head?_dropWhile_not (· ≠ newline) piece
  rw [hstop] at hhead
  refine ⟨by simpa using hhead, ?_, ?_⟩
  · intro hmem
    simpa using List.mem_takeWhile_imp hmem
  · rw [← hstop, List.takeWhile_append_dropWhile]

theorem newline_not_mem_of_dropWhile {piece : Bytes}
    (hnone : piece.dropWhile (· ≠ newline) = []) : newline ∉ piece := by
  intro hmem
  simpa using List.dropWhile_eq_nil_iff.mp hnone newline hmem

/-- The value of an operation that comes to its end. -/
def value? {α : Type} : Delayed α → Option α
  | .ready _ value => some value
  | .never => none

namespace Reader

/-- A line that is read on answers as the stream does from its first byte on, and
leaves of the stream what comes behind it. -/
theorem finishLine_eq_next? (elapsed : Nat) (reader : Reader) (line : Partial) (bytes : Bytes)
    (hcapacity : 1 ≤ reader.capacity) (hline : line.Holds bytes) (hopen : newline ∉ bytes) :
    (value? (finishLine elapsed reader line)).map (fun (answer, next) => (answer, next.stream)) =
      Stream.next? (bytes.map .byte ++ reader.stream) := by
  -- What the line holds stands in front of the stream, still without a newline.
  fun_induction finishLine elapsed reader line generalizing bytes with
  | case1 elapsed reader line byte more hbuffer chunk stop rest hstop whole =>
      obtain ⟨hnewline, hfront, hchunk⟩ := piece_split hstop
      have hwhole : whole.Holds _ := hline.absorb (chunk.takeWhile (· ≠ newline) ++ [stop])
      have hbefore : newline ∉ bytes ++ chunk.takeWhile (· ≠ newline) := by
        rw [List.mem_append, not_or]
        exact ⟨hopen, hfront⟩
      have hstream : bytes.map .byte ++ reader.stream =
          (bytes ++ chunk.takeWhile (· ≠ newline)).map .byte ++
            .byte stop :: (rest.map .byte ++ reader.script.stream) := by
        rw [Reader.stream, hbuffer]
        change bytes.map Symbol.byte ++ (chunk.map Symbol.byte ++ _) = _
        conv => lhs; rw [hchunk]
        simp only [List.map_append, List.map_cons, List.append_assoc, List.cons_append]
      rw [hstream, Stream.next?_bytes_append_cons hbefore (by simp [Symbol.goesOn, hnewline]),
        Stream.ended, hwhole.close, List.append_assoc]
      rfl
  | case2 elapsed reader line byte more hbuffer chunk hstop ih =>
      have hchunk : newline ∉ chunk := newline_not_mem_of_dropWhile hstop
      rw [ih (bytes ++ chunk) hcapacity (hline.absorb chunk) (by simp [hopen, hchunk])]
      simp only [Reader.stream, hbuffer, List.map_append, List.append_assoc, List.map_nil,
        List.nil_append]
      rfl
  | case3 elapsed reader line hbuffer hread =>
      rw [Reader.stream, hbuffer, Script.stream_of_read_never hread, List.map_nil,
        List.nil_append, Stream.next?_bytes_append_cons hopen rfl]
      rfl
  | case4 elapsed reader line hbuffer after fault rest hread =>
      rcases Script.stream_of_read hcapacity hread with hstream | ⟨hresult, _⟩
      · rw [Reader.stream, hbuffer, hstream, List.map_nil, List.nil_append, Stream.taken,
          List.singleton_append, Stream.next?_bytes_append_cons hopen rfl]
        rfl
      · cases hresult
  | case5 elapsed reader line hbuffer after rest hread =>
      -- The end is one that the script gives, or what follows the script for ever.
      rcases Script.stream_of_read hcapacity hread with hstream | ⟨_, hstream, hrest⟩
      · rw [Reader.stream, hbuffer, hstream, List.map_nil, List.nil_append, Stream.taken,
          List.singleton_append, Stream.next?_bytes_append_cons hopen rfl]
        rw [hline.close]
        rfl
      · rw [Reader.stream, hbuffer, hstream, List.map_nil, List.nil_append, List.append_nil,
          Stream.next?_bytes hopen, hline.close]
        simp [value?, Reader.stream, hrest]
  | case6 elapsed reader line hbuffer after byte more rest hread ih =>
      rw [ih bytes hcapacity hline hopen]
      rcases Script.stream_of_read hcapacity hread with hstream | ⟨hresult, _⟩
      · rw [Reader.stream, Reader.stream, hbuffer, hstream, List.map_nil, List.nil_append]
        rfl
      · cases hresult

theorem capacity_of_finishLine {elapsed after : Nat} {reader next : Reader} {line : Partial}
    {answer : Answer} (hread : finishLine elapsed reader line = .ready after (answer, next)) :
    next.capacity = reader.capacity := by
  fun_induction finishLine elapsed reader line with
  | case1 elapsed reader line byte more hbuffer chunk stop rest hstop whole =>
      cases hread
      rfl
  | case2 elapsed reader line byte more hbuffer chunk hstop ih => exact ih hread
  | case3 elapsed reader line hbuffer hscript => cases hread
  | case4 elapsed reader line hbuffer after fault rest hscript =>
      cases hread
      rfl
  | case5 elapsed reader line hbuffer after rest hscript =>
      cases hread
      rfl
  | case6 elapsed reader line hbuffer after byte more rest hscript ih => exact ih hread

/-- One call answers as the stream does, and leaves what the stream leaves. -/
theorem readLine_eq_next? (reader : Reader) (hcapacity : 1 ≤ reader.capacity) :
    (value? reader.readLine).map (fun (answer, next) => (answer, next.stream)) =
      reader.stream.next? :=
  finishLine_eq_next? 0 reader {} [] hcapacity Partial.Holds.nil List.not_mem_nil

theorem exists_readLine_eq (reader : Reader) (hcapacity : 1 ≤ reader.capacity) {answer : Answer}
    {rest : Stream} (hnext : reader.stream.next? = some (answer, rest)) :
    ∃ after next, reader.readLine = .ready after (answer, next) ∧
      next.capacity = reader.capacity ∧ next.stream = rest := by
  have hread := reader.readLine_eq_next? hcapacity
  rw [hnext] at hread
  cases hresult : reader.readLine with
  | ready after result =>
      obtain ⟨answer, next⟩ := result
      rw [hresult] at hread
      cases hread
      exact ⟨after, next, rfl, capacity_of_finishLine hresult, rfl⟩
  | never =>
      rw [hresult] at hread
      cases hread

theorem readLine_eq_next?_of_script (script : Script) :
    (value? (readLine { script })).map (fun (answer, next) => (answer, next.stream)) =
      script.stream.next? :=
  readLine_eq_next? { script } (by change 1 ≤ 8192; decide)

theorem readLine_silence (rest : Script) : readLine { script := .silence :: rest } = .never := by
  rw [readLine, finishLine]
  rfl

theorem readLines_eq (reader : Reader) (hcapacity : 1 ≤ reader.capacity) (calls : Nat) :
    reader.readLines calls = reader.stream.answers calls := by
  induction calls generalizing reader with
  | zero => rfl
  | succ calls ih =>
      rw [readLines, Stream.answers, ← readLine_eq_next? reader hcapacity]
      cases hread : reader.readLine with
      | ready after result =>
          obtain ⟨answer, next⟩ := result
          have hnext : next.capacity = reader.capacity := capacity_of_finishLine hread
          exact congrArg _ (ih next (hnext ▸ hcapacity))
      | never => rfl

end Reader

/-! ## Streams that never fall silent -/

theorem Stream.exists_next? {stream : Stream} (hsilence : .silence ∉ stream) :
    ∃ answer rest, stream.next? = some (answer, rest) ∧ .silence ∉ rest := by
  have hsublist := List.dropWhile_sublist Symbol.goesOn (l := stream)
  rw [Stream.next?]
  cases hstop : stream.dropWhile Symbol.goesOn with
  | nil => exact ⟨_, _, rfl, List.not_mem_nil⟩
  | cons symbol rest =>
      rw [hstop] at hsublist
      have hrest : .silence ∉ rest := fun hmem =>
        hsilence (hsublist.subset (List.mem_cons_of_mem symbol hmem))
      cases symbol with
      | byte stop => exact ⟨_, _, rfl, hrest⟩
      | close => exact ⟨_, _, rfl, hrest⟩
      | fault fault => exact ⟨_, _, rfl, hrest⟩
      | silence => exact absurd (hsublist.subset List.mem_cons_self) hsilence

theorem Stream.length_answers {stream : Stream} (hsilence : .silence ∉ stream) (calls : Nat) :
    (stream.answers calls).length = calls := by
  induction calls generalizing stream with
  | zero => rfl
  | succ calls ih =>
      obtain ⟨answer, rest, hnext, hrest⟩ := Stream.exists_next? hsilence
      rw [Stream.answers, hnext, List.length_cons, ih hrest]

theorem Script.silence_mem_of_mem_stream {script : Script} (hmem : .silence ∈ script.stream) :
    .silence ∈ script := by
  induction script with
  | nil => cases hmem
  | cons event script ih =>
      cases event with
      | data given =>
          rw [Script.stream_data] at hmem
          rcases List.mem_append.mp hmem with hgiven | hrest
          · cases given <;> simp [Stream.taken] at hgiven
          · exact List.mem_cons_of_mem _ (ih hrest)
      | fault fault =>
          rcases List.mem_cons.mp hmem with heq | hrest
          · cases heq
          · exact List.mem_cons_of_mem _ (ih hrest)
      | wait pause => exact List.mem_cons_of_mem _ (ih hmem)
      | silence => exact List.mem_cons_self

theorem Reader.silence_not_mem_stream {reader : Reader} (hsilence : .silence ∉ reader.script) :
    .silence ∉ reader.stream := by
  intro hmem
  rcases List.mem_append.mp hmem with hbuffer | hscript
  · simp at hbuffer
  · exact hsilence (Script.silence_mem_of_mem_stream hscript)

theorem decodeLine_eq_iff {line : Bytes} {text : List Char} :
    decodeLine line = String.ofList text ↔
      Text.Decodes (stripTerminator (line.take maxLineLength)) text := by
  rw [Text.decodes_iff, decodeLine, Text.lossy, String.ofList_inj]

/-! ## Framing -/

/-- A buffered reader answers, call after call, as the stream of its bytes, ends and
faults does, whatever the pieces, the pauses and the capacity. -/
theorem readLines_eq_answers (reader : Reader) (hcapacity : 1 ≤ reader.capacity) (calls : Nat) :
    reader.readLines calls = reader.stream.answers calls ∧
    (.silence ∉ reader.script → (reader.readLines calls).length = calls) ∧
    (∀ other : Reader, 1 ≤ other.capacity → other.stream = reader.stream →
      other.readLines calls = reader.readLines calls) ∧
    ∀ line text, decodeLine line = String.ofList text ↔
      Text.Decodes (stripTerminator (line.take maxLineLength)) text := by
  have heq := reader.readLines_eq hcapacity calls
  refine ⟨heq, ?_, ?_, fun _ _ => decodeLine_eq_iff⟩
  · intro hsilence
    rw [heq]
    exact Stream.length_answers (Reader.silence_not_mem_stream hsilence) calls
  · intro other hother hstream
    rw [heq, other.readLines_eq hother calls, hstream]

/-- Two lines, an end and a fault, cut inside the end of the first line. -/
def sampleReader : Reader where
  capacity := 2
  script := [.data [0x61, 0x0D], .wait 5, .data [0x0A, 0x62, 0xFF], .data [],
    .data [0x63], .fault .writeZero]

theorem readLines_sampleReader : 1 ≤ sampleReader.capacity ∧
    sampleReader.readLines 4 =
      [.ok (some "a"), .ok (some "b\ufffd"), .error .writeZero, .ok none] := by
  refine ⟨by decide, ?_⟩
  rw [(readLines_eq_answers sampleReader (by decide) 4).1]
  decide +kernel

end LineGreeting.Wire
