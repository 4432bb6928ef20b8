import LineGreeting.Proofs.Wire.Stream

/-! # Turn by turn

A line is read in turns. Each looks at a chunk, be it left in the buffer or just fetched, and
consumes what belongs to the line: all of the chunk, or what it has up to its first newline.
Here a turn is given with every check that its subtractions and its buffer ask for, and the
reader is shown to be the loop of these turns, none of which ever fails its checks.
-/

namespace LineGreeting.Wire

/-- What belongs to a line at the front of a chunk. -/
def lineIn (chunk : Bytes) : Bytes :=
  chunk.takeWhile (· ≠ newline) ++ (chunk.dropWhile (· ≠ newline)).take 1

/-- What is left of a number when another is taken away, if there is enough of it. -/
def less? (whole part : Nat) : Option Nat :=
  if part ≤ whole then some (whole - part) else none

namespace Reader

/-- The chunk to look at: what the buffer holds, after one read if it is empty. No bytes are
the end of the stream. -/
def fill (reader : Reader) : Delayed (Except Fault Bytes × Reader) :=
  if reader.buffer = [] then
    match reader.script.read reader.capacity with
    | .never => .never
    | .ready after (.error fault, script) => .ready after (.error fault, { reader with script })
    | .ready after (.ok chunk, script) =>
      .ready after (.ok chunk, { reader with buffer := chunk, script })
  else .ready 0 (.ok reader.buffer, reader)

/-- Takes so many bytes off the buffer, if it holds as many. -/
def consume? (reader : Reader) (count : Nat) : Option Reader :=
  if count ≤ reader.buffer.length then
    some { reader with buffer := reader.buffer.drop count }
  else none

end Reader

/-- Where the reading of a line stands between two turns. -/
structure Reading where
  reader : Reader
  line : Partial := {}
  /-- Whether the line has come to its newline. -/
  complete : Bool := false
  elapsed : Nat := 0
  /-- All that was consumed for the line. -/
  consumed : Bytes := []

namespace Reading

/-- What a turn makes of its chunk, unless it takes more away than there is. -/
def take? (reading : Reading) (after : Nat) (chunk : Bytes) (filled : Reader) :
    Option Reading := do
  let used := lineIn chunk
  let room ← less? maxLineLength reading.line.kept.size
  let keep := min used.length room
  let excess ← less? used.length keep
  let reader ← filled.consume? used.length
  return {
    reader
    line := ⟨reading.line.kept.appendList (used.take keep), reading.line.dropped + excess⟩
    complete := used.contains newline
    elapsed := reading.elapsed + after
    consumed := reading.consumed ++ used }

/-- One turn: there is a chunk, and all its checks hold. -/
inductive Turn (reading next : Reading) : Prop
  | take {after : Nat} {chunk : Bytes} {filled : Reader} (hopen : reading.complete = false)
      (hfill : reading.reader.fill = .ready after (.ok chunk, filled)) (hchunk : chunk ≠ [])
      (htake : reading.take? after chunk filled = some next)

/-- Where the reading of a line stands after some turns. -/
inductive Turns (start : Reader) : Nat → Reading → Prop
  | start : Turns start 0 { reader := start }
  | turn {turns : Nat} {reading next : Reading} (hturns : Turns start turns reading)
      (hturn : reading.Turn next) : Turns start (turns + 1) next

/-- What the reading of a line comes to when there is no other turn. -/
inductive Ends (reading : Reading) : Delayed (Answer × Reader) → Prop
  | complete (hcomplete : reading.complete = true) :
      Ends reading (.ready reading.elapsed (.ok reading.line.close, reading.reader))
  | closed {after : Nat} {filled : Reader} (hopen : reading.complete = false)
      (hfill : reading.reader.fill = .ready after (.ok [], filled)) :
      Ends reading (.ready (reading.elapsed + after) (.ok reading.line.close, filled))
  | failed {after : Nat} {fault : Fault} {filled : Reader} (hopen : reading.complete = false)
      (hfill : reading.reader.fill = .ready after (.error fault, filled)) :
      Ends reading (.ready (reading.elapsed + after) (.error fault, filled))
  | silent (hopen : reading.complete = false) (hfill : reading.reader.fill = .never) :
      Ends reading .never

end Reading

/-! ## The front of a chunk -/

section Chunk

variable {chunk : Bytes}

theorem lineIn_isPrefix (chunk : Bytes) : lineIn chunk <+: chunk := by
  refine ⟨(chunk.dropWhile (· ≠ newline)).drop 1, ?_⟩
  rw [lineIn, List.append_assoc, List.take_append_drop, List.takeWhile_append_dropWhile]

theorem lineIn_of_not_mem (hopen : newline ∉ chunk) : lineIn chunk = chunk := by
  have hall : ∀ byte ∈ chunk, byte ≠ newline := fun _ hmem => ne_of_mem_of_not_mem hmem hopen
  rw [lineIn, List.takeWhile_eq_self_iff.mpr (by simpa using hall),
    List.dropWhile_eq_nil_iff.mpr (by simpa using hall), List.take_nil, List.append_nil]

theorem lineIn_ne_nil (hchunk : chunk ≠ []) : lineIn chunk ≠ [] := by
  intro hnil
  rw [lineIn, List.append_eq_nil_iff, List.take_eq_nil_iff] at hnil
  obtain ⟨hfront, hback⟩ := hnil
  have hsplit := List.takeWhile_append_dropWhile (p := (· ≠ newline)) (l := chunk)
  rw [hfront, hback.resolve_left Nat.one_ne_zero] at hsplit
  exact hchunk hsplit.symm

/-- A newline in the front of a chunk is its last byte. -/
theorem lineIn_cases (chunk : Bytes) :
    newline ∉ chunk ∧ lineIn chunk = chunk ∨
      ∃ front rest, newline ∉ front ∧ chunk = front ++ newline :: rest ∧
        lineIn chunk = front ++ [newline] := by
  cases hstop : chunk.dropWhile (· ≠ newline) with
  | nil =>
      have hopen : newline ∉ chunk := newline_not_mem_of_dropWhile hstop
      exact .inl ⟨hopen, lineIn_of_not_mem hopen⟩
  | cons stop rest =>
      obtain ⟨rfl, hfront, hchunk⟩ := piece_split hstop
      refine .inr ⟨_, rest, hfront, hchunk, ?_⟩
      rw [lineIn, hstop, List.take_succ_cons, List.take_zero]

theorem newline_mem_lineIn_iff : newline ∈ lineIn chunk ↔ newline ∈ chunk := by
  rcases lineIn_cases chunk with ⟨hopen, heq⟩ | ⟨front, rest, -, hchunk, heq⟩
  · rw [heq]
  · rw [heq, hchunk]
    simp

end Chunk

/-! ## One turn -/

theorem less?_eq_some_iff {whole part rest : Nat} :
    less? whole part = some rest ↔ part + rest = whole := by
  rw [less?]
  split <;> simp <;> omega

theorem Script.Gives.eq_nil {after : Nat} {script rest : Script} {result : Except Fault Bytes}
    {bytes : Bytes} (hgives : Script.Gives 0 script after result rest)
    (hresult : result = .ok bytes) : bytes = [] := by
  induction hgives with
  | atEnd | part =>
      cases hresult
      rfl
  | whole hfits =>
      cases hresult
      exact List.eq_nil_of_length_eq_zero (Nat.le_zero.mp hfits)
  | fault => cases hresult
  | wait _ ih => exact ih hresult

namespace Reader

variable {reader filled : Reader} {elapsed after count : Nat} {chunk : Bytes} {line : Partial}

theorem consume?_eq_some (hcount : count ≤ reader.buffer.length) :
    reader.consume? count = some { reader with buffer := reader.buffer.drop count } :=
  if_pos hcount

theorem finishLine_of_read {script : Script} (hbuffer : reader.buffer = [])
    (hread : reader.script.read reader.capacity = .ready after (.ok chunk, script))
    (hchunk : chunk ≠ []) :
    finishLine elapsed reader line =
      finishLine (elapsed + after) { reader with buffer := chunk, script } line := by
  conv => lhs; rw [finishLine]
  split
  next hcons => simp [hbuffer] at hcons
  next =>
    split
    next hnever => simp [hread] at hnever
    next herror => simp [hread] at herror
    next hnil =>
      rw [hread] at hnil
      cases hnil
      exact absurd rfl hchunk
    next hcons =>
      rw [hread] at hcons
      cases hcons
      rfl

/-- A chunk is all that the buffer holds then, and nothing is lost on the way to it. -/
theorem fill_eq_chunk (hfill : reader.fill = .ready after (.ok chunk, filled))
    (hchunk : chunk ≠ []) :
    filled.buffer = chunk ∧ filled.left = reader.left ∧ filled.stream = reader.stream ∧
      ∀ elapsed line, finishLine elapsed reader line = finishLine (elapsed + after) filled line := by
  rw [fill] at hfill
  split at hfill
  next hbuffer =>
    split at hfill
    · cases hfill
    · cases hfill
    next script hread =>
      cases hfill
      refine ⟨rfl, ?_, ?_, fun _ _ => finishLine_of_read hbuffer hread hchunk⟩
      · have hsize := Script.size_read hread
        simp only [left, hbuffer, List.length_nil]
        omega
      · have hroom : 1 ≤ reader.capacity := by
          by_contra hnone
          obtain hzero : reader.capacity = 0 := by omega
          rw [hzero] at hread
          exact hchunk ((Script.gives_of_read hread).eq_nil rfl)
        rcases Script.stream_of_read hroom hread with hstream | ⟨hresult, -⟩
        · rw [stream, stream, hbuffer, hstream, Stream.taken_ok hchunk, List.map_nil,
            List.nil_append]
        · exact absurd (Except.ok.inj hresult) hchunk
  next hbuffer =>
    cases hfill
    exact ⟨rfl, rfl, rfl, fun _ _ => rfl⟩

theorem finishLine_of_chunk (hbuffer : reader.buffer = chunk) (hchunk : chunk ≠ []) :
    finishLine elapsed reader line =
      if newline ∈ chunk then
        .ready elapsed (.ok (line.absorb (lineIn chunk)).close,
          { reader with buffer := chunk.drop (lineIn chunk).length })
      else
        finishLine elapsed { reader with buffer := chunk.drop (lineIn chunk).length }
          (line.absorb (lineIn chunk)) := by
  conv => lhs; rw [finishLine]
  split
  next byte more hcons =>
    rw [hbuffer] at hcons
    subst hcons
    dsimp only
    split
    next stop rest hstop =>
      obtain ⟨hnewline, -, hsplit⟩ := piece_split hstop
      have hmem : newline ∈ byte :: more := by
        rw [hsplit, hnewline]
        simp
      have hused : lineIn (byte :: more) =
          (byte :: more).takeWhile (· ≠ newline) ++ [stop] := by
        rw [lineIn, hstop, List.take_succ_cons, List.take_zero]
      have hrest : (byte :: more).drop (lineIn (byte :: more)).length = rest := by
        rw [List.append_cons, ← hused] at hsplit
        conv => lhs; arg 2; rw [hsplit]
        exact List.drop_left
      rw [if_pos hmem, hrest, hused]
    next hstop =>
      have hopen : newline ∉ byte :: more := newline_not_mem_of_dropWhile hstop
      rw [if_neg hopen, lineIn_of_not_mem hopen, List.drop_length]
  next hnil => exact absurd (hbuffer.symm.trans hnil) hchunk

/-- Where there is no chunk the line is over, whatever it holds. -/
theorem finishLine_of_no_chunk (elapsed : Nat) (line : Partial)
    (hnone : ∀ after chunk filled, reader.fill = .ready after (.ok chunk, filled) → chunk = []) :
    finishLine elapsed reader line =
      (reader.fill.map fun (answer, filled) =>
        (answer.map fun _ => line.close, filled)).postpone elapsed := by
  rw [finishLine]
  split
  next byte more hbuffer =>
    have hfill : reader.fill = .ready 0 (.ok reader.buffer, reader) := by
      rw [fill, if_neg (by simp [hbuffer])]
    rw [hbuffer] at hfill
    cases hnone _ _ _ hfill
  next hbuffer =>
    rw [fill, if_pos hbuffer] at hnone ⊢
    split
    next hread => rw [hread]; rfl
    next hread => rw [hread]; rfl
    next hread =>
      rw [hread]
      simp only [Delayed.map, Delayed.postpone, Except.map, ← hbuffer]
    next hread =>
      rw [hread] at hnone
      cases hnone _ _ _ rfl

end Reader

namespace Reading

variable {start reader filled : Reader} {reading next last : Reading} {turns after : Nat}
variable {chunk : Bytes} {result : Delayed (Answer × Reader)}

/-- A turn whose line is within the limit passes its checks. -/
theorem take?_eq_some (hwithin : reading.line.kept.size ≤ maxLineLength)
    (hbuffer : filled.buffer = chunk) :
    reading.take? after chunk filled = some {
      reader := { filled with buffer := chunk.drop (lineIn chunk).length }
      line := reading.line.absorb (lineIn chunk)
      complete := (lineIn chunk).contains newline
      elapsed := reading.elapsed + after
      consumed := reading.consumed ++ lineIn chunk } := by
  have hroom : less? maxLineLength reading.line.kept.size =
      some (maxLineLength - reading.line.kept.size) := if_pos hwithin
  have hexcess : ∀ room, less? (lineIn chunk).length (min (lineIn chunk).length room) =
      some ((lineIn chunk).drop room).length := by
    intro room
    rw [less?_eq_some_iff, List.length_drop]
    omega
  have hconsume := Reader.consume?_eq_some
    (hbuffer ▸ (lineIn_isPrefix chunk).length_le : (lineIn chunk).length ≤ filled.buffer.length)
  simp only [take?, hroom, hexcess, hconsume, hbuffer, Option.bind_eq_bind, Option.bind_some,
    Option.pure_def, Partial.absorb]
  rw [Nat.min_comm, ← List.take_eq_take_min]

/-! ## What every turn keeps -/

/-- What is known of the line and of the stream between two turns. -/
structure Tracks (start : Reader) (turns : Nat) (reading : Reading) : Prop where
  holds : reading.line.Holds reading.consumed
  complete_iff : reading.complete = true ↔ newline ∈ reading.consumed
  newline_not_mem : newline ∉ reading.consumed.dropLast
  stream_eq : start.stream = reading.consumed.map .byte ++ reading.reader.stream
  left_eq : start.left = reading.consumed.length + reading.reader.left
  turns_le : turns ≤ reading.consumed.length

theorem Tracks.size_kept_le (htracks : Tracks start turns reading) :
    reading.line.kept.size ≤ maxLineLength := by
  rw [← Array.length_toList, htracks.holds.kept]
  exact List.length_take_le _ _

theorem tracks_start (reader : Reader) : Tracks reader 0 { reader } where
  holds := .nil
  complete_iff := by simp
  newline_not_mem := List.not_mem_nil
  stream_eq := rfl
  left_eq := (Nat.zero_add _).symm
  turns_le := Nat.le_refl 0

theorem Tracks.take? (htracks : Tracks start turns reading) (hopen : reading.complete = false)
    (hfill : reading.reader.fill = .ready after (.ok chunk, filled)) (hchunk : chunk ≠ [])
    (htake : reading.take? after chunk filled = some next) : Tracks start (turns + 1) next := by
  obtain ⟨hbuffer, hleft, hstream, -⟩ := Reader.fill_eq_chunk hfill hchunk
  rw [take?_eq_some htracks.size_kept_le hbuffer] at htake
  cases htake
  have hbefore : newline ∉ reading.consumed := by
    rw [← htracks.complete_iff, hopen]
    exact Bool.false_ne_true
  -- The chunk is cut behind its first newline; the front is consumed and the rest stays.
  have hsplit := List.prefix_iff_eq_append.mp (lineIn_isPrefix chunk)
  have hlength := List.length_pos_iff.mpr (lineIn_ne_nil hchunk)
  constructor
  case holds => exact htracks.holds.absorb _
  case complete_iff => simp [hbefore]
  case newline_not_mem =>
    rw [List.dropLast_append_of_ne_nil (lineIn_ne_nil hchunk), List.mem_append, not_or]
    refine ⟨hbefore, ?_⟩
    rcases lineIn_cases chunk with ⟨hnone, heq⟩ | ⟨front, _, hfront, -, heq⟩
    · rw [heq]
      exact fun hmem => hnone (List.mem_of_mem_dropLast hmem)
    · rwa [heq, List.dropLast_concat]
  case stream_eq =>
    have hbytes := congrArg (List.map Symbol.byte) hsplit
    rw [htracks.stream_eq, ← hstream, Reader.stream, Reader.stream, hbuffer, ← hbytes]
    simp only [List.map_append, List.append_assoc]
  case left_eq =>
    have hbytes := congrArg List.length hsplit
    rw [htracks.left_eq, ← hleft, Reader.left, Reader.left, hbuffer, ← hbytes]
    simp only [List.length_append]
    omega
  case turns_le =>
    have hturns := htracks.turns_le
    simp only [List.length_append]
    omega

theorem Turn.tracks (hturn : reading.Turn next) (htracks : Tracks start turns reading) :
    Tracks start (turns + 1) next := by
  obtain ⟨hopen, hfill, hchunk, htake⟩ := hturn
  exact htracks.take? hopen hfill hchunk htake

theorem Turns.tracks (hturns : Turns start turns reading) : Tracks start turns reading := by
  induction hturns with
  | start => exact tracks_start start
  | turn _ hturn ih => exact hturn.tracks ih

/-! ## What the turns come to -/

/-- What the reading of a line comes to from here on. -/
def outcome (reading : Reading) : Delayed (Answer × Reader) :=
  if reading.complete then .ready reading.elapsed (.ok reading.line.close, reading.reader)
  else Reader.finishLine reading.elapsed reading.reader reading.line

theorem outcome_of_open (hopen : reading.complete = false) :
    reading.outcome = Reader.finishLine reading.elapsed reading.reader reading.line := by
  rw [outcome, hopen]
  rfl

/-- A turn goes part of the way, and no other. -/
theorem Turn.outcome_eq (hturn : reading.Turn next) (htracks : Tracks start turns reading) :
    next.outcome = reading.outcome := by
  obtain ⟨hopen, hfill, hchunk, htake⟩ := hturn
  obtain ⟨hbuffer, -, -, hfinish⟩ := Reader.fill_eq_chunk hfill hchunk
  rw [take?_eq_some htracks.size_kept_le hbuffer] at htake
  cases htake
  rw [outcome_of_open hopen, hfinish, Reader.finishLine_of_chunk hbuffer hchunk, outcome]
  simp only [List.contains_iff_mem, newline_mem_lineIn_iff]

theorem Turns.outcome_eq (hturns : Turns start turns reading) :
    reading.outcome = start.readLine := by
  induction hturns with
  | start => rfl
  | turn hturns hturn ih => rw [hturn.outcome_eq hturns.tracks, ih]

theorem Ends.outcome_eq (hends : reading.Ends result) : reading.outcome = result := by
  cases hends with
  | complete hcomplete => rw [outcome, if_pos hcomplete]
  | closed hopen hfill =>
      rw [outcome_of_open hopen, Reader.finishLine_of_no_chunk, hfill]
      · rfl
      · rw [hfill]
        rintro _ _ _ ⟨⟩
        rfl
  | failed hopen hfill =>
      rw [outcome_of_open hopen, Reader.finishLine_of_no_chunk, hfill]
      · rfl
      · rw [hfill]
        nofun
  | silent hopen hfill =>
      rw [outcome_of_open hopen, Reader.finishLine_of_no_chunk, hfill]
      · rfl
      · rw [hfill]
        nofun

theorem exists_ends (hturns : Turns start turns reading) :
    ∃ turns last result, Turns start turns last ∧ last.Ends result := by
  -- Each turn leaves fewer bytes to come.
  induction hleft : reading.reader.left using Nat.strong_induction_on
    generalizing turns reading with
  | _ left ih =>
      subst hleft
      cases hopen : reading.complete with
      | true => exact ⟨turns, reading, _, hturns, .complete hopen⟩
      | false =>
          cases hfill : reading.reader.fill with
          | never => exact ⟨turns, reading, _, hturns, .silent hopen hfill⟩
          | ready after result =>
              obtain ⟨answer | chunk, filled⟩ := result
              · exact ⟨turns, reading, _, hturns, .failed hopen hfill⟩
              · by_cases hchunk : chunk = []
                · subst hchunk
                  exact ⟨turns, reading, _, hturns, .closed hopen hfill⟩
                · obtain ⟨hbuffer, -⟩ := Reader.fill_eq_chunk hfill hchunk
                  have htake : reading.take? after chunk filled = some _ :=
                    take?_eq_some hturns.tracks.size_kept_le hbuffer
                  have hturn : Turn reading _ := .take hopen hfill hchunk htake
                  have hnext := Turns.turn hturns hturn
                  refine ih _ ?_ hnext rfl
                  have hbefore := hturns.tracks.left_eq
                  have hafter := hnext.tracks.left_eq
                  have hlength := List.length_pos_iff.mpr (lineIn_ne_nil hchunk)
                  simp only [List.length_append] at hafter
                  dsimp only
                  omega

/-! ## The account of the loop -/

/-- What the loop can rely on between two turns, and when it is over: `consumed` is what the
stream gave first, and the line is the part of it within the limit. -/
structure Sound (start : Reader) (reading : Reading) : Prop where
  stream_eq : start.stream = reading.consumed.map .byte ++ reading.reader.stream
  kept_eq : reading.line.kept.toList =
    reading.consumed.take (min 65536 reading.consumed.length)
  dropped_eq : reading.line.dropped = reading.consumed.length - reading.line.kept.size
  kept_le : reading.line.kept.size ≤ reading.consumed.length
  /-- Taking the bytes kept from the limit never goes below zero. -/
  within : reading.line.kept.size ≤ 65536
  newline_not_mem : newline ∉ reading.consumed.dropLast
  complete_iff : reading.complete = true ↔ reading.consumed.getLast? = some newline
  ended_iff : reading.line.kept.toList.getLast? = some newline ↔
    reading.complete = true ∧ reading.consumed.length ≤ 65536

theorem Tracks.complete_iff_getLast? (htracks : Tracks start turns reading) :
    reading.complete = true ↔ reading.consumed.getLast? = some newline := by
  have hfront := htracks.newline_not_mem
  rw [htracks.complete_iff]
  rcases List.eq_nil_or_concat' reading.consumed with hnil | ⟨front, last, hconcat⟩
  · simp [hnil]
  · rw [hconcat, List.dropLast_concat] at hfront
    simp [hconcat, hfront, eq_comm]

theorem Tracks.ended_iff (htracks : Tracks start turns reading) :
    reading.line.kept.toList.getLast? = some newline ↔
      reading.complete = true ∧ reading.consumed.length ≤ maxLineLength := by
  rw [htracks.holds.kept]
  rcases Nat.lt_or_ge maxLineLength reading.consumed.length with hlong | hshort
  · -- What is kept then ends before the last byte, the only one that may be a newline.
    refine iff_of_false (fun hlast => htracks.newline_not_mem ?_) (by omega)
    have hmem := List.mem_of_getLast? hlast
    rw [List.dropLast_eq_take]
    exact (List.take_subset_take_left _ (by omega)) hmem
  · rw [List.take_of_length_le hshort, htracks.complete_iff_getLast?]
    exact (and_iff_left hshort).symm

theorem Tracks.sound (htracks : Tracks start turns reading) : Sound start reading where
  stream_eq := htracks.stream_eq
  kept_eq := by
    rw [htracks.holds.kept]
    exact List.take_eq_take_min
  dropped_eq := by
    have hlength := htracks.holds.length
    rw [Partial.length] at hlength
    omega
  kept_le := by
    have hlength := htracks.holds.length
    rw [Partial.length] at hlength
    omega
  within := htracks.size_kept_le
  newline_not_mem := htracks.newline_not_mem
  complete_iff := htracks.complete_iff_getLast?
  ended_iff := htracks.ended_iff

/-- Only a reader that never hears of its peer again does not come to the end of its line. -/
theorem Ends.silence_mem (hends : reading.Ends .never) : .silence ∈ reading.reader.stream := by
  cases hends with
  | silent hopen hfill =>
      rw [Reader.fill] at hfill
      split at hfill
      next hbuffer =>
        split at hfill
        next hread =>
          rw [Reader.stream, Script.stream_of_read_never hread]
          simp
        · cases hfill
        · cases hfill
      · cases hfill

end Reading

namespace Reader

open Reading (Turns Ends)

/-- A line is read in turns that keep their account, however its chunks are cut. Every chunk
that is there lets the loop go on: all checks of its turn hold, and something of it is
consumed. So there are no more turns than bytes, and the reader comes to what the last of
them leaves. -/
theorem readLine_in_turns (reader : Reader) :
    (∀ turns reading, Turns reader turns reading →
      reading.Sound reader ∧ turns ≤ reading.consumed.length ∧
        reading.consumed.length + reading.reader.left = reader.left ∧
        ∀ after chunk filled, reading.complete = false →
          reading.reader.fill = .ready after (.ok chunk, filled) → chunk ≠ [] →
          filled.buffer = chunk ∧ 1 ≤ (lineIn chunk).length ∧
            (lineIn chunk).length ≤ chunk.length ∧
            ∃ next, reading.take? after chunk filled = some next ∧
              next.consumed = reading.consumed ++ lineIn chunk) ∧
    ∃ turns last result, Turns reader turns last ∧ last.Ends result ∧
      reader.readLine = result ∧ (.silence ∉ reader.script → result ≠ .never) := by
  constructor
  · intro turns reading hturns
    have htracks := hturns.tracks
    refine ⟨htracks.sound, htracks.turns_le, htracks.left_eq.symm, ?_⟩
    intro after chunk filled hopen hfill hchunk
    obtain ⟨hbuffer, -⟩ := fill_eq_chunk hfill hchunk
    exact ⟨hbuffer, List.length_pos_iff.mpr (lineIn_ne_nil hchunk),
      (lineIn_isPrefix chunk).length_le, _,
      Reading.take?_eq_some htracks.size_kept_le hbuffer, rfl⟩
  · have hstart : Turns reader 0 { reader } := .start
    obtain ⟨turns, last, result, hturns, hends⟩ := Reading.exists_ends hstart
    refine ⟨turns, last, result, hturns, hends, ?_, ?_⟩
    · rw [← hturns.outcome_eq, hends.outcome_eq]
    · rintro hsilence rfl
      refine silence_not_mem_stream hsilence ?_
      rw [hturns.tracks.stream_eq]
      exact List.mem_append_right _ hends.silence_mem

/-- As many bytes as are kept of a line, and no newline among them. -/
def fullChunk : Bytes := List.replicate 65536 0x61

/-- A peer whose newline comes one byte too late to be kept. -/
def fullReader : Reader where
  capacity := 100000
  script := [.data fullChunk, .wait 5, .data [newline, 0x62]]

theorem length_fullChunk : fullChunk.length = 65536 := List.length_replicate

theorem turns_fullReader : ∃ reading, Turns fullReader 2 reading ∧
    reading.consumed = fullChunk ++ [newline] ∧ reading.reader.buffer = [0x62] := by
  have hopen : newline ∉ fullChunk := by
    rw [fullChunk, List.mem_replicate]
    decide
  have hne : fullChunk ≠ [] := List.ne_nil_of_length_pos (by rw [length_fullChunk]; decide)
  have hread : fullReader.script.read fullReader.capacity =
      .ready 0 (.ok fullChunk, [.wait 5, .data [newline, 0x62]]) := by
    have hfits : fullChunk.drop 100000 = [] :=
      List.drop_eq_nil_of_le (by rw [length_fullChunk]; decide)
    simp only [fullReader, Script.read, hfits]
  have hfill : fullReader.fill = .ready 0 (.ok fullChunk,
      { fullReader with buffer := fullChunk, script := [.wait 5, .data [newline, 0x62]] }) := by
    have hbuffer : fullReader.buffer = [] := rfl
    rw [fill, if_pos hbuffer, hread]
  have hfirst := Turns.turn .start (.take rfl hfill hne
    (Reading.take?_eq_some (Reading.tracks_start fullReader).size_kept_le rfl))
  rw [lineIn_of_not_mem hopen, List.drop_length] at hfirst
  refine ⟨_, .turn hfirst (.take ?_ rfl (List.cons_ne_nil _ _)
    (Reading.take?_eq_some hfirst.tracks.size_kept_le rfl)), rfl, rfl⟩
  simpa using hopen

theorem readLine_in_turns_fullReader : ∃ reading, Turns fullReader 2 reading ∧
    reading.Sound fullReader ∧ reading.complete = true ∧ reading.line.kept.size = 65536 ∧
    reading.line.dropped = 1 ∧ reading.line.kept.toList.getLast? ≠ some newline := by
  obtain ⟨reading, hturns, hconsumed, -⟩ := turns_fullReader
  obtain ⟨hsound, -⟩ := (readLine_in_turns fullReader).1 2 reading hturns
  have hlength : reading.consumed.length = 65537 := by
    rw [hconsumed, List.length_append, length_fullChunk]
    rfl
  have hsize : reading.line.kept.size = 65536 := by
    rw [← Array.length_toList, hsound.kept_eq, List.length_take, hlength]
    decide
  refine ⟨reading, hturns, hsound, ?_, hsize, ?_, ?_⟩
  · rw [hsound.complete_iff, hconsumed, List.getLast?_concat]
  · rw [hsound.dropped_eq, hlength, hsize]
  · rw [Ne, hsound.ended_iff, hlength]
    omega

end Reader

end LineGreeting.Wire
