import LineGreeting.Proofs.Exchange.Deadline

/-! # Hearing a request as it comes

While a request comes nobody knows what comes after it. A script that has only begun a line
leaves open what the line will say and when; one that has completed it has settled both, whatever
its peer does then. So a responder that is told of its peer bit by bit hears what it would hear
if it were told all at once.
-/

namespace LineGreeting

namespace Wire.Script

variable {script : Script} {time : Nat} {bytes more : Bytes} {answer : Answer}

/-- Whether a script gives some bytes in some time, with no line complete yet. -/
structure Begins (script : Script) (time : Nat) (bytes : Bytes) : Prop where
  newline_not_mem : newline ∉ bytes
  stream_append : ∀ rest, stream (script ++ rest) = bytes.map .byte ++ rest.stream
  lineTime_append : ∀ rest, lineTime (script ++ rest) = rest.lineTime.map (time + ·)

/-- Whether a script gives an answer in some time, whatever comes after it. -/
structure Completes (script : Script) (time : Nat) (answer : Answer) : Prop where
  next?_append : ∀ rest, ∃ left, (stream (script ++ rest)).next? = some (answer, left)
  lineTime_append : ∀ rest, lineTime (script ++ rest) = some time

theorem begins_nil : Begins [] 0 [] where
  newline_not_mem := List.not_mem_nil
  stream_append _ := rfl
  lineTime_append rest := by simp

theorem Begins.wait (hbegins : script.Begins time bytes) (pause : Nat) :
    Begins (script ++ [.wait pause]) (time + pause) bytes where
  newline_not_mem := hbegins.newline_not_mem
  stream_append rest := by
    rw [List.append_assoc, hbegins.stream_append]
    rfl
  lineTime_append rest := by
    rw [List.append_assoc, hbegins.lineTime_append, List.singleton_append, lineTime,
      Option.map_map]
    congr 1
    funext later
    exact (Nat.add_assoc time pause later).symm

theorem Begins.data (hbegins : script.Begins time bytes) (hmore : more ≠ [])
    (hopen : newline ∉ more) : Begins (script ++ [.data more]) time (bytes ++ more) where
  newline_not_mem := by
    rw [List.mem_append, not_or]
    exact ⟨hbegins.newline_not_mem, hopen⟩
  stream_append rest := by
    rw [List.append_assoc, hbegins.stream_append, List.singleton_append, stream_data,
      Stream.taken_ok hmore, List.map_append, List.append_assoc]
  lineTime_append rest := by
    rw [List.append_assoc, hbegins.lineTime_append, List.singleton_append, lineTime,
      if_neg (by simp [hmore, hopen])]

/-- The piece with the newline completes the line, and says what its stream says. -/
theorem Begins.line (hbegins : script.Begins time bytes) (hnewline : newline ∈ more) :
    ∃ answer, Completes (script ++ [.data more]) time answer ∧ ∀ rest, ∃ left,
      Stream.next? ((bytes ++ more).map .byte ++ rest) = some (answer, left) := by
  obtain ⟨front, back, rfl, hfront⟩ := List.eq_append_cons_of_mem hnewline
  have hopen : newline ∉ bytes ++ front := by
    rw [List.mem_append, not_or]
    exact ⟨hbegins.newline_not_mem, hfront⟩
  have hnext (rest : Stream) :
      Stream.next? ((bytes ++ (front ++ newline :: back)).map .byte ++ rest) =
        some (.ok (lineOf (bytes ++ front ++ [newline])), back.map .byte ++ rest) := by
    have hgoesOn : (Symbol.byte newline).goesOn = false := rfl
    have hstop := Stream.next?_bytes_append_cons hopen hgoesOn (back.map .byte ++ rest)
    simpa [Stream.ended, List.append_assoc] using hstop
  refine ⟨_, ⟨fun rest => ?_, fun rest => ?_⟩, fun rest => ⟨_, hnext rest⟩⟩
  · rw [List.append_assoc, hbegins.stream_append, List.singleton_append, stream_data,
      Stream.taken_ok (List.ne_nil_of_mem hnewline), ← List.append_assoc, ← List.map_append]
    exact ⟨_, hnext rest.stream⟩
  · rw [List.append_assoc, hbegins.lineTime_append, List.singleton_append, lineTime,
      if_pos (.inr hnewline)]
    rfl

theorem Begins.close (hbegins : script.Begins time bytes) :
    Completes (script ++ [.data []]) time (.ok (lineOf bytes)) where
  next?_append rest := by
    rw [List.append_assoc, hbegins.stream_append]
    exact ⟨_, Stream.next?_bytes_append_cons hbegins.newline_not_mem rfl rest.stream⟩
  lineTime_append rest := by
    rw [List.append_assoc, hbegins.lineTime_append]
    rfl

theorem Begins.fault (hbegins : script.Begins time bytes) (fault : Fault) :
    Completes (script ++ [.fault fault]) time (.error fault) where
  next?_append rest := by
    rw [List.append_assoc, hbegins.stream_append]
    exact ⟨_, Stream.next?_bytes_append_cons hbegins.newline_not_mem rfl rest.stream⟩
  lineTime_append rest := by
    rw [List.append_assoc, hbegins.lineTime_append]
    rfl

theorem Completes.append (hcompletes : script.Completes time answer) (more : Script) :
    Completes (script ++ more) time answer where
  next?_append rest := by
    rw [List.append_assoc]
    exact hcompletes.next?_append (more ++ rest)
  lineTime_append rest := by
    rw [List.append_assoc]
    exact hcompletes.lineTime_append (more ++ rest)

/-- Pieces that come at once begin a line or complete one. -/
theorem begins_or_completes (pieces : List Bytes) (hpieces : [] ∉ pieces) :
    Begins (pieces.map .data) 0 pieces.flatten ∨
      ∃ answer, Completes (pieces.map .data) 0 answer := by
  induction pieces using List.reverseRecOn with
  | nil => exact .inl begins_nil
  | append_singleton front last ih =>
      rw [List.mem_append, not_or, List.mem_singleton] at hpieces
      rw [List.map_append, List.flatten_append, List.flatten_singleton]
      rcases ih hpieces.1 with hbegins | ⟨answer, hcompletes⟩
      · by_cases hnewline : newline ∈ last
        · obtain ⟨answer, hcompletes, -⟩ := hbegins.line hnewline
          exact .inr ⟨answer, hcompletes⟩
        · exact .inl (hbegins.data (Ne.symm hpieces.2) hnewline)
      · exact .inr ⟨answer, hcompletes.append _⟩

theorem stream_pieces {pieces : List Bytes} (hpieces : [] ∉ pieces) (rest : Script) :
    stream (pieces.map .data ++ rest) = pieces.flatten.map .byte ++ rest.stream := by
  induction pieces with
  | nil => rfl
  | cons piece pieces ih =>
      rw [List.mem_cons, not_or] at hpieces
      rw [List.map_cons, List.cons_append, stream_data,
        Stream.taken_ok (Ne.symm hpieces.1), ih hpieces.2, List.flatten_cons,
        List.map_append, List.append_assoc]

end Wire.Script

namespace Responder

open Wire (Script)

variable {responder : Responder} {script : Script} {time limit : Nat} {bytes : Bytes}
variable {answer : Wire.Answer}

theorem hear_of_completes (hcompletes : script.Completes time answer)
    (hintime : ∀ limit, responder.readTimeout = some limit → time ≤ limit) (rest : Script) :
    responder.hear (script ++ rest) = .ready time answer := by
  obtain ⟨heard, left, hnext, hready⟩ := hear_of_le (hcompletes.lineTime_append rest) hintime
  obtain ⟨left', hnext'⟩ := hcompletes.next?_append rest
  cases hnext.symm.trans hnext'
  exact hready

theorem hear_of_begins (hbegins : script.Begins time bytes)
    (hlimit : responder.readTimeout = some limit) :
    responder.hear (script ++ [.silence]) = .ready limit (.error (.timedOut limit)) := by
  refine hear_of_lt hlimit fun heard hheard => ?_
  rw [hbegins.lineTime_append] at hheard
  cases hheard

end Responder

end LineGreeting
