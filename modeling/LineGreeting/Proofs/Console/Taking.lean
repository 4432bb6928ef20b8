import LineGreeting.Console.Sink
import Mathlib.Data.List.Basic

/-! # What a sink takes of a line

A sink is written to call by call, and each call has its own action. A call without a mishap
takes some of what it is given, and the next call gets the rest; the first mishap ends the
line. So what is taken of a line is a beginning of it, and the whole line if no call had a
mishap.
-/

namespace LineGreeting

namespace SinkAction

/-- How a write call ends its line, if it does. A call that is only disturbed does not. -/
def mishap? : SinkAction → Option Mishap
  | all => none
  | upTo count => if count = 0 then some .lost else none
  | fails kind => if kind = .interrupted then none else some .lost
  | panics => some .panicked

/-- What a write call takes of some bytes. -/
def taken (bytes : Bytes) : SinkAction → Bytes
  | all => bytes
  | upTo count => bytes.take count
  | fails _ | panics => []

/-- What a write call does not take of some bytes. -/
def left (bytes : Bytes) : SinkAction → Bytes
  | all => []
  | upTo count => bytes.drop count
  | fails _ | panics => bytes

/-- What the next calls do. Behind the actions listed everything is taken. -/
def upcoming (actions : List SinkAction) : Nat → List SinkAction
  | 0 => []
  | calls + 1 => actions.headD .all :: upcoming actions.tail calls

/-- The first mishap among some calls. -/
def verdict (calls : List SinkAction) : Except Mishap Unit :=
  match calls.findSome? mishap? with
  | none => .ok ()
  | some mishap => .error mishap

@[simp] theorem taken_append_left (action : SinkAction) (bytes : Bytes) :
    action.taken bytes ++ action.left bytes = bytes := by
  cases action <;> simp [taken, left]

theorem upcoming_append (actions : List SinkAction) (first second : Nat) :
    upcoming actions (first + second) =
      upcoming actions first ++ upcoming (actions.drop first) second := by
  induction first generalizing actions with
  | zero => simp [upcoming]
  | succ first ih =>
      rw [Nat.succ_add, upcoming, upcoming, ih, List.cons_append, List.drop_tail]

theorem mishap?_of_mem_upcoming_nil {calls : Nat} :
    ∀ call ∈ upcoming [] calls, call.mishap? = none := by
  induction calls with
  | zero => simp [upcoming]
  | succ calls ih => simpa [upcoming, mishap?] using ih

theorem verdict_eq_ok_iff {calls : List SinkAction} :
    verdict calls = .ok () ↔ ∀ call ∈ calls, call.mishap? = none := by
  rw [verdict, ← List.findSome?_eq_none_iff]
  split <;> simp [*]

theorem verdict_append {first second : List SinkAction} (hfirst : verdict first = .ok ()) :
    verdict (first ++ second) = verdict second := by
  rw [verdict_eq_ok_iff, ← List.findSome?_eq_none_iff] at hfirst
  rw [verdict, verdict, List.findSome?_append, hfirst, Option.none_or]

theorem mem_panics_of_verdict {calls : List SinkAction}
    (hverdict : verdict calls = .error .panicked) : .panics ∈ calls := by
  rw [verdict] at hverdict
  split at hverdict
  · cases hverdict
  next hfound =>
    cases hverdict
    obtain ⟨call, hcall, hmishap⟩ := List.exists_of_findSome?_eq_some hfound
    cases call with
    | all => cases hmishap
    | upTo count => simp [mishap?] at hmishap
    | fails kind => simp [mishap?] at hmishap
    | panics => exact hcall

end SinkAction

namespace Sink

open SinkAction (upcoming verdict)

/-- What the next write call does. -/
def nextCall (sink : Sink) : SinkAction :=
  sink.writes.headD .all

/-- One call after the other: a mishap ends the writing, and else the next call gets what this
one has left. -/
theorem writeAll_of_ne_nil (sink : Sink) {bytes : Bytes} (hne : bytes ≠ []) :
    sink.writeAll bytes =
      match sink.nextCall.mishap? with
      | some mishap => (.error mishap, sink.accept [])
      | none => (sink.accept (sink.nextCall.taken bytes)).writeAll (sink.nextCall.left bytes) := by
  obtain ⟨byte, more, rfl⟩ := List.exists_cons_of_ne_nil hne
  rw [writeAll, nextCall]
  split
  next hwrites => simp [hwrites, SinkAction.mishap?, SinkAction.taken, SinkAction.left]
  next hwrites => simp [hwrites, SinkAction.mishap?, SinkAction.taken, SinkAction.left]
  next hwrites => simp [hwrites, SinkAction.mishap?]
  next hwrites => simp [hwrites, SinkAction.mishap?, SinkAction.taken, SinkAction.left]
  next kind _ hwrites =>
    by_cases hkind : kind = .interrupted <;>
      simp [hwrites, hkind, SinkAction.mishap?, SinkAction.taken, SinkAction.left]
  next hwrites => simp [hwrites, SinkAction.mishap?]

/-- Each call uses up an action. Behind the last one a call takes all that is left. -/
theorem writeAll_induction {holds : Sink → Bytes → Prop} (nil : ∀ sink, holds sink [])
    (stopped : ∀ sink bytes mishap, bytes ≠ [] → sink.nextCall.mishap? = some mishap →
      holds sink bytes)
    (goesOn : ∀ sink bytes, bytes ≠ [] → sink.nextCall.mishap? = none →
      holds (sink.accept (sink.nextCall.taken bytes)) (sink.nextCall.left bytes) →
      holds sink bytes)
    (sink : Sink) (bytes : Bytes) : holds sink bytes := by
  -- A disturbed call leaves all bytes, so they need not get fewer; the actions do.
  induction hwrites : sink.writes generalizing sink bytes with
  | nil =>
      by_cases hne : bytes = []
      · exact hne ▸ nil sink
      · have hall : sink.nextCall = .all := by simp [nextCall, hwrites]
        apply goesOn sink bytes hne
        · rw [hall]
          rfl
        · rw [hall]
          exact nil _
  | cons action rest ih =>
      by_cases hne : bytes = []
      · exact hne ▸ nil sink
      · cases hmishap : sink.nextCall.mishap? with
        | some mishap => exact stopped sink bytes mishap hne hmishap
        | none => exact goesOn sink bytes hne hmishap (ih _ _ (by simp [accept, hwrites]))

/-! ## Calls -/

/-- A sink after some write calls that took some bytes in all. -/
structure Calls (before : Sink) (calls : List SinkAction) (piece : Bytes) (after : Sink) :
    Prop where
  calls_eq : calls = upcoming before.writes calls.length
  data_eq : after.data.toList = before.data.toList ++ piece
  writes_eq : after.writes = before.writes.drop calls.length
  writeCalls_eq : after.writeCalls = before.writeCalls + calls.length

variable {before middle after sink : Sink} {first second calls : List SinkAction}
variable {front back piece more bytes : Bytes} {result : Except Mishap Unit}

namespace Calls

theorem nil (sink : Sink) : sink.Calls [] [] sink := by
  constructor <;> simp [upcoming]

theorem accept (sink : Sink) (bytes : Bytes) :
    sink.Calls [sink.nextCall] bytes (sink.accept bytes) := by
  constructor <;> simp [upcoming, nextCall, Sink.accept]

theorem trans (hfirst : before.Calls first front middle)
    (hsecond : middle.Calls second back after) :
    before.Calls (first ++ second) (front ++ back) after where
  calls_eq := by
    rw [List.length_append, SinkAction.upcoming_append, ← hfirst.calls_eq, ← hfirst.writes_eq,
      ← hsecond.calls_eq]
  data_eq := by rw [hsecond.data_eq, hfirst.data_eq, List.append_assoc]
  writes_eq := by rw [hsecond.writes_eq, hfirst.writes_eq, List.drop_drop, List.length_append]
  writeCalls_eq := by
    rw [hsecond.writeCalls_eq, hfirst.writeCalls_eq, List.length_append, Nat.add_assoc]

end Calls

/-- What writing all of some bytes comes to: it goes on to the first mishap, and without one
to the end of the bytes. -/
structure Written (before : Sink) (bytes : Bytes) (calls : List SinkAction) (piece : Bytes)
    (result : Except Mishap Unit) (after : Sink) : Prop extends
    before.Calls calls piece after where
  flushes_eq : after.flushes = before.flushes
  flushCalls_eq : after.flushCalls = before.flushCalls
  isPrefix : piece <+: bytes
  result_eq : result = verdict calls
  whole_iff : piece = bytes ↔ result = .ok ()
  panics_of_mem : .panics ∈ calls → result = .error .panicked

namespace Written

theorem nil (sink : Sink) : sink.Written [] [] [] (.ok ()) sink where
  toCalls := Calls.nil sink
  flushes_eq := rfl
  flushCalls_eq := rfl
  isPrefix := List.prefix_rfl
  result_eq := rfl
  whole_iff := iff_of_true rfl rfl
  panics_of_mem := by simp

theorem stopped {mishap : Mishap} (hne : bytes ≠ [])
    (hmishap : sink.nextCall.mishap? = some mishap) :
    sink.Written bytes [sink.nextCall] [] (.error mishap) (sink.accept []) where
  toCalls := Calls.accept sink []
  flushes_eq := rfl
  flushCalls_eq := rfl
  isPrefix := List.nil_prefix
  result_eq := by simp [verdict, hmishap]
  whole_iff := by simpa using hne.symm
  panics_of_mem hpanics := by
    rw [← List.mem_singleton.mp hpanics] at hmishap
    cases hmishap
    rfl

/-- A call without a mishap goes on with what it has left. -/
theorem goesOn (hmishap : before.nextCall.mishap? = none)
    (hrest : (before.accept (before.nextCall.taken bytes)).Written (before.nextCall.left bytes)
      calls piece result after) :
    before.Written bytes (before.nextCall :: calls) (before.nextCall.taken bytes ++ piece)
      result after where
  toCalls := (Calls.accept before _).trans hrest.toCalls
  flushes_eq := hrest.flushes_eq
  flushCalls_eq := hrest.flushCalls_eq
  isPrefix := by
    have hprefix := (List.prefix_append_right_inj (before.nextCall.taken bytes)).mpr hrest.isPrefix
    rwa [before.nextCall.taken_append_left] at hprefix
  result_eq := by
    have hfirst : verdict [before.nextCall] = .ok () := by simp [verdict, hmishap]
    rw [hrest.result_eq, ← SinkAction.verdict_append hfirst]
    rfl
  whole_iff := by
    have hcancel := List.append_cancel_left_eq (before.nextCall.taken bytes) piece
      (before.nextCall.left bytes)
    rw [← hrest.whole_iff, ← hcancel, before.nextCall.taken_append_left]
  panics_of_mem hpanics := by
    rcases List.mem_cons.mp hpanics with hhead | hmem
    · rw [← hhead] at hmishap
      cases hmishap
    · exact hrest.panics_of_mem hmem

/-- Bytes written behind others of which none was lost. -/
theorem append (hfirst : before.Written front first piece (.ok ()) middle)
    (hsecond : middle.Written back second more result after) :
    before.Written (front ++ back) (first ++ second) (front ++ more) result after := by
  obtain rfl : piece = front := hfirst.whole_iff.mpr rfl
  refine ⟨hfirst.toCalls.trans hsecond.toCalls, hsecond.flushes_eq.trans hfirst.flushes_eq,
    hsecond.flushCalls_eq.trans hfirst.flushCalls_eq, ?_, ?_, ?_, ?_⟩
  · simpa using hsecond.isPrefix
  · rw [hsecond.result_eq, SinkAction.verdict_append hfirst.result_eq.symm]
  · rw [← hsecond.whole_iff, List.append_cancel_left_eq]
  · intro hpanics
    rcases List.mem_append.mp hpanics with hmem | hmem
    · cases hfirst.panics_of_mem hmem
    · exact hsecond.panics_of_mem hmem

/-- Bytes of which some were lost, and others that would have followed them. -/
theorem cut {mishap : Mishap} (hfirst : before.Written front calls piece (.error mishap) after)
    (back : Bytes) : before.Written (front ++ back) calls piece (.error mishap) after where
  toCalls := hfirst.toCalls
  flushes_eq := hfirst.flushes_eq
  flushCalls_eq := hfirst.flushCalls_eq
  isPrefix := hfirst.isPrefix.trans (List.prefix_append front back)
  result_eq := hfirst.result_eq
  whole_iff := by
    have hlost : piece ≠ front := by simp [hfirst.whole_iff]
    refine iff_of_false (fun hwhole => hlost ?_) (by simp)
    have hfront : front <+: piece := hwhole ▸ List.prefix_append front back
    exact hfirst.isPrefix.eq_of_length_le hfront.length_le
  panics_of_mem := hfirst.panics_of_mem

end Written

theorem exists_written (sink : Sink) (bytes : Bytes) :
    ∃ calls piece, sink.Written bytes calls piece (sink.writeAll bytes).1
      (sink.writeAll bytes).2 := by
  induction sink, bytes using writeAll_induction with
  | nil sink =>
      rw [writeAll_nil]
      exact ⟨[], [], Written.nil sink⟩
  | stopped sink bytes mishap hne hmishap =>
      rw [writeAll_of_ne_nil sink hne, hmishap]
      exact ⟨_, _, Written.stopped hne hmishap⟩
  | goesOn sink bytes hne hmishap ih =>
      obtain ⟨calls, piece, hwritten⟩ := ih
      rw [writeAll_of_ne_nil sink hne, hmishap]
      exact ⟨_, _, Written.goesOn hmishap hwritten⟩

/-! ## Lines -/

/-- What printing a text comes to: a beginning of its line is taken. It is the whole line, and
is flushed once, if no call had a mishap. -/
structure Printed (before : Sink) (text : String) (calls : List SinkAction) (piece : Bytes)
    (panicked : Bool) (after : Sink) : Prop extends before.Calls calls piece after where
  isPrefix : piece <+: Text.utf8 text ++ [0x0A]
  whole_iff : piece = Text.utf8 text ++ [0x0A] ↔ ∀ call ∈ calls, call.mishap? = none
  flushCalls_eq : after.flushCalls =
    before.flushCalls + if piece = Text.utf8 text ++ [0x0A] then 1 else 0
  flushes_eq : after.flushes =
    if piece = Text.utf8 text ++ [0x0A] then before.flushes.tail else before.flushes
  panicked_iff : panicked = true ↔ .panics ∈ calls ∨
    piece = Text.utf8 text ++ [0x0A] ∧ before.flushes.head? = some .panics

/-- A line is its text and then its end, and is flushed if none of both was lost. -/
theorem exists_written_line (sink : Sink) (text : String) :
    ∃ calls piece result after,
      sink.Written (Text.utf8 text ++ [0x0A]) calls piece result after ∧
      sink.line text = match result with
        | .ok () => after.flush
        | .error mishap => (.error mishap, after) := by
  obtain ⟨first, piece, hfirst⟩ := sink.exists_written (Text.utf8 text)
  rw [line]
  rcases hbody : sink.writeAll (Text.utf8 text) with ⟨result, middle⟩
  rw [hbody] at hfirst
  cases result with
  | error mishap => exact ⟨first, piece, .error mishap, middle, hfirst.cut [0x0A], rfl⟩
  | ok done =>
      obtain ⟨second, more, hsecond⟩ := middle.exists_written [0x0A]
      refine ⟨_, _, _, _, hfirst.append hsecond, ?_⟩
      dsimp only
      rcases middle.writeAll [0x0A] with ⟨result, after⟩
      cases result <;> rfl

theorem flush_eq_panicked_iff (sink : Sink) :
    sink.flush.1 = .error .panicked ↔ sink.flushes.head? = some .panics := by
  rw [flush]
  cases sink.flushes with
  | nil => simp
  | cons action rest => cases action <;> simp

theorem exists_printed (sink : Sink) (text : String) :
    ∃ calls piece, sink.Printed text calls piece
      (decide ((sink.line text).1 = .error .panicked)) (sink.line text).2 := by
  obtain ⟨calls, piece, result, after, hwritten, hline⟩ := sink.exists_written_line text
  refine ⟨calls, piece, ?_⟩
  have hwhole : piece = Text.utf8 text ++ [0x0A] ↔ ∀ call ∈ calls, call.mishap? = none := by
    rw [hwritten.whole_iff, hwritten.result_eq, SinkAction.verdict_eq_ok_iff]
  rw [hline]
  -- Only a line that was taken whole is flushed.
  cases result with
  | ok done =>
      have hpiece := hwritten.whole_iff.mpr rfl
      have hcalls := hwritten.toCalls
      refine ⟨⟨hcalls.calls_eq, hcalls.data_eq, hcalls.writes_eq, hcalls.writeCalls_eq⟩,
        hwritten.isPrefix, hwhole, ?_, ?_, ?_⟩
      · rw [if_pos hpiece, ← hwritten.flushCalls_eq]
        rfl
      · rw [if_pos hpiece, ← hwritten.flushes_eq]
        rfl
      · have hnone : .panics ∉ calls := fun hmem => by cases hwritten.panics_of_mem hmem
        rw [decide_eq_true_iff, flush_eq_panicked_iff, hwritten.flushes_eq]
        simp [hnone, hpiece]
  | error mishap =>
      have hpiece : piece ≠ Text.utf8 text ++ [0x0A] := by simp [hwritten.whole_iff]
      refine ⟨hwritten.toCalls, hwritten.isPrefix, hwhole, ?_, ?_, ?_⟩
      · rw [if_neg hpiece, hwritten.flushCalls_eq]
        rfl
      · rw [if_neg hpiece, hwritten.flushes_eq]
      · rw [decide_eq_true_iff]
        constructor
        · intro hpanicked
          cases hpanicked
          exact .inl (SinkAction.mem_panics_of_verdict hwritten.result_eq.symm)
        · rintro (hmem | ⟨heq, -⟩)
          · exact hwritten.panics_of_mem hmem
          · exact absurd heq hpiece

end Sink

end LineGreeting
