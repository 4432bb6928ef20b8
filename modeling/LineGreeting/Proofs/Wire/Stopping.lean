import LineGreeting.Proofs.Wire.RoundTrip

/-! # Lines written up to a stop

A writer may stop inside a text, at its newline or between two lines. Of the lines it
is given it takes what comes before this point, in whatever portions, and no byte more. A line
that ends before the point is flushed once, and its result is that of its flush; every other
line fails for the reason why the writer has stopped.
-/

namespace LineGreeting.Wire

namespace Barrier

/-- What comes of some bytes before a writer stops, if it stops anywhere. -/
def inFront (barrier : Option Barrier) (bytes : Bytes) : Bytes :=
  match barrier with
  | none => bytes
  | some stop => bytes.take stop.position

/-- What comes of the last line of some bytes: its result, and how many flushes have been
asked for then. -/
def outcome (barrier : Option Barrier) (bytes : Bytes) (flushFault : Option Fault)
    (flushes : Nat) : Except Fault Unit × Nat :=
  if inFront barrier bytes = bytes then (failWith flushFault, flushes + 1)
  else (.error ((barrier.bind fault).getD .writeZero), flushes)

variable {barrier : Option Barrier} {bytes : Bytes}

theorem inFront_eq_self_iff :
    inFront barrier bytes = bytes ↔
      ∀ stop, barrier = some stop → bytes.length ≤ stop.position := by
  cases barrier <;> simp [inFront]

end Barrier

namespace Writer

open Barrier (inFront outcome)

/-- A writer that has been given some bytes from its first on. -/
structure Given (barrier : Option Barrier) (bytes : Bytes) (writer : Writer) : Prop extends
    writer.Steady where
  barrier_eq : writer.barrier = barrier
  taken_eq : writer.taken.toList = inFront barrier bytes

variable {barrier : Option Barrier} {bytes line : Bytes} {writer other : Writer}

namespace Given

theorem size_taken {stop : Barrier} (hgiven : Given (some stop) bytes writer) :
    writer.taken.size = min stop.position bytes.length := by
  rw [← Array.length_toList, hgiven.taken_eq]
  exact List.length_take

theorem inFront_append (hgiven : Given barrier bytes writer) (line : Bytes) :
    inFront barrier (bytes ++ line) = writer.taken.toList ++ writer.accepts line := by
  rw [hgiven.taken_eq, accepts, hgiven.barrier_eq]
  cases barrier with
  | none => rfl
  | some stop =>
      have hroom : stop.position - writer.taken.size = stop.position - bytes.length := by
        have hsize := hgiven.size_taken
        omega
      simp only [inFront, List.take_append, hroom]

/-- A line is taken as a whole if it ends before the stop. Behind the stop there is no room for
its newline, so the bytes given before do not matter. -/
theorem accepts_eq_self_iff (hgiven : Given barrier bytes writer) (hline : line ≠ []) :
    writer.accepts line = line ↔ inFront barrier (bytes ++ line) = bytes ++ line := by
  have hlength := List.length_pos_of_ne_nil hline
  rw [accepts, hgiven.barrier_eq]
  cases barrier with
  | none => exact iff_of_true rfl rfl
  | some stop =>
      have hsize := hgiven.size_taken
      simp only [inFront, List.take_eq_self_iff, List.length_append]
      omega

theorem writeLine (hgiven : Given barrier bytes writer) (text : String) :
    Given barrier (bytes ++ encodeLine text) (writer.writeLine text).2 ∧
      ((writer.writeLine text).1, (writer.writeLine text).2.flushes) =
        outcome barrier (bytes ++ encodeLine text) writer.flushFault writer.flushes := by
  have hline : encodeLine text ≠ [] := by simp [encodeLine]
  obtain ⟨taken, calls, htaken, heq⟩ := hgiven.toSteady.writeLine_eq text
  rw [← hgiven.inFront_append] at htaken
  by_cases hwhole : writer.accepts (encodeLine text) = encodeLine text
  · rw [heq, if_pos hwhole, outcome, if_pos ((hgiven.accepts_eq_self_iff hline).mp hwhole)]
    exact ⟨⟨⟨hgiven.grain_ne_zero⟩, hgiven.barrier_eq, htaken⟩, rfl⟩
  · have hcut := mt (hgiven.accepts_eq_self_iff hline).mpr hwhole
    have hstop : writer.stopFault = (barrier.bind Barrier.fault).getD .writeZero := by
      rw [stopFault, hgiven.barrier_eq]
    rw [heq, if_neg hwhole, outcome, if_neg hcut, hstop]
    exact ⟨⟨⟨hgiven.grain_ne_zero⟩, hgiven.barrier_eq, htaken⟩, rfl⟩

end Given

/-! ## Many lines -/

/-- Writes some texts, each as a line, to a writer whose flushes have faults of their own. -/
def writeLinesFlushing (flushFaults : Nat → Option Fault) (writer : Writer) :
    List String → List (Except Fault Unit) × Writer
  | [] => ([], writer)
  | text :: rest =>
    let line := { writer with flushFault := flushFaults writer.flushes }.writeLine text
    let lines := writeLinesFlushing flushFaults line.2 rest
    (line.1 :: lines.1, lines.2)

variable {flushFaults : Nat → Option Fault}

theorem writeLinesFlushing_concat (writer : Writer) (texts : List String) (text : String) :
    let before := writeLinesFlushing flushFaults writer texts
    let line := { before.2 with flushFault := flushFaults before.2.flushes }.writeLine text
    writeLinesFlushing flushFaults writer (texts ++ [text]) = (before.1 ++ [line.1], line.2) := by
  induction texts generalizing writer with
  | nil => rfl
  | cons first texts ih => simp only [List.cons_append, writeLinesFlushing, ih]

/-- A writer with the same fault for all flushes. -/
theorem writeLinesFlushing_const (hwriter : writer.Steady) (texts : List String) :
    writeLinesFlushing (fun _ => writer.flushFault) writer texts = writer.writeLines texts := by
  induction texts generalizing writer with
  | nil => rfl
  | cons text texts ih =>
      obtain ⟨taken, calls, -, hline⟩ := hwriter.writeLine_eq text
      have hnext : (writer.writeLine text).2.flushFault = writer.flushFault := by
        rw [hline]
        split <;> rfl
      have hsteady : (writer.writeLine text).2.Steady := by
        rw [hline]
        split <;> exact ⟨hwriter.grain_ne_zero⟩
      have hrest := ih hsteady
      rw [hnext] at hrest
      have hlines : writer.writeLines (text :: texts) =
          ((writer.writeLine text).1 :: ((writer.writeLine text).2.writeLines texts).1,
            ((writer.writeLine text).2.writeLines texts).2) := rfl
      rw [hlines, ← hrest]
      rfl

namespace Given

/-- What is flushed does not matter for the bytes. -/
theorem flushing (hgiven : Given barrier bytes writer) (flushFault : Option Fault) :
    Given barrier bytes { writer with flushFault } :=
  ⟨⟨hgiven.grain_ne_zero⟩, hgiven.barrier_eq, hgiven.taken_eq⟩

theorem writeLinesFlushing (hgiven : Given barrier bytes writer) (texts : List String) :
    Given barrier (bytes ++ texts.flatMap encodeLine)
      (Writer.writeLinesFlushing flushFaults writer texts).2 := by
  induction texts generalizing bytes writer with
  | nil => simpa [Writer.writeLinesFlushing] using hgiven
  | cons text texts ih =>
      have hline := ((hgiven.flushing (flushFaults writer.flushes)).writeLine text).1
      rw [List.flatMap_cons, ← List.append_assoc]
      exact ih hline

/-- Two writers that stop at the same point are told apart by no result, whatever they take
with each call. -/
theorem writeLinesFlushing_alike (hgiven : Given barrier bytes writer)
    (hother : Given barrier bytes other) (hflushes : other.flushes = writer.flushes)
    (texts : List String) :
    (Writer.writeLinesFlushing flushFaults other texts).1 =
        (Writer.writeLinesFlushing flushFaults writer texts).1 ∧
      (Writer.writeLinesFlushing flushFaults other texts).2.flushes =
        (Writer.writeLinesFlushing flushFaults writer texts).2.flushes := by
  induction texts generalizing bytes writer other with
  | nil => exact ⟨rfl, hflushes⟩
  | cons text texts ih =>
      obtain ⟨hnext, houtcome⟩ :=
        (hgiven.flushing (flushFaults writer.flushes)).writeLine text
      obtain ⟨hnext', houtcome'⟩ :=
        (hother.flushing (flushFaults other.flushes)).writeLine text
      rw [hflushes] at hnext' houtcome'
      obtain ⟨hresult, hcount⟩ := Prod.mk.inj (houtcome'.trans houtcome.symm)
      obtain ⟨hresults, hlast⟩ := ih hnext hnext' hcount
      rw [Writer.writeLinesFlushing, Writer.writeLinesFlushing, hflushes]
      exact ⟨List.cons_eq_cons.mpr ⟨hresult, hresults⟩, hlast⟩

end Given

/-- Whatever texts are written to a writer, it takes what comes before the point where it
stops and nothing else. The result of a line that ends before this point is that of its flush,
also if an earlier flush has failed; any other line is not flushed, and its result is why the
writer has stopped. How much is taken with each call makes no difference. -/
theorem writeLinesFlushing_stops {grain : Nat → Option Nat} {barrier : Option Barrier}
    (hgrain : ∀ call, grain call ≠ some 0) (flushFaults : Nat → Option Fault)
    (texts : List String) (text : String) :
    let total := (texts ++ [text]).flatMap encodeLine
    let before := writeLinesFlushing flushFaults { grain, barrier } texts
    let after := writeLinesFlushing flushFaults { grain, barrier } (texts ++ [text])
    ∃ result, after.1 = before.1 ++ [result] ∧
      (barrier = none → after.2.taken.toList = total) ∧
      (∀ stop, barrier = some stop → after.2.taken.toList = total.take stop.position) ∧
      ((∀ stop, barrier = some stop → total.length ≤ stop.position) →
        result = failWith (flushFaults before.2.flushes) ∧
        after.2.flushes = before.2.flushes + 1) ∧
      (∀ stop, barrier = some stop → stop.position < total.length →
        result = .error (stop.fault.getD .writeZero) ∧
        after.2.flushes = before.2.flushes) ∧
      ∀ other : Nat → Option Nat, (∀ call, other call ≠ some 0) →
        let alike := writeLinesFlushing flushFaults { grain := other, barrier } (texts ++ [text])
        alike.1 = after.1 ∧ alike.2.taken = after.2.taken ∧
          alike.2.flushes = after.2.flushes := by
  intro total before after
  have hnew (grain : Nat → Option Nat) (hgrain : ∀ call, grain call ≠ some 0) :
      Given barrier [] { grain, barrier } :=
    ⟨⟨hgrain⟩, rfl, by cases barrier <;> simp [inFront]⟩
  have hgiven : Given barrier (texts.flatMap encodeLine) before.2 :=
    (hnew grain hgrain).writeLinesFlushing texts
  -- What was given before the last text is fixed, so that text alone decides about its line.
  obtain ⟨hline, houtcome⟩ := (hgiven.flushing (flushFaults before.2.flushes)).writeLine text
  have htotal : texts.flatMap encodeLine ++ encodeLine text = total := by simp [total]
  rw [htotal] at hline houtcome
  let line := { before.2 with flushFault := flushFaults before.2.flushes }.writeLine text
  have hafter : after = (before.1 ++ [line.1], line.2) := writeLinesFlushing_concat _ texts text
  refine ⟨line.1, congrArg Prod.fst hafter, ?_, ?_, ?_, ?_, ?_⟩
  · rintro rfl
    rw [hafter]
    exact hline.taken_eq
  · rintro stop rfl
    rw [hafter]
    exact hline.taken_eq
  · intro hwhole
    rw [outcome, if_pos (Barrier.inFront_eq_self_iff.mpr hwhole)] at houtcome
    rw [hafter]
    exact Prod.mk.inj houtcome
  · rintro stop rfl hcut
    rw [outcome, if_neg] at houtcome
    · rw [hafter]
      exact Prod.mk.inj houtcome
    · intro hwhole
      exact absurd (Barrier.inFront_eq_self_iff.mp hwhole stop rfl) (Nat.not_le.mpr hcut)
  · intro other hother
    obtain ⟨hresults, hflushes⟩ :=
      (hnew grain hgrain).writeLinesFlushing_alike (hnew other hother) rfl (texts ++ [text])
    refine ⟨hresults, ?_, hflushes⟩
    rw [← Array.toList_inj, ((hnew other hother).writeLinesFlushing _).taken_eq,
      ((hnew grain hgrain).writeLinesFlushing _).taken_eq]

/-- The first flush fails. -/
def sampleFlushFaults (flush : Nat) : Option Fault :=
  if flush = 0 then some (.system .brokenPipe) else none

theorem writeLinesFlushing_stops_sampleGrain :
    (∀ call, sampleGrain call ≠ some 0) ∧
    (writeLinesFlushing sampleFlushFaults
        { grain := sampleGrain, barrier := some ⟨5, none⟩ } ["a", "č", "x"]).1 =
      [.error (.system .brokenPipe), .ok (), .error .writeZero] ∧
    (writeLinesFlushing sampleFlushFaults
        { grain := sampleGrain, barrier := some ⟨5, none⟩ } ["a", "č", "x"]).2.taken.toList =
      Text.utf8 "a\nč\n" := by
  have hgrain (call : Nat) : sampleGrain call ≠ some 0 := by simp [sampleGrain]
  have hstops := @writeLinesFlushing_stops sampleGrain (some ⟨5, none⟩) hgrain sampleFlushFaults
  obtain ⟨_, hfirst, -, -, hflushed, -⟩ := hstops [] "a"
  obtain ⟨rfl, hone⟩ := hflushed (by rintro _ ⟨⟩; decide +kernel)
  obtain ⟨_, hsecond, -, -, hflushed, -⟩ := hstops ["a"] "č"
  obtain ⟨rfl, -⟩ := hflushed (by rintro _ ⟨⟩; decide +kernel)
  obtain ⟨_, hthird, -, htaken, -, hstopped, -⟩ := hstops ["a", "č"] "x"
  obtain ⟨rfl, -⟩ := hstopped _ rfl (by decide +kernel)
  refine ⟨hgrain, ?_, ?_⟩
  · rw [List.nil_append] at hfirst hone
    refine hthird.trans ?_
    dsimp only [List.cons_append, List.nil_append] at hsecond
    rw [hsecond, hfirst, hone]
    rfl
  · refine (htaken _ rfl).trans ?_
    decide +kernel

end Writer

end LineGreeting.Wire
