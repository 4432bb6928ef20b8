import LineGreeting.Wire.Writer
import Mathlib.Data.List.TakeDrop

/-! # What a writer takes

A writer that takes something with each call takes all it is given up to the
point where it stops, if it stops anywhere. How much it takes at a time shows
neither in the bytes nor in the result.
-/

namespace LineGreeting.Wire.Writer

/-- A writer that takes something with each call until it stops. -/
structure Steady (writer : Writer) : Prop where
  grain_ne_zero : ∀ call, writer.grain call ≠ some 0

/-- What a writer takes of some bytes. -/
def accepts (writer : Writer) (bytes : Bytes) : Bytes :=
  match writer.barrier with
  | none => bytes
  | some barrier => bytes.take (barrier.position - writer.taken.size)

/-- Why a writer does not take more. -/
def stopFault (writer : Writer) : Fault :=
  ((writer.barrier.bind Barrier.fault).getD .writeZero)

/-- What comes of writing all of some bytes. -/
def verdict (writer : Writer) (bytes : Bytes) : Except Fault Unit :=
  if writer.accepts bytes = bytes then .ok () else .error writer.stopFault

variable {writer : Writer}

/-- Before it stops, a steady writer takes at least one byte and at most those up to
the point where it stops. -/
theorem Steady.grant_cases (hwriter : writer.Steady) :
    (writer.barrier = none ∧ (writer.grant = .all ∨ ∃ count, writer.grant = .upTo (count + 1))) ∨
    ∃ barrier, writer.barrier = some barrier ∧
      (barrier.position ≤ writer.taken.size ∧
          writer.grant = (barrier.fault.map Grant.refused).getD (.upTo 0) ∨
        ∃ count, writer.taken.size + count < barrier.position ∧
          writer.grant = .upTo (count + 1)) := by
  cases hbarrier : writer.barrier with
  | none =>
      refine .inl ⟨rfl, ?_⟩
      rw [grant, hbarrier]
      cases hgrain : writer.grain writer.calls with
      | none => exact .inl rfl
      | some count =>
          obtain ⟨count, rfl⟩ := Nat.exists_eq_succ_of_ne_zero
            (fun hzero => hwriter.grain_ne_zero writer.calls (hzero ▸ hgrain))
          exact .inr ⟨count, rfl⟩
  | some barrier =>
      refine .inr ⟨barrier, rfl, ?_⟩
      rw [grant, hbarrier]
      cases hbefore : barrier.position - writer.taken.size with
      | zero =>
          refine .inl ⟨by omega, ?_⟩
          cases hfault : barrier.fault <;> simp [hbefore, hfault]
      | succ before =>
          right
          cases hgrain : writer.grain writer.calls with
          | none => exact ⟨before, by omega, by simp [hbefore]⟩
          | some count =>
              obtain ⟨count, rfl⟩ := Nat.exists_eq_succ_of_ne_zero
                (fun hzero => hwriter.grain_ne_zero writer.calls (hzero ▸ hgrain))
              exact ⟨min count before, by omega, by simp [hbefore]⟩

theorem Steady.barrier_of_grant_all (hwriter : writer.Steady) (hgrant : writer.grant = .all) :
    writer.barrier = none := by
  rcases hwriter.grant_cases with ⟨hnone, _⟩ | ⟨barrier, _, ⟨_, hcall⟩ | ⟨_, _, hcall⟩⟩
  · exact hnone
  · rw [hgrant] at hcall
    cases hfault : barrier.fault <;> simp [hfault] at hcall
  · rw [hgrant] at hcall
    cases hcall

theorem Steady.position_of_grant_succ {count : Nat} (hwriter : writer.Steady)
    (hgrant : writer.grant = .upTo (count + 1)) {barrier : Barrier}
    (hbarrier : writer.barrier = some barrier) :
    writer.taken.size + count < barrier.position := by
  rcases hwriter.grant_cases with ⟨hnone, _⟩ | ⟨found, hsome, ⟨_, hcall⟩ | ⟨_, hless, hcall⟩⟩
  · rw [hbarrier] at hnone
    cases hnone
  · rw [hgrant] at hcall
    cases hfault : found.fault <;> simp [hfault] at hcall
  · rw [hbarrier] at hsome
    rw [hgrant] at hcall
    cases hsome
    cases hcall
    exact hless

/-- A call that takes nothing is made where the writer has stopped. -/
theorem Steady.stopped_of_grant {call : Grant} (hwriter : writer.Steady)
    (hgrant : writer.grant = call) (hall : call ≠ .all)
    (hsome : ∀ count, call ≠ .upTo (count + 1)) :
    (∀ bytes, writer.accepts bytes = []) ∧
      ∃ barrier, writer.barrier = some barrier ∧
        call = (barrier.fault.map Grant.refused).getD (.upTo 0) := by
  subst hgrant
  rcases hwriter.grant_cases with
    ⟨_, hcall | ⟨_, hcall⟩⟩ | ⟨barrier, hbarrier, ⟨hstop, hcall⟩ | ⟨_, _, hcall⟩⟩
  · exact absurd hcall hall
  · exact absurd hcall (hsome _)
  · refine ⟨?_, barrier, hbarrier, hcall⟩
    intro bytes
    rw [accepts, hbarrier]
    simp [Nat.sub_eq_zero_of_le hstop]
  · exact absurd hcall (hsome _)

theorem Steady.stopFault_of_grant_zero (hwriter : writer.Steady)
    (hgrant : writer.grant = .upTo 0) :
    (∀ bytes, writer.accepts bytes = []) ∧ writer.stopFault = .writeZero := by
  obtain ⟨hnone, barrier, hbarrier, hcall⟩ := hwriter.stopped_of_grant hgrant (by simp) (by simp)
  refine ⟨hnone, ?_⟩
  rw [stopFault, hbarrier]
  cases hfault : barrier.fault <;> simp [hfault] at hcall ⊢

theorem Steady.stopFault_of_grant_refused {fault : Fault} (hwriter : writer.Steady)
    (hgrant : writer.grant = .refused fault) :
    (∀ bytes, writer.accepts bytes = []) ∧ writer.stopFault = fault := by
  obtain ⟨hnone, barrier, hbarrier, hcall⟩ := hwriter.stopped_of_grant hgrant (by simp) (by simp)
  cases hfault : barrier.fault with
  | none => simp [hfault] at hcall
  | some found =>
      simp only [hfault, Option.map_some, Option.getD_some, Grant.refused.injEq] at hcall
      subst hcall
      exact ⟨hnone, by simp [stopFault, hbarrier, hfault]⟩

theorem Steady.accept (hwriter : writer.Steady) (bytes : Bytes) :
    (writer.accept bytes).Steady :=
  ⟨hwriter.grain_ne_zero⟩

@[simp] theorem toList_taken_accept (bytes : Bytes) :
    (writer.accept bytes).taken.toList = writer.taken.toList ++ bytes := by
  simp [Writer.accept]

@[simp] theorem size_taken_accept (bytes : Bytes) :
    (writer.accept bytes).taken.size = writer.taken.size + bytes.length := by
  rw [← Array.length_toList, toList_taken_accept, List.length_append, Array.length_toList]

/-- Bytes that come before the stop are taken, and the next call goes on behind them. -/
theorem accepts_append {front : Bytes} (back : Bytes)
    (hfront : ∀ barrier, writer.barrier = some barrier →
      writer.taken.size + front.length ≤ barrier.position) :
    writer.accepts (front ++ back) = front ++ (writer.accept front).accepts back := by
  have hsame : (writer.accept front).barrier = writer.barrier := rfl
  rw [accepts, accepts, hsame]
  cases hbarrier : writer.barrier with
  | none => rfl
  | some barrier =>
      have hroom := hfront barrier hbarrier
      dsimp only
      rw [size_taken_accept, List.take_append, List.take_of_length_le (by omega), Nat.sub_sub]

theorem verdict_append {front : Bytes} (back : Bytes)
    (hfront : ∀ barrier, writer.barrier = some barrier →
      writer.taken.size + front.length ≤ barrier.position) :
    writer.verdict (front ++ back) = (writer.accept front).verdict back := by
  rw [verdict, verdict, accepts_append back hfront, stopFault, stopFault]
  simp only [List.append_cancel_left_eq]
  rfl

theorem verdict_of_accepts {bytes : Bytes} (haccepts : writer.accepts bytes = bytes) :
    writer.verdict bytes = .ok () :=
  if_pos haccepts

theorem verdict_of_not_accepts {byte : UInt8} {more : Bytes}
    (hnone : ∀ bytes, writer.accepts bytes = []) :
    writer.verdict (byte :: more) = .error writer.stopFault := by
  rw [verdict, hnone, if_neg (List.cons_ne_nil byte more).symm]

/-- A steady writer takes the bytes up to where it stops, and says whether these are
all. Nothing else about it changes. -/
theorem Steady.writeAll_eq (hwriter : writer.Steady) (bytes : Bytes) :
    ∃ taken calls, writer.writeAll bytes = (writer.verdict bytes, { writer with taken, calls }) ∧
      taken.toList = writer.taken.toList ++ writer.accepts bytes := by
  -- Call by call: only one that takes a part is followed by another.
  fun_induction writeAll writer bytes with
  | case1 writer =>
      have hnil : writer.accepts [] = [] := by
        rw [accepts]
        split <;> simp
      refine ⟨writer.taken, writer.calls, ?_, ?_⟩
      · rw [verdict_of_accepts hnil]
      · rw [hnil, List.append_nil]
  | case2 writer byte more hgrant =>
      have hall : writer.accepts (byte :: more) = byte :: more := by
        rw [accepts, hwriter.barrier_of_grant_all hgrant]
      refine ⟨_, _, by rw [verdict_of_accepts hall]; rfl, ?_⟩
      rw [hall]
      exact toList_taken_accept _
  | case3 writer byte more hgrant =>
      obtain ⟨hnone, hfault⟩ := hwriter.stopFault_of_grant_zero hgrant
      refine ⟨_, _, by rw [verdict_of_not_accepts hnone, hfault]; rfl, ?_⟩
      rw [hnone]
      exact toList_taken_accept _
  | case4 writer byte more count hgrant ih =>
      have hsplit : byte :: more = (byte :: more.take count) ++ more.drop count := by
        rw [List.cons_append, List.take_append_drop]
      have hroom : ∀ barrier, writer.barrier = some barrier →
          writer.taken.size + (byte :: more.take count).length ≤ barrier.position := by
        intro barrier hbarrier
        have hless := hwriter.position_of_grant_succ hgrant hbarrier
        rw [List.length_cons, List.length_take]
        omega
      obtain ⟨taken, calls, heq, htaken⟩ := ih (hwriter.accept _)
      refine ⟨taken, calls, ?_, ?_⟩
      · rw [heq, hsplit, verdict_append _ hroom]
        rfl
      · rw [htaken, hsplit, accepts_append _ hroom, ← List.append_assoc, toList_taken_accept]
  | case5 writer byte more fault hgrant =>
      obtain ⟨hnone, hfault⟩ := hwriter.stopFault_of_grant_refused hgrant
      refine ⟨_, _, by rw [verdict_of_not_accepts hnone, hfault]; rfl, ?_⟩
      rw [hnone]
      exact toList_taken_accept _

theorem accepts_isPrefix (writer : Writer) (bytes : Bytes) : writer.accepts bytes <+: bytes := by
  rw [accepts]
  split
  · exact List.prefix_rfl
  · exact List.take_prefix _ _

/-- A line is flushed once if all of it is taken, and else not at all. -/
theorem Steady.writeLine_eq (hwriter : writer.Steady) (text : String) :
    ∃ taken calls, taken.toList = writer.taken.toList ++ writer.accepts (encodeLine text) ∧
      writer.writeLine text =
        if writer.accepts (encodeLine text) = encodeLine text then
          (failWith writer.flushFault,
            { writer with taken, calls, flushes := writer.flushes + 1 })
        else (.error writer.stopFault, { writer with taken, calls }) := by
  obtain ⟨taken, calls, heq, htaken⟩ := hwriter.writeAll_eq (encodeLine text)
  refine ⟨taken, calls, htaken, ?_⟩
  rw [writeLine, heq, verdict]
  by_cases hall : writer.accepts (encodeLine text) = encodeLine text
  · rw [if_pos hall, if_pos hall]
    rfl
  · rw [if_neg hall, if_neg hall]

theorem accepts_of_barrier_eq_none (hbarrier : writer.barrier = none) (bytes : Bytes) :
    writer.accepts bytes = bytes := by
  rw [accepts, hbarrier]

/-- A writer that stops nowhere takes a text as a line. -/
theorem writeLine_eq_ok (hgrain : ∀ call, writer.grain call ≠ some 0)
    (hbarrier : writer.barrier = none) (hflush : writer.flushFault = none) (text : String) :
    ∃ taken calls, taken.toList = writer.taken.toList ++ encodeLine text ∧
      writer.writeLine text =
        (.ok (), { writer with taken, calls, flushes := writer.flushes + 1 }) := by
  have hsteady : writer.Steady := ⟨hgrain⟩
  have hall := accepts_of_barrier_eq_none hbarrier (encodeLine text)
  obtain ⟨taken, calls, htaken, hline⟩ := hsteady.writeLine_eq text
  rw [hall] at htaken
  refine ⟨taken, calls, htaken, ?_⟩
  rw [hline, if_pos hall, hflush]
  rfl

end LineGreeting.Wire.Writer
