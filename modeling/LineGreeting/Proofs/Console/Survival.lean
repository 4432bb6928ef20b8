import LineGreeting.Proofs.Console.Taking
import Mathlib.Logic.Function.Basic

/-! # Consoles survive their sinks

Several consoles may print on one sink, which stands behind a lock. What goes wrong on a line
ends this line and nothing else: what has been taken stays, nothing is taken twice, and the
next line finds the sink as a new console would. Also a panic leaves no trace but a poisoned
lock, and whoever takes the lock next takes the sink all the same.
-/

namespace LineGreeting

namespace Sink

variable {sink other : Sink} {bytes : Bytes}

/-! ## Disturbed calls -/

/-- The same sink if its write calls were not disturbed. -/
def undisturbed (sink : Sink) : Sink :=
  { sink with writes := sink.writes.filter (· ≠ .fails .interrupted) }

/-- Two sinks that differ in nothing but the calls that are disturbed in the first one. -/
structure Disturbs (sink other : Sink) : Prop where
  writes_eq : other.writes = sink.writes.filter (· ≠ .fails .interrupted)
  data_eq : other.data = sink.data
  flushes_eq : other.flushes = sink.flushes
  flushCalls_eq : other.flushCalls = sink.flushCalls

theorem disturbs_undisturbed (sink : Sink) : sink.Disturbs sink.undisturbed :=
  ⟨rfl, rfl, rfl, rfl⟩

theorem filter_of_headD_ne {actions : List SinkAction}
    (hhead : actions.headD .all ≠ .fails .interrupted) :
    (actions.filter (· ≠ .fails .interrupted)).headD .all = actions.headD .all ∧
      (actions.filter (· ≠ .fails .interrupted)).tail =
        actions.tail.filter (· ≠ .fails .interrupted) := by
  cases actions with
  | nil => exact ⟨rfl, rfl⟩
  | cons action rest =>
      rw [List.headD_cons] at hhead
      simp [hhead]

namespace Disturbs

/-- A disturbed call takes nothing, and leaves all for the next one. -/
theorem accept_nil (hdisturbs : sink.Disturbs other)
    (hcall : sink.nextCall = .fails .interrupted) : (sink.accept []).Disturbs other where
  writes_eq := by
    rw [hdisturbs.writes_eq, accept]
    cases hwrites : sink.writes with
    | nil => simp [nextCall, hwrites] at hcall
    | cons action rest =>
        simp only [nextCall, hwrites, List.headD_cons] at hcall
        simp [hcall]
  data_eq := by simp [hdisturbs.data_eq, accept]
  flushes_eq := hdisturbs.flushes_eq
  flushCalls_eq := hdisturbs.flushCalls_eq

theorem nextCall_eq (hdisturbs : sink.Disturbs other)
    (hcall : sink.nextCall ≠ .fails .interrupted) : other.nextCall = sink.nextCall := by
  rw [nextCall, nextCall, hdisturbs.writes_eq]
  exact (filter_of_headD_ne hcall).1

theorem accept (hdisturbs : sink.Disturbs other) (hcall : sink.nextCall ≠ .fails .interrupted)
    (bytes : Bytes) : (sink.accept bytes).Disturbs (other.accept bytes) where
  writes_eq := by
    rw [Sink.accept, Sink.accept, hdisturbs.writes_eq]
    exact (filter_of_headD_ne hcall).2
  data_eq := by rw [Sink.accept, Sink.accept, hdisturbs.data_eq]
  flushes_eq := hdisturbs.flushes_eq
  flushCalls_eq := hdisturbs.flushCalls_eq

theorem writeAll (hdisturbs : sink.Disturbs other) (bytes : Bytes) :
    (other.writeAll bytes).1 = (sink.writeAll bytes).1 ∧
      (sink.writeAll bytes).2.Disturbs (other.writeAll bytes).2 := by
  induction sink, bytes using writeAll_induction generalizing other with
  | nil sink =>
      rw [writeAll_nil, writeAll_nil]
      exact ⟨rfl, hdisturbs⟩
  | stopped sink bytes mishap hne hmishap =>
      have hcall : sink.nextCall ≠ .fails .interrupted := by
        rintro hcall
        rw [hcall] at hmishap
        cases hmishap
      rw [writeAll_of_ne_nil sink hne, writeAll_of_ne_nil other hne, hdisturbs.nextCall_eq hcall,
        hmishap]
      exact ⟨rfl, hdisturbs.accept hcall []⟩
  | goesOn sink bytes hne hmishap ih =>
      rw [writeAll_of_ne_nil sink hne, hmishap]
      -- Where the sink is disturbed, the other one has no such call and stays where it is.
      by_cases hcall : sink.nextCall = .fails .interrupted
      · rw [hcall] at ih ⊢
        exact ih (hdisturbs.accept_nil hcall)
      · rw [writeAll_of_ne_nil other hne, hdisturbs.nextCall_eq hcall, hmishap]
        exact ih (hdisturbs.accept hcall _)

theorem flush (hdisturbs : sink.Disturbs other) :
    other.flush.1 = sink.flush.1 ∧ sink.flush.2.Disturbs other.flush.2 := by
  refine ⟨?_, hdisturbs.writes_eq, hdisturbs.data_eq, ?_, ?_⟩
  · rw [Sink.flush, Sink.flush, hdisturbs.flushes_eq]
  · rw [Sink.flush, Sink.flush, hdisturbs.flushes_eq]
  · rw [Sink.flush, Sink.flush, hdisturbs.flushCalls_eq]

/-- Disturbed calls show in no line. -/
theorem line (hdisturbs : sink.Disturbs other) (text : String) :
    (other.line text).1 = (sink.line text).1 ∧
      (sink.line text).2.Disturbs (other.line text).2 := by
  obtain ⟨hresult, hnext⟩ := hdisturbs.writeAll (Text.utf8 text)
  rw [Sink.line, Sink.line]
  rcases hfirst : sink.writeAll (Text.utf8 text) with ⟨result, middle⟩
  rcases hother : other.writeAll (Text.utf8 text) with ⟨result', middle'⟩
  rw [hfirst, hother] at hresult hnext
  obtain rfl : result' = result := hresult
  cases result' with
  | error mishap => exact ⟨rfl, hnext⟩
  | ok done =>
      obtain ⟨hresult, hlast⟩ := Disturbs.writeAll hnext [0x0A]
      dsimp only at hresult hlast ⊢
      rcases hend : middle.writeAll [0x0A] with ⟨result, last⟩
      rcases hend' : middle'.writeAll [0x0A] with ⟨result', last'⟩
      rw [hend, hend'] at hresult hlast
      obtain rfl : result' = result := hresult
      cases result' with
      | error mishap => exact ⟨rfl, hlast⟩
      | ok done => exact Disturbs.flush hlast

end Disturbs

/-! ## Sinks with a past -/

/-- A sink of which nothing is known but what it will do. -/
def renewed (sink : Sink) : Sink where
  writes := sink.writes
  flushes := sink.flushes

/-- A sink with the past of another one in front of its own. -/
def behind (sink past : Sink) : Sink :=
  { sink with
    data := past.data ++ sink.data
    writeCalls := past.writeCalls + sink.writeCalls
    flushCalls := past.flushCalls + sink.flushCalls }

theorem behind_renewed (sink : Sink) : sink.renewed.behind sink = sink := by
  simp [behind, renewed]

theorem accept_behind (sink past : Sink) (bytes : Bytes) :
    (sink.behind past).accept bytes = (sink.accept bytes).behind past := by
  have hdata : (past.data ++ sink.data).appendList bytes =
      past.data ++ sink.data.appendList bytes := Array.toList_inj.mp (by simp)
  simp only [behind, accept, hdata, Nat.add_assoc]

theorem writeAll_behind (sink past : Sink) (bytes : Bytes) :
    (sink.behind past).writeAll bytes =
      ((sink.writeAll bytes).1, (sink.writeAll bytes).2.behind past) := by
  induction sink, bytes using writeAll_induction with
  | nil sink => rw [writeAll_nil, writeAll_nil]
  | stopped sink bytes mishap hne hmishap =>
      have hcall : (sink.behind past).nextCall = sink.nextCall := rfl
      rw [writeAll_of_ne_nil sink hne, writeAll_of_ne_nil _ hne, hcall, hmishap]
      dsimp only
      rw [accept_behind]
  | goesOn sink bytes hne hmishap ih =>
      have hcall : (sink.behind past).nextCall = sink.nextCall := rfl
      rw [writeAll_of_ne_nil sink hne, writeAll_of_ne_nil _ hne, hcall, hmishap]
      dsimp only
      rw [accept_behind, ih]

/-- What has been printed before has no say in a line. -/
theorem line_behind (sink past : Sink) (text : String) :
    (sink.behind past).line text = ((sink.line text).1, (sink.line text).2.behind past) := by
  rw [line, line, writeAll_behind]
  rcases sink.writeAll (Text.utf8 text) with ⟨result, middle⟩
  cases result with
  | error mishap => rfl
  | ok done =>
      dsimp only
      rw [writeAll_behind]
      rcases middle.writeAll [0x0A] with ⟨result, last⟩
      cases result <;> rfl

/-- What printing some texts comes to, line by line. Each text stands with whether its caller
saw a panic. -/
inductive Lines : Sink → List (String × Bool) → List Bytes → Sink → Prop
  | nil (sink : Sink) : Lines sink [] [] sink
  | cons {before middle after : Sink} {text : String} {calls : List SinkAction} {piece : Bytes}
      {panicked : Bool} {lines : List (String × Bool)} {pieces : List Bytes}
      (hline : before.Printed text calls piece panicked middle)
      (hlines : Lines middle lines pieces after) :
      Lines before ((text, panicked) :: lines) (piece :: pieces) after

theorem Lines.data_eq {before after : Sink} {lines : List (String × Bool)} {pieces : List Bytes}
    (hlines : before.Lines lines pieces after) :
    after.data.toList = before.data.toList ++ pieces.flatten := by
  induction hlines with
  | nil sink => exact (List.append_nil _).symm
  | cons hline _ ih => rw [ih, hline.data_eq, List.flatten_cons, List.append_assoc]

end Sink

/-! ## Consoles and their locks -/

/-- A sink behind a lock. The lock is poisoned once someone has panicked who held it. -/
structure Guarded where
  sink : Sink
  poisoned : Bool := false

namespace Guarded

/-- Takes the lock. Of a poisoned one the sink comes as a complaint. -/
def lock (guarded : Guarded) : Except Sink Sink :=
  if guarded.poisoned then .error guarded.sink else .ok guarded.sink

/-- The sink in either case. -/
def recovered : Except Sink Sink → Sink
  | .ok sink => sink
  | .error sink => sink

/-- Prints a line and says whether the caller sees a panic. It sees nothing else. -/
def line (guarded : Guarded) (text : String) : Bool × Guarded :=
  let (result, sink) := (recovered guarded.lock).line text
  let panicked := decide (result = .error .panicked)
  (panicked, ⟨sink, guarded.poisoned || panicked⟩)

@[simp] theorem recovered_lock (guarded : Guarded) : recovered guarded.lock = guarded.sink := by
  rw [lock]
  split <;> rfl

theorem panicked_line (guarded : Guarded) (text : String) :
    (guarded.line text).1 = decide ((guarded.sink.line text).1 = .error .panicked) := by
  rw [line, recovered_lock]

theorem sink_line (guarded : Guarded) (text : String) :
    (guarded.line text).2.sink = (guarded.sink.line text).2 := by
  rw [line, recovered_lock]

end Guarded

/-- A console prints on the sink at some place, and so do its clones. -/
inductive Console where
  | on (place : Nat)
  | clone (console : Console)

/-- Where the sink of a console is. -/
def Console.place : Console → Nat
  | on place => place
  | clone console => console.place

/-- The sinks of a program, each at its place. -/
abbrev Sinks := Nat → Guarded

namespace Sinks

variable {sinks others : Sinks}

/-- The sinks after a text has been printed on a console. -/
def print (sinks : Sinks) (console : Console) (text : String) : Sinks :=
  Function.update sinks console.place ((sinks console.place).line text).2

/-- Prints some texts, each on a console, and says of each whether its caller sees a panic. -/
def prints (sinks : Sinks) : List (Console × String) → List Bool × Sinks
  | [] => ([], sinks)
  | (console, text) :: calls =>
    let (seen, last) := prints (sinks.print console text) calls
    (((sinks console.place).line text).1 :: seen, last)

/-- The texts printed on one sink, each with what its caller saw. -/
def linesAt (place : Nat) : List (Console × String) → List Bool → List (String × Bool)
  | (console, text) :: calls, panicked :: seen =>
    if console.place = place then (text, panicked) :: linesAt place calls seen
    else linesAt place calls seen
  | _, _ => []

/-- The same sinks if their write calls were not disturbed. -/
def undisturbed (sinks : Sinks) : Sinks :=
  fun place => { sinks place with sink := (sinks place).sink.undisturbed }

/-- New consoles on sinks that will do the same. -/
def renewed (sinks : Sinks) : Sinks :=
  fun place => { sink := (sinks place).sink.renewed }

theorem print_self (sinks : Sinks) (console : Console) (text : String) :
    (sinks.print console text console.place).sink =
      ((sinks console.place).sink.line text).2 := by
  rw [print, Function.update_self, Guarded.sink_line]

theorem print_of_ne (sinks : Sinks) {console : Console} {place : Nat}
    (hplace : place ≠ console.place) (text : String) :
    sinks.print console text place = sinks place :=
  Function.update_of_ne hplace _ _

theorem prints_append (sinks : Sinks) (first later : List (Console × String)) :
    sinks.prints (first ++ later) =
      ((sinks.prints first).1 ++ ((sinks.prints first).2.prints later).1,
        ((sinks.prints first).2.prints later).2) := by
  induction first generalizing sinks with
  | nil => rfl
  | cons call first ih =>
      obtain ⟨console, text⟩ := call
      rw [List.cons_append, prints, prints, ih]
      rfl

theorem length_prints (sinks : Sinks) (calls : List (Console × String)) :
    (sinks.prints calls).1.length = calls.length := by
  induction calls generalizing sinks with
  | nil => rfl
  | cons call calls ih =>
      obtain ⟨console, text⟩ := call
      rw [prints, List.length_cons, List.length_cons, ih]

/-- A line on one sink is none on the others. -/
theorem exists_lines (sinks : Sinks) (calls : List (Console × String)) (place : Nat) :
    ∃ pieces, (sinks place).sink.Lines (linesAt place calls (sinks.prints calls).1) pieces
      ((sinks.prints calls).2 place).sink := by
  induction calls generalizing sinks with
  | nil => exact ⟨[], .nil _⟩
  | cons call calls ih =>
      obtain ⟨console, text⟩ := call
      obtain ⟨pieces, hlines⟩ := ih (sinks.print console text)
      by_cases hplace : console.place = place
      · subst hplace
        obtain ⟨made, piece, hline⟩ := (sinks console.place).sink.exists_printed text
        rw [← Guarded.panicked_line] at hline
        rw [print_self] at hlines
        refine ⟨piece :: pieces, ?_⟩
        rw [prints, linesAt, if_pos rfl]
        exact .cons hline hlines
      · rw [print_of_ne sinks (Ne.symm hplace)] at hlines
        refine ⟨pieces, ?_⟩
        rw [prints, linesAt, if_neg hplace]
        exact hlines

/-- Sinks that print each line alike print all lines alike. -/
theorem prints_alike {alike : Nat → Sink → Sink → Prop}
    (hline : ∀ place sink other text, alike place sink other →
      (other.line text).1 = (sink.line text).1 ∧
        alike place (sink.line text).2 (other.line text).2)
    (halike : ∀ place, alike place (sinks place).sink (others place).sink)
    (calls : List (Console × String)) :
    (others.prints calls).1 = (sinks.prints calls).1 ∧
      ∀ place, alike place ((sinks.prints calls).2 place).sink
        ((others.prints calls).2 place).sink := by
  induction calls generalizing sinks others with
  | nil => exact ⟨rfl, halike⟩
  | cons call calls ih =>
      obtain ⟨console, text⟩ := call
      obtain ⟨hresult, hnext⟩ := hline _ _ _ text (halike console.place)
      have hseen : ((others console.place).line text).1 = ((sinks console.place).line text).1 := by
        rw [Guarded.panicked_line, Guarded.panicked_line, hresult]
      have hprint : ∀ place, alike place (sinks.print console text place).sink
          (others.print console text place).sink := by
        intro place
        by_cases hplace : place = console.place
        · subst hplace
          rw [print_self, print_self]
          exact hnext
        · rw [print_of_ne sinks hplace, print_of_ne others hplace]
          exact halike place
      obtain ⟨hrest, hlast⟩ := ih hprint
      rw [prints, prints]
      exact ⟨List.cons_eq_cons.mpr ⟨hseen, hrest⟩, hlast⟩

theorem prints_renewed (sinks : Sinks) (calls : List (Console × String)) :
    (sinks.prints calls).1 = (sinks.renewed.prints calls).1 ∧
      ∀ place, ((sinks.prints calls).2 place).sink =
        ((sinks.renewed.prints calls).2 place).sink.behind (sinks place).sink := by
  refine @prints_alike sinks.renewed sinks
    (fun place sink other => other = sink.behind (sinks place).sink) ?_ ?_ calls
  · rintro place sink _ text rfl
    rw [Sink.line_behind]
    exact ⟨rfl, rfl⟩
  · exact fun place => (sinks place).sink.behind_renewed.symm

/-- Whatever sinks do, each line leaves a beginning of itself on its sink, which is the whole
of it and flushed once if no call had a mishap. A caller sees nothing but a panic of a call
made for its own line. Disturbed calls make no difference, and what was printed before makes
none to a line: new consoles would print it alike. -/
theorem mishaps_end_one_line (sinks : Sinks) (calls : List (Console × String)) :
    (sinks.prints calls).1.length = calls.length ∧
    (∀ place, ∃ pieces,
      (sinks place).sink.Lines (linesAt place calls (sinks.prints calls).1) pieces
        ((sinks.prints calls).2 place).sink ∧
      ((sinks.prints calls).2 place).sink.data.toList =
        (sinks place).sink.data.toList ++ pieces.flatten) ∧
    ((sinks.undisturbed.prints calls).1 = (sinks.prints calls).1 ∧
      ∀ place, (((sinks.undisturbed.prints calls).2 place).sink.data =
          ((sinks.prints calls).2 place).sink.data ∧
        ((sinks.undisturbed.prints calls).2 place).sink.flushCalls =
          ((sinks.prints calls).2 place).sink.flushCalls)) ∧
    ∀ first later, calls = first ++ later →
      (sinks.prints calls).1 =
        (sinks.prints first).1 ++ ((sinks.prints first).2.renewed.prints later).1 ∧
      ∀ place, ((sinks.prints calls).2 place).sink =
        (((sinks.prints first).2.renewed.prints later).2 place).sink.behind
          ((sinks.prints first).2 place).sink := by
  refine ⟨sinks.length_prints calls, ?_, ?_, ?_⟩
  · intro place
    obtain ⟨pieces, hlines⟩ := sinks.exists_lines calls place
    exact ⟨pieces, hlines, hlines.data_eq⟩
  · obtain ⟨hseen, hlast⟩ := @prints_alike sinks sinks.undisturbed (fun _ => Sink.Disturbs)
      (fun _ _ _ text hdisturbs => hdisturbs.line text)
      (fun place => (sinks place).sink.disturbs_undisturbed) calls
    exact ⟨hseen, fun place => ⟨(hlast place).data_eq, (hlast place).flushCalls_eq⟩⟩
  · rintro first later rfl
    obtain ⟨hseen, hlast⟩ := (sinks.prints first).2.prints_renewed later
    rw [prints_append, hseen]
    exact ⟨rfl, hlast⟩

/-- A sink that takes a line in two parts and is disturbed in between, fails to flush it,
panics at the newline of the next one and takes nothing of the third. -/
def moodySinks : Sinks := fun _ =>
  { sink := {
      writes := [.upTo 2, .fails .interrupted, .all, .all, .all, .panics, .upTo 0]
      flushes := [.fails .other] } }

def moodyCalls : List (Console × String) :=
  [(.on 0, "abc"), (.clone (.on 0), "de"), (.on 0, ""), (.clone (.clone (.on 0)), "f")]

theorem mishaps_end_one_line_moodySinks :
    (moodySinks.prints moodyCalls).1 = [false, true, false, false] ∧
    ((moodySinks.undisturbed.prints moodyCalls).2 0).sink.data.toList =
      Text.utf8 "abc\ndef\n" ∧
    ((moodySinks.undisturbed.prints moodyCalls).2 0).sink.flushCalls = 2 ∧
    moodyCalls = moodyCalls.take 2 ++ moodyCalls.drop 2 ∧
    ((moodySinks.prints (moodyCalls.take 2)).2.renewed.prints (moodyCalls.drop 2)).1 =
      [false, false] := by
  have hseen : (moodySinks.prints moodyCalls).1 = [false, true, false, false] := by
    decide +kernel
  have hfirst : (moodySinks.prints (moodyCalls.take 2)).1 = [false, true] := by decide +kernel
  obtain ⟨-, -, ⟨-, hundisturbed⟩, hfresh⟩ := mishaps_end_one_line moodySinks moodyCalls
  obtain ⟨hdata, hflushes⟩ := hundisturbed 0
  obtain ⟨hlater, -⟩ := hfresh _ _ (List.take_append_drop 2 moodyCalls).symm
  refine ⟨hseen, ?_, ?_, (List.take_append_drop 2 moodyCalls).symm, ?_⟩
  · rw [hdata]
    decide +kernel
  · rw [hflushes]
    decide +kernel
  · rw [hseen, hfirst] at hlater
    exact (@List.append_cancel_left _ [false, true] _ _ hlater).symm

end Sinks

end LineGreeting
