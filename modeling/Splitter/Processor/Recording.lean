import Splitter.Lib.Simulation
import Splitter.Processor.Drain

/-!
# A Range that records its life

`RecordingRange`, the Range that comes with the processor: a task that `new` spawns initializes it
after a delay, another one that `drain` spawns ends the drain, and each of them, `drain` and `close`
write a line to a log. The two tasks run beside `run_grant`, and the driver and the user act on the
ownership.

`recorded_refines`: a processor task with this Range does nothing that a task with a user's Range
could not do, where this Range never closes itself. `recorded_lifecycle`: the log tells the life of
the grant in its order.
-/

namespace Splitter

namespace RecordingRange

/-- A task that sleeps, writes its line and closes its latch. -/
inductive Sleeper
  | sleeping
  | logged
  | done
  deriving DecidableEq

/-- A line of the log. -/
inductive Line
  | initialized
  | drainStart
  | drainDone
  | closed
  deriving DecidableEq

def Line.msg : Line → String
  | .initialized => "initialized"
  | .drainStart => "drain start"
  | .drainDone => "drain done"
  | .closed => "closed"

/-- What a call of `drain` leaves behind. -/
structure Drain where
  timeout : Duration
  /-- How long its task sleeps. -/
  delay : Duration
  done : Latch
  task : Sleeper
  deriving DecidableEq

end RecordingRange

structure RecordingRange where
  initialized : Latch
  closed : Latch
  drainDelay : Duration
  label : String
  /-- The lines this Range has written to the log it shares with others. -/
  log : List RecordingRange.Line
  /-- The task that `new` spawns. -/
  init : RecordingRange.Sleeper
  /-- The drain; `run_grant` calls it once. -/
  drained : Option RecordingRange.Drain
  deriving DecidableEq

namespace RecordingRange

def new (label : String) (drainDelay : Duration) : RecordingRange :=
  { initialized := .new, closed := .new, drainDelay, label, log := [], init := .sleeping
    drained := none }

/-- The lines as they stand in the log. -/
def lines (r : RecordingRange) : List String := r.log.map fun line => r.label ++ " " ++ line.msg

/-- A step of the task that `new` spawns. -/
def stepInit (r : RecordingRange) : Option RecordingRange :=
  match r.init with
  | .sleeping => some { r with init := .logged, log := r.log ++ [.initialized] }
  | .logged => some { r with init := .done, initialized := r.initialized.close }
  | .done => none

/-- `Range::drain`. -/
def drain (r : RecordingRange) (timeout : Duration) : RecordingRange :=
  { r with
    log := r.log ++ [.drainStart]
    drained := some
      { timeout, delay := if r.drainDelay.nanos ≤ timeout.nanos then r.drainDelay else timeout
        done := .new, task := .sleeping } }

/-- A step of the task that `drain` spawns. -/
def stepDrain (r : RecordingRange) : Option RecordingRange :=
  match r.drained with
  | none => none
  | some d =>
    match d.task with
    | .sleeping =>
      some { r with drained := some { d with task := .logged }, log := r.log ++ [.drainDone] }
    | .logged => some { r with drained := some { d with task := .done, done := d.done.close } }
    | .done => none

/-- `Range::close`. -/
def close (r : RecordingRange) : RecordingRange :=
  if r.closed.isClosed then r else { r with log := r.log ++ [.closed], closed := r.closed.close }

/-- What the processor sees of it. -/
def view (r : RecordingRange) : RangeState :=
  { initialized := r.initialized
    closed := r.closed
    drainCalled := r.drained.map (·.timeout)
    drainReturned := r.drained.isSome
    drained := (r.drained.map (·.done)).getD .new
    closeCalled := r.closed.isClosed }

end RecordingRange

/-- A processor task whose Range records its life. -/
structure RecordedTask where
  pc : GrantTask.Pc
  ownership : Ownership
  range : RecordingRange
  deriving DecidableEq

namespace RecordedTask

open Ownership (Branch)
open GrantTask (Pc Exit)
open RecordingRange (Line Sleeper)

inductive Event
  | signal (sig : Signal)
  /-- A step of `run_grant`. -/
  | run (b : Branch) (now : SystemTime)
  | stepInit
  | stepDrain

/-- The task as the processor has it. -/
def task (s : RecordedTask) : GrantTask :=
  { pc := s.pc, ownership := s.ownership, range := s.range.view }

/-- The Range after a step of `run_grant`, which calls it in step 5 and on its way out. -/
def called (s : RecordedTask) (now : SystemTime) : RecordingRange :=
  match s.pc with
  | .drain => s.range.drain (s.ownership.expiration.remaining now)
  | .close _ => s.range.close
  | _ => s.range

def step (s : RecordedTask) : Event → Option RecordedTask
  | .signal sig => some { s with ownership := sig.apply s.ownership }
  | .run b now =>
    (s.task.run b now).map fun t => { pc := t.pc, ownership := t.ownership, range := s.called now }
  | .stepInit => s.range.stepInit.map fun range => { s with range }
  | .stepDrain => s.range.stepDrain.map fun range => { s with range }

/-- The task starts in step 1 with the Range that its factory has built. -/
def machine : Machine RecordedTask Event where
  init s := s.pc = .waitUnload ∧ ∃ label drainDelay, s.range = .new label drainDelay
  step := step

/-! ## How far the Range has come -/

/-- How far a task has come with its Range when it bails out. -/
def exitRank : Exit → Nat
  | .step1 _ | .init _ | .closedDuringInit => 0
  | .step3 _ | .step4 _ => 1
  | .drain _ => 2
  | .closedAfterDrain | .finished _ => 3

/-- How far a task has come with its Range: it is initialized, its drain is called, it is
drained. -/
def rank : Pc → Nat
  | .waitUnload | .allocated | .waitInit => 0
  | .load | .loaded | .waitActive | .activate | .waitRevoke | .revoke | .drain => 1
  | .draining | .waitDrained => 2
  | .checkClosed | .unload | .unloaded | .waitLoad => 3
  | .delete exit | .close exit | .returned exit => exitRank exit

/-- The task has called `close`. -/
def isOver : Pc → Bool
  | .returned _ => true
  | _ => false

/-- The task does not bail out because its Range has closed itself. -/
def keptOpen : Pc → Prop
  | .delete exit | .close exit | .returned exit =>
    exit ≠ .closedDuringInit ∧ exit ≠ .closedAfterDrain
  | _ => True

end RecordedTask

namespace RecordingRange

/-- The lines of the tasks of a Range, by where they stand. -/
def written (r : RecordingRange) : List Line :=
  (if r.init = .sleeping then [] else [.initialized]) ++
    match r.drained with
    | none => []
    | some d => .drainStart :: if d.task = .sleeping then [] else [.drainDone]

end RecordingRange

namespace RecordedTask

open Ownership (Branch)
open GrantTask (Pc Exit)
open RecordingRange (Line Sleeper)

/-- What holds in every state of such a task. -/
structure Recorded (s : RecordedTask) : Prop where
  initialized : s.range.initialized.isClosed = true → s.range.init = .done
  taken : 1 ≤ rank s.pc → s.range.init = .done
  drain : s.range.drained.isSome = true ↔ 2 ≤ rank s.pc
  drained : ∀ d, s.range.drained = some d → d.done.isClosed = true → d.task = .done
  given : 3 ≤ rank s.pc → ∃ d, s.range.drained = some d ∧ d.task = .done
  closed : s.range.closed.isClosed = isOver s.pc
  kept : keptOpen s.pc
  log : s.range.log.filter (· ≠ .closed) = s.range.written
  close : s.range.log.count .closed = (isOver s.pc).toNat
  last : 3 ≤ rank s.pc → s.range.log =
    [.initialized, .drainStart, .drainDone] ++ List.replicate (isOver s.pc).toNat .closed

variable {s t : RecordedTask}

theorem Recorded.initial (h : machine.init s) : s.Recorded := by
  obtain ⟨pc, o, range⟩ := s
  obtain ⟨hpc, label, drainDelay, hrange⟩ := h
  cases hpc
  cases hrange
  have hrank : ¬ 1 ≤ rank .waitUnload := by decide
  exact
    { initialized := fun h => (by cases h)
      taken := fun h => absurd h hrank
      drain := ⟨fun h => (by cases h), fun h => absurd (Nat.le_of_succ_le h) hrank⟩
      drained := fun d h => (by cases h)
      given := fun h => absurd (Nat.le_trans (by decide) h) hrank
      closed := rfl
      kept := trivial
      log := rfl
      close := rfl
      last := fun h => absurd (Nat.le_trans (by decide) h) hrank }

/-- A step that calls nothing on the Range, and after which the task has come as far with it. -/
theorem Recorded.goto {pc : Pc} {o : Ownership} (h : s.Recorded) (hrank : rank pc = rank s.pc)
    (hover : isOver pc = isOver s.pc) (hkept : keptOpen pc) :
    Recorded { pc, ownership := o, range := s.range } :=
  { initialized := h.initialized
    taken := hrank ▸ h.taken
    drain := hrank ▸ h.drain
    drained := h.drained
    given := hrank ▸ h.given
    closed := hover ▸ h.closed
    kept := hkept
    log := h.log
    close := hover ▸ h.close
    last := hrank ▸ hover ▸ h.last }

/-- While no line says that it is closed, the log is what the tasks have written. -/
theorem Recorded.log_eq (h : s.Recorded) (hover : isOver s.pc = false) :
    s.range.log = s.range.written := by
  have hclose := h.close
  rw [hover] at hclose
  rw [← h.log, List.filter_eq_self.2]
  intro line hline
  refine decide_eq_true fun hclosed => ?_
  rw [hclosed] at hline
  exact absurd hclose (List.count_pos_iff.2 hline).ne'

/-- A Range whose tasks are done has written all their lines. -/
theorem written_of_done {r : RecordingRange} {d : RecordingRange.Drain} (hinit : r.init = .done)
    (hd : r.drained = some d) (hdone : d.task = .done) :
    r.written = [.initialized, .drainStart, .drainDone] := by
  simp [RecordingRange.written, hinit, hd, hdone]

/-- The Range is initialized before the task loads. -/
theorem Recorded.load (h : s.Recorded) (hpc : s.pc = .waitInit) (hinit : s.range.init = .done) :
    Recorded { s with pc := .load } := by
  have hrank : rank s.pc = 0 := by rw [hpc]; rfl
  have hover : isOver s.pc = false := by rw [hpc]; rfl
  have hdrain := h.drain
  have hclosed := h.closed
  have hclose := h.close
  rw [hrank] at hdrain
  rw [hover] at hclosed hclose
  exact
    { initialized := h.initialized
      taken := fun _ => hinit
      drain := hdrain.trans (show 2 ≤ 0 ↔ 2 ≤ 1 by decide)
      drained := h.drained
      given := fun h => absurd (show 3 ≤ 1 from h) (by decide)
      closed := hclosed
      kept := trivial
      log := h.log
      close := hclose
      last := fun h => absurd (show 3 ≤ 1 from h) (by decide) }

/-- `drain` writes its line, and its task starts to sleep. -/
theorem Recorded.callDrain (h : s.Recorded) (hpc : s.pc = .drain) (timeout : Duration) :
    Recorded { s with pc := .draining, range := s.range.drain timeout } := by
  have hrank : rank s.pc = 1 := by rw [hpc]; rfl
  have hover : isOver s.pc = false := by rw [hpc]; rfl
  have hinit : s.range.init = .done := h.taken (by rw [hrank])
  have hnone : s.range.drained = none := by
    have hdrain := h.drain
    rw [hrank] at hdrain
    exact Option.not_isSome_iff_eq_none.1 fun hsome => absurd (hdrain.1 hsome) (by decide)
  have hclosed := h.closed
  have hclose := h.close
  rw [hover] at hclosed hclose
  refine
    { initialized := h.initialized
      taken := fun _ => hinit
      drain := iff_of_true rfl (Nat.le_refl 2)
      drained := fun d hd hdone => ?_
      given := fun h => absurd (show 3 ≤ 2 from h) (by decide)
      closed := hclosed
      kept := trivial
      log := ?_
      close := ?_
      last := fun h => absurd (show 3 ≤ 2 from h) (by decide) }
  · cases hd
    cases hdone
  · show (s.range.log ++ [Line.drainStart]).filter (· ≠ .closed) = _
    rw [List.filter_append, h.log]
    simp [RecordingRange.written, RecordingRange.drain, hinit, hnone]
  · simp only [RecordingRange.drain, List.count_append, hclose]
    rfl

/-- The drain is done when the task goes on from it. -/
theorem Recorded.checkClosed {d : RecordingRange.Drain} (h : s.Recorded)
    (hpc : s.pc = .waitDrained) (hd : s.range.drained = some d) (hdone : d.task = .done) :
    Recorded { s with pc := .checkClosed } := by
  have hover : isOver s.pc = false := by rw [hpc]; rfl
  have hinit : s.range.init = .done := h.taken (by rw [hpc]; decide)
  have hclosed := h.closed
  have hclose := h.close
  rw [hover] at hclosed hclose
  exact
    { initialized := h.initialized
      taken := fun _ => hinit
      drain := iff_of_true (Option.isSome_of_eq_some hd) (show 2 ≤ 3 by decide)
      drained := h.drained
      given := fun _ => ⟨d, hd, hdone⟩
      closed := hclosed
      kept := trivial
      log := h.log
      close := hclose
      last := fun _ => (h.log_eq hover).trans (written_of_done hinit hd hdone) }

/-- `close` writes the last line of `run_grant`. -/
theorem Recorded.callClose {exit : Exit} (h : s.Recorded) (hpc : s.pc = .close exit) :
    Recorded { s with pc := .returned exit, range := s.range.close } := by
  have hrank : rank s.pc = rank (.returned exit) := by rw [hpc]; rfl
  have hover : isOver s.pc = false := by rw [hpc]; rfl
  have hkept := h.kept
  have hclosed := h.closed
  have hclose := h.close
  have hlast := h.last
  rw [hpc] at hkept
  rw [hover] at hclosed hclose hlast
  have hcall : s.range.close =
      { s.range with log := s.range.log ++ [.closed], closed := s.range.closed.close } :=
    if_neg (by rw [hclosed]; exact Bool.false_ne_true)
  rw [hcall]
  refine
    { initialized := h.initialized
      taken := hrank ▸ h.taken
      drain := hrank ▸ h.drain
      drained := h.drained
      given := hrank ▸ h.given
      closed := rfl
      kept := hkept
      log := ?_
      close := ?_
      last := fun hle => ?_ }
  · refine Eq.trans ?_ h.log
    simp
  · show List.count _ (s.range.log ++ [.closed]) = 1
    rw [List.count_append, hclose]
    rfl
  · rw [← hrank] at hle
    show s.range.log ++ [.closed] = _
    rw [hlast hle]
    rfl

/-- The task that `new` spawns goes on. -/
theorem Recorded.stepInit {range : RecordingRange} (h : s.Recorded)
    (hst : s.range.stepInit = some range) : Recorded { s with range } := by
  unfold RecordingRange.stepInit at hst
  split at hst
  · next hinit =>
    cases hst
    have hne : s.range.init ≠ .done := by rw [hinit]; decide
    have hrank : ¬ 1 ≤ rank s.pc := fun hle => hne (h.taken hle)
    have hnone : s.range.drained = none := Option.not_isSome_iff_eq_none.1 fun hsome =>
      hrank (Nat.le_of_succ_le (h.drain.1 hsome))
    refine
      { initialized := fun hi => absurd (h.initialized hi) hne
        taken := fun hle => absurd hle hrank
        drain := h.drain
        drained := h.drained
        given := h.given
        closed := h.closed
        kept := h.kept
        log := ?_
        close := ?_
        last := fun hle => absurd (Nat.le_trans (by decide) hle) hrank }
    · show (s.range.log ++ [Line.initialized]).filter (· ≠ .closed) = _
      rw [List.filter_append, h.log]
      simp [RecordingRange.written, hinit, hnone]
    · show List.count _ (s.range.log ++ [.initialized]) = _
      rw [List.count_append, h.close]
      rfl
  · next hinit =>
    cases hst
    refine
      { initialized := fun _ => rfl
        taken := fun _ => rfl
        drain := h.drain
        drained := h.drained
        given := h.given
        closed := h.closed
        kept := h.kept
        log := ?_
        close := h.close
        last := h.last }
    refine h.log.trans ?_
    simp [RecordingRange.written, hinit]
  · cases hst

/-- The task that `drain` spawns goes on. -/
theorem Recorded.stepDrain {range : RecordingRange} (h : s.Recorded)
    (hst : s.range.stepDrain = some range) : Recorded { s with range } := by
  unfold RecordingRange.stepDrain at hst
  split at hst
  · cases hst
  · next d hd =>
    split at hst
    · next htask =>
      cases hst
      have hrank : ¬ 3 ≤ rank s.pc := fun hle => by
        obtain ⟨d', hd', hdone⟩ := h.given hle
        cases hd.symm.trans hd'
        cases htask.symm.trans hdone
      have hsome : s.range.drained.isSome = true := Option.isSome_of_eq_some hd
      refine
        { initialized := h.initialized
          taken := h.taken
          drain := iff_of_true rfl (h.drain.1 hsome)
          drained := fun d' hd' hclosed => ?_
          given := fun hle => absurd hle hrank
          closed := h.closed
          kept := h.kept
          log := ?_
          close := ?_
          last := fun hle => absurd hle hrank }
      · cases hd'
        cases htask.symm.trans (h.drained d hd hclosed)
      · have hinit := h.taken (Nat.le_of_succ_le (h.drain.1 hsome))
        show (s.range.log ++ [Line.drainDone]).filter (· ≠ .closed) = _
        rw [List.filter_append, h.log]
        simp [RecordingRange.written, hinit, hd, htask]
      · show List.count _ (s.range.log ++ [.drainDone]) = _
        rw [List.count_append, h.close]
        rfl
    · next htask =>
      cases hst
      refine
        { initialized := h.initialized
          taken := h.taken
          drain := iff_of_true rfl (h.drain.1 (Option.isSome_of_eq_some hd))
          drained := fun d' hd' _ => ?_
          given := fun hle => ⟨_, rfl, rfl⟩
          closed := h.closed
          kept := h.kept
          log := ?_
          close := h.close
          last := h.last }
      · cases hd'
        rfl
      · refine h.log.trans ?_
        simp [RecordingRange.written, hd, htask]
    · cases hst

/-- A step of `run_grant`. -/
theorem Recorded.run {b : Branch} {now : SystemTime} {next : GrantTask} (h : s.Recorded)
    (hrun : s.task.run b now = some next) :
    Recorded { pc := next.pc, ownership := next.ownership, range := s.called now } := by
  have hopen : isOver s.pc = false → s.range.closed.isClosed ≠ true := fun hover => by
    rw [h.closed, hover]
    exact Bool.false_ne_true
  have hsame : (∀ exit, s.pc ≠ .close exit) → s.pc ≠ .drain → s.called now = s.range := by
    intro hclose hdrain
    unfold called
    split
    · next hpc => exact absurd hpc hdrain
    · next exit hpc => exact absurd hpc (hclose exit)
    · rfl
  cases GrantTask.run_cases hrun with
  | unloadOk hpc | unloadRevoked hpc | unloadExpired hpc | allocated hpc | initExpired hpc
  | load hpc | loaded hpc | activeOk hpc | activeRevoked hpc | activeExpired hpc | activate hpc
  | revokeOk hpc | revokeExpired hpc | revoke hpc | drainReturned hpc | drainedExpired hpc
  | openAfterDrain hpc | unload hpc | unloaded hpc | finish _ hpc =>
    have hpc : s.pc = _ := hpc
    rw [hsame (by rw [hpc]; exact fun _ h => by cases h) (by rw [hpc]; exact fun h => by cases h)]
    refine h.goto (by rw [hpc]; rfl) (by rw [hpc]; rfl) ?_
    first
      | trivial
      | exact ⟨fun h => (by cases h), fun h => (by cases h)⟩
  | @initClosed hpc hclosed =>
    have hpc : s.pc = .waitInit := hpc
    exact absurd hclosed (hopen (by rw [hpc]; rfl))
  | @closedAfterDrain hpc hclosed =>
    have hpc : s.pc = .checkClosed := hpc
    exact absurd hclosed (hopen (by rw [hpc]; rfl))
  | @initOk hpc hclosed =>
    have hpc : s.pc = .waitInit := hpc
    rw [hsame (by rw [hpc]; exact fun _ h => by cases h) (by rw [hpc]; exact fun h => by cases h)]
    exact h.load hpc (h.initialized hclosed)
  | @drain timeout hpc =>
    have hpc : s.pc = .drain := hpc
    rw [show s.called now = s.range.drain (s.ownership.expiration.remaining now) by
      simp only [called, hpc]]
    exact h.callDrain hpc _
  | @drainedOk hpc hclosed =>
    have hpc : s.pc = .waitDrained := hpc
    rw [hsame (by rw [hpc]; exact fun _ h => by cases h) (by rw [hpc]; exact fun h => by cases h)]
    obtain ⟨d, hd⟩ := Option.isSome_iff_exists.1 (h.drain.2 (by rw [hpc]; decide))
    have hdone : d.done.isClosed = true := by
      have hclosed : s.range.view.drained.isClosed = true := hclosed
      simp only [RecordingRange.view, hd, Option.map_some, Option.getD_some] at hclosed
      exact hclosed
    exact h.checkClosed hpc hd (h.drained d hd hdone)
  | @delete exit hpc =>
    have hpc : s.pc = .delete exit := hpc
    rw [hsame (by rw [hpc]; exact fun _ h => by cases h) (by rw [hpc]; exact fun h => by cases h)]
    have hkept := h.kept
    rw [hpc] at hkept
    exact h.goto (by rw [hpc]; rfl) (by rw [hpc]; rfl) hkept
  | @close exit hpc =>
    have hpc : s.pc = .close exit := hpc
    rw [show s.called now = s.range.close by simp only [called, hpc]]
    exact h.callClose hpc

theorem Recorded.step {e : Event} (h : s.Recorded) (hst : s.step e = some t) : t.Recorded := by
  cases e with
  | signal sig =>
    cases hst
    exact ⟨h.1, h.2, h.3, h.4, h.5, h.6, h.7, h.8, h.9, h.10⟩
  | run b now =>
    obtain ⟨next, hrun, rfl⟩ := Option.map_eq_some_iff.1 hst
    exact h.run hrun
  | stepInit =>
    obtain ⟨range, hrange, rfl⟩ := Option.map_eq_some_iff.1 hst
    exact h.stepInit hrange
  | stepDrain =>
    obtain ⟨range, hrange, rfl⟩ := Option.map_eq_some_iff.1 hst
    exact h.stepDrain hrange

/-! ## The refinement -/

/-- What a step is to a task with a user's Range. -/
def label (s : RecordedTask) : Event → List GrantTask.Event
  | .signal sig => [.signal sig]
  | .run b now =>
    match s.pc with
    | .drain => [.run b now, .range .drainReturn]
    | .close _ => [.run b now, .range .closeItself]
    | _ => [.run b now]
  | .stepInit => if s.range.init = .logged then [.range .initialized] else []
  | .stepDrain =>
    if (s.range.drained.map (·.task)) = some .logged then [.range .drainClose] else []

/-- `run_grant` calls nothing on its Range but `drain` and `close`. -/
theorem range_run {u v : GrantTask} {b : Branch} {now : SystemTime} (hrun : u.run b now = some v)
    (hdrain : u.pc ≠ .drain) (hclose : ∀ exit, u.pc ≠ .close exit) : v.range = u.range := by
  cases GrantTask.run_cases hrun with
  | drain _ hpc => exact absurd hpc hdrain
  | close hpc => exact absurd hpc (hclose _)
  | _ => rfl

/-- A step of `run_grant` is one of a task with a user's Range, with what the Range does at once
when it is called. -/
theorem task_run {b : Branch} {now : SystemTime} {next : GrantTask} (h : s.Recorded)
    (hrun : s.task.run b now = some next) :
    GrantTask.machine.run s.task (s.label (.run b now)) =
      some (RecordedTask.task
        { pc := next.pc, ownership := next.ownership, range := s.called now }) := by
  have hstep : GrantTask.machine.step s.task (.run b now) = some next := hrun
  by_cases hdrain : s.pc = .drain
  · have hnone : s.range.drained = none := Option.not_isSome_iff_eq_none.1 fun hsome =>
      absurd (h.drain.1 hsome) (by rw [hdrain]; decide)
    have hnext : next = { s.task with
        range := { s.task.range with
          drainCalled := some (s.ownership.expiration.remaining now) }, pc := .draining } := by
      simp only [GrantTask.run, task, hdrain] at hrun
      exact (GrantTask.straight_eq_some.1 hrun).2.symm
    simp only [label, hdrain]
    refine GrantTask.machine.run_cons_eq_some.2 ⟨next, hstep, ?_⟩
    subst hnext
    simp only [called, hdrain, task, RecordingRange.view, RecordingRange.drain, hnone]
    rfl
  · by_cases hclose : ∃ exit, s.pc = .close exit
    · obtain ⟨exit, hclose⟩ := hclose
      have hopen : s.range.closed.isClosed = false := by
        rw [h.closed, hclose]
        rfl
      have hnext : next = { s.task with
          range := { s.task.range with closeCalled := true }, pc := .returned exit } := by
        simp only [GrantTask.run, task, hclose] at hrun
        exact (GrantTask.straight_eq_some.1 hrun).2.symm
      simp only [label, hclose]
      refine GrantTask.machine.run_cons_eq_some.2 ⟨next, hstep, ?_⟩
      subst hnext
      simp only [called, hclose, task, RecordingRange.view, RecordingRange.close, hopen]
      rfl
    · have hclose : ∀ exit, s.pc ≠ .close exit := fun exit hpc => hclose ⟨exit, hpc⟩
      have hlabel : s.label (.run b now) = [.run b now] := by
        simp only [label]
      have hcalled : s.called now = s.range := by
        unfold called
        split
        · next hpc => exact absurd hpc hdrain
        · next exit hpc => exact absurd hpc (hclose exit)
        · rfl
      have hrange := range_run hrun hdrain hclose
      rw [hlabel, hcalled]
      refine GrantTask.machine.run_cons_eq_some.2 ⟨next, hstep, ?_⟩
      obtain ⟨pc, o, range⟩ := next
      cases hrange
      rfl

/-- Every step is what its labels do to a task with a user's Range. -/
theorem task_step {e : Event} (h : s.Recorded) (hst : s.step e = some t) :
    GrantTask.machine.run s.task (s.label e) = some t.task := by
  cases e with
  | signal sig =>
    cases hst
    rfl
  | run b now =>
    obtain ⟨next, hrun, rfl⟩ := Option.map_eq_some_iff.1 hst
    exact task_run h hrun
  | stepInit =>
    obtain ⟨range, hrange, rfl⟩ := Option.map_eq_some_iff.1 hst
    unfold RecordingRange.stepInit at hrange
    split at hrange
    · next hinit =>
      cases hrange
      rw [label, if_neg (by rw [hinit]; decide)]
      rfl
    · next hinit =>
      cases hrange
      rw [label, if_pos hinit]
      rfl
    · cases hrange
  | stepDrain =>
    obtain ⟨range, hrange, rfl⟩ := Option.map_eq_some_iff.1 hst
    unfold RecordingRange.stepDrain at hrange
    split at hrange
    · cases hrange
    · next d hd =>
      split at hrange
      · next htask =>
        cases hrange
        simp [label, hd, htask, task, RecordingRange.view]
      · next htask =>
        cases hrange
        simp only [label, hd, htask, Option.map_some, if_true]
        refine GrantTask.machine.run_cons_eq_some.2 ⟨_, ?_, rfl⟩
        simp only [GrantTask.machine, GrantTask.step, RangeState.step, task, RecordingRange.view,
          hd, Option.map_some, Option.isSome_some, if_true, Option.getD_some]
      · cases hrange

/-- A task with this Range is one with a user's Range. -/
theorem recorded_refines :
    Machine.Simulation machine GrantTask.machine label fun s t => s.Recorded ∧ t = s.task where
  init s hs := by
    refine ⟨s.task, ⟨hs.1, ?_⟩, .initial hs, rfl⟩
    obtain ⟨label, drainDelay, hrange⟩ := hs.2
    rw [task, hrange]
    rfl
  step s e s' t ht hst := by
    obtain ⟨h, rfl⟩ := ht
    exact ⟨s'.task, task_step h hst, h.step hst, rfl⟩

/-! ## The life -/

/-- The log is that of one life of a grant: the lines of its tasks come in their order, and that of
`close` comes with the return of `run_grant`, which never bails out because its Range has closed
itself. A grant that went through all five steps has written all four lines, in order. -/
structure Lifecycle (s : RecordedTask) : Prop where
  inOrder : s.range.log.filter (· ≠ .closed) <+: [.initialized, .drainStart, .drainDone]
  closedOnce : s.range.log.count .closed = (isOver s.pc).toNat
  kept : keptOpen s.pc
  whole : ∀ result, s.pc = .returned (.finished result) → s.range.lines =
    ["initialized", "drain start", "drain done", "closed"].map (s.range.label ++ " " ++ ·)

theorem written_prefix {r : RecordingRange}
    (hinit : r.drained.isSome = true → r.init = .done) :
    r.written <+: [.initialized, .drainStart, .drainDone] := by
  unfold RecordingRange.written
  cases hd : r.drained with
  | none =>
    split
    · exact List.nil_prefix
    · exact ⟨[.drainStart, .drainDone], rfl⟩
  | some d =>
    rw [hinit (by rw [hd]; rfl), if_neg (by decide)]
    dsimp only
    split
    · exact ⟨[.drainDone], rfl⟩
    · exact List.prefix_refl _

theorem Recorded.lifecycle (h : s.Recorded) : s.Lifecycle where
  inOrder := by
    rw [h.log]
    exact written_prefix fun hsome => h.taken (Nat.le_of_succ_le (h.drain.1 hsome))
  closedOnce := h.close
  kept := h.kept
  whole result hpc := by
    have hlast := h.last (by rw [hpc]; exact Nat.le_refl 3)
    rw [hpc] at hlast
    rw [RecordingRange.lines, hlast]
    rfl

/-- **The log tells the life of the grant.** In every run of a processor task with a recording
Range, whatever the tasks of the Range, the driver and the user do and when: the task does what one
with a user's Range could do, and the log is that of one life. -/
theorem recorded_lifecycle {es : List Event} (hinit : machine.init s)
    (hrun : machine.run s es = some t) :
    GrantTask.machine.run s.task (machine.outputs label s es) = some t.task ∧ t.Lifecycle := by
  obtain ⟨u, hlabels, h, rfl⟩ := recorded_refines.run ⟨.initial hinit, rfl⟩ hrun
  exact ⟨hlabels, h.lifecycle⟩

/-- A task with a Range labelled `r`. -/
def recording : RecordedTask :=
  { pc := .waitUnload
    ownership := Ownership.new .allocated SystemTime.unixEpoch SystemTime.unixEpoch
    range := .new "r" (SystemTime.unixEpoch.remaining SystemTime.unixEpoch) }

/-- Steps of `run_grant`, at the epoch. -/
def runAll (branches : List Branch) : List Event :=
  branches.map fun b => .run b SystemTime.unixEpoch

/-- A grant is activated, served, revoked and handed over. -/
def wholeLife : List Event :=
  [.signal .activate] ++ runAll [.active, .go] ++ [.stepInit, .stepInit] ++
    runAll [.action, .go, .go, .active, .go] ++ [.signal .revoke] ++
    runAll [.revoked, .go, .go, .go] ++ [.stepDrain, .stepDrain] ++
    runAll [.action, .go, .go, .go] ++ [.signal .counterpartLoaded] ++
    runAll [.loaded, .go, .go]

/-- The log of a grant that is handed over. -/
theorem recorded_lifecycle_whole :
    ∃ t, machine.run recording wholeLife = some t ∧
      t.range.lines = ["r initialized", "r drain start", "r drain done", "r closed"] := by
  have hend : (machine.run recording wholeLife).map (fun t =>
      decide (t.pc = .returned (.finished (.ok ())) ∧ t.range.label = "r")) = some true := by
    decide +kernel
  obtain ⟨t, hrun, ht⟩ := Option.map_eq_some_iff.1 hend
  obtain ⟨hpc, hlabel⟩ := of_decide_eq_true ht
  refine ⟨t, hrun, ?_⟩
  rw [(recorded_lifecycle ⟨rfl, _, _, rfl⟩ hrun).2.whole _ hpc, hlabel]
  rfl

end RecordedTask

end Splitter
