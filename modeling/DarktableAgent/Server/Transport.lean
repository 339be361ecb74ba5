import Mathlib.Algebra.Order.Ring.Rat
import DarktableAgent.Foundation.BufferedPipe
import DarktableAgent.Foundation.Json
import DarktableAgent.Foundation.Runs

/-! `_read_message_locked`: the lines of the app server, pass by pass of the reading loop.

`select` looks at the pipes of the process; lines are taken through text readers that
may already hold some. Writes of the process, its exit and the calls come in any order
between two passes. How far a reader reads ahead is an argument of the pass.
-/

set_option autoImplicit false

namespace DarktableAgent.Server

open Foundation

structure CodexAppServerError where
  code : String
  message : String
  statusCode : Nat
  deriving DecidableEq, Repr

def timeoutError : CodexAppServerError := ⟨"codex_timeout", "Codex app server timed out", 504⟩

def exitedError : CodexAppServerError := ⟨"codex_process_exited", "Codex app server exited unexpectedly", 503⟩

def cancelledError (reason : String) : CodexAppServerError := ⟨"request_cancelled", reason, 499⟩

def invalidJsonError (message : String) : CodexAppServerError := ⟨"codex_invalid_json", message, 502⟩

/-- `json.loads`, and the line without its trailing blanks. -/
structure LineLibrary where
  loads : String → Option Json
  rstrip : String → String

/-- What a call gives back: a message, None, or an error. -/
inductive ReadOutcome where
  | message (payload : JsonObject)
  | nothing
  | raised (error : CodexAppServerError)

/-- The outcome of a call that took a line from the standard output. -/
def LineLibrary.answer (library : LineLibrary) (line : String) : ReadOutcome :=
  match library.loads line with
  | some (.obj payload) => .message payload
  | some _ => .raised (invalidJsonError ("Codex emitted non-object JSON: " ++ library.rstrip line))
  | none => .raised (invalidJsonError ("Codex emitted invalid JSON: " ++ library.rstrip line))

/-- The running process: its two output pipes, and whether `poll` reports its exit. -/
structure ServerProcess where
  stdout : BufferedPipe String
  stderr : BufferedPipe String
  exited : Bool
  deriving DecidableEq

structure ReadCall where
  deadline : ℚ
  maxWaitSeconds : Option ℚ
  deriving DecidableEq

/-- What a pass of the loop meets: a cancelled request, the clock, and how many lines the readers
take ahead. -/
structure Pass where
  cancelled : Option String
  now : ℚ
  ahead : Nat
  aheadOnStderr : Nat
  deriving DecidableEq

/-- How a pass ends: the loop goes on, the call ends without a line, or it ends with one. -/
inductive PassEnd where
  | again
  | without (outcome : ReadOutcome)
  | took (line : String)

/-- The outcome of the call, when the pass ended it. -/
def PassEnd.outcome (library : LineLibrary) : PassEnd → Option ReadOutcome
  | .again => none
  | .without outcome => some outcome
  | .took line => some (library.answer line)

/-- One pass of the loop: how it ends, and the process behind it, unless it was reset. -/
def readPass (server : ServerProcess) (call : ReadCall) (pass : Pass) : PassEnd × Option ServerProcess :=
  match pass.cancelled with
  | some reason => (.without (.raised (cancelledError reason)), none)
  | none =>
    if call.deadline - pass.now ≤ 0 then (.without (.raised timeoutError), some server)
    else if !server.stdout.readable && !server.stderr.readable then
      -- `select` reports neither pipe
      if server.exited then (.without (.raised exitedError), none)
      else if call.maxWaitSeconds.isSome then (.without .nothing, some server)
      else (.again, some server)
    else
      let (line, stdout) :=
        if server.stdout.readable then server.stdout.read pass.ahead else (none, server.stdout)
      match line with
      | some line => (.took line, some { server with stdout })
      | none =>
        -- an empty line is passed over, one of the standard error is logged
        let stderr := if server.stderr.readable then (server.stderr.read pass.aheadOnStderr).2 else server.stderr
        (.again, some { server with stdout, stderr })

/-- The process, the call under way, the lines written so far, and those that calls have taken. -/
structure Transport where
  process : Option ServerProcess
  call : Option ReadCall
  written : List String
  taken : List String

inductive TransportEvent where
  | stdout (lines : List String)
  | stderr (lines : List String)
  | exit (closesStdout closesStderr : Bool)
  | call (deadline : ℚ) (maxWaitSeconds : Option ℚ)
  | pass (pass : Pass)

namespace Transport

/-- What `_start_process_locked` leaves. -/
def started : Transport := ⟨some ⟨.empty, .empty, false⟩, none, [], []⟩

/-- The lines that were written and not taken, while there is a process. -/
def pending (transport : Transport) : List String := transport.process.elim [] (·.stdout.pending)

def step (transport : Transport) : TransportEvent → Transport
  | .stdout lines =>
    match transport.process with
    | some server =>
      if server.stdout.closed then transport
      else { transport with
        process := some { server with stdout := server.stdout.write lines }
        written := transport.written ++ lines }
    | none => transport
  | .stderr lines =>
    { transport with process := transport.process.map fun server =>
        { server with stderr := server.stderr.write lines } }
  | .exit closesStdout closesStderr =>
    { transport with process := transport.process.map fun server =>
        { stdout := { server.stdout with closed := server.stdout.closed || closesStdout }
          stderr := { server.stderr with closed := server.stderr.closed || closesStderr }
          exited := true } }
  | .call deadline maxWaitSeconds =>
    match transport.process, transport.call with
    -- without a process the call raises at once, and the lock admits one call at a time
    | some _, none => { transport with call := some ⟨deadline, maxWaitSeconds⟩ }
    | _, _ => transport
  | .pass pass =>
    match transport.process, transport.call with
    | some server, some call =>
      match readPass server call pass with
      | (.again, process) => { transport with process }
      | (.without _, process) => { transport with process, call := none }
      | (.took line, process) => { transport with process, call := none, taken := transport.taken ++ [line] }
    | _, _ => transport

end Transport

section Pass

variable {server : ServerProcess} {call : ReadCall} {pass : Pass}

/-- Everything a pass can do. -/
inductive PassCase (server : ServerProcess) (call : ReadCall) (pass : Pass) : PassEnd × Option ServerProcess → Prop where
  | cancelled (reason : String) (isCancelled : pass.cancelled = some reason) :
      PassCase server call pass (.without (.raised (cancelledError reason)), none)
  | timedOut (free : pass.cancelled = none) (late : call.deadline ≤ pass.now) :
      PassCase server call pass (.without (.raised timeoutError), some server)
  | exited (free : pass.cancelled = none) (early : pass.now < call.deadline)
      (quiet : server.stdout.readable = false) (silent : server.stderr.readable = false)
      (isExited : server.exited = true) :
      PassCase server call pass (.without (.raised exitedError), none)
  | nothing (free : pass.cancelled = none) (early : pass.now < call.deadline)
      (quiet : server.stdout.readable = false) (silent : server.stderr.readable = false)
      (alive : server.exited = false) (bounded : call.maxWaitSeconds.isSome = true) :
      PassCase server call pass (.without .nothing, some server)
  | waits (free : pass.cancelled = none) (early : pass.now < call.deadline)
      (quiet : server.stdout.readable = false) (silent : server.stderr.readable = false)
      (alive : server.exited = false) (unbounded : call.maxWaitSeconds.isSome = false) :
      PassCase server call pass (.again, some server)
  | took (free : pass.cancelled = none) (early : pass.now < call.deadline)
      (reported : server.stdout.readable = true) (line : String) (stdout : BufferedPipe String)
      (isRead : server.stdout.read pass.ahead = (some line, stdout)) :
      PassCase server call pass (.took line, some { server with stdout })
  | passedOver (free : pass.cancelled = none) (early : pass.now < call.deadline)
      (stderr : BufferedPipe String)
      (reported : (server.stdout.readable || server.stderr.readable) = true)
      (stderrAfter : stderr = if server.stderr.readable then (server.stderr.read pass.aheadOnStderr).2
        else server.stderr) :
      PassCase server call pass (.again, some { server with stderr })

theorem readPass_case (server : ServerProcess) (call : ReadCall) (pass : Pass) :
    PassCase server call pass (readPass server call pass) := by
  unfold readPass
  cases isCancelled : pass.cancelled with
  | some reason => exact .cancelled reason isCancelled
  | none =>
    dsimp only
    by_cases late : call.deadline - pass.now ≤ 0
    · rw [if_pos late]
      exact .timedOut isCancelled (sub_nonpos.mp late)
    rw [if_neg late]
    have early : pass.now < call.deadline := sub_pos.mp (not_le.mp late)
    cases quiet : server.stdout.readable with
    | false =>
      cases silent : server.stderr.readable with
      | false =>
        cases isExited : server.exited with
        | true => exact .exited isCancelled early quiet silent isExited
        | false =>
          cases bounded : call.maxWaitSeconds.isSome with
          | true => exact .nothing isCancelled early quiet silent isExited bounded
          | false => exact .waits isCancelled early quiet silent isExited bounded
      | true => exact .passedOver isCancelled early _ (by simp [silent]) (by simp [silent])
    | true =>
      cases isRead : server.stdout.read pass.ahead with
      | mk line stdout =>
        cases line with
        | some line =>
          simp only [Bool.not_true, Bool.false_and, Bool.false_eq_true, if_false, if_true]
          exact .took isCancelled early quiet line stdout isRead
        | none =>
          have drained : server.stdout.pending = [] := BufferedPipe.read_fst_none.mp (by rw [isRead])
          have same : server.stdout = stdout := by
            rw [BufferedPipe.read_none drained] at isRead
            exact congrArg Prod.snd isRead
          subst same
          simp only [Bool.not_true, Bool.false_and, Bool.false_eq_true, if_false, if_true]
          exact .passedOver isCancelled early _ (by simp [quiet]) rfl

end Pass

/-- A call gives up: it returns None, reports a timeout, or finds the process gone. -/
def PassEnd.givesUp : PassEnd → Bool
  | .without .nothing => true
  | .without (.raised error) => error == timeoutError || error == exitedError
  | _ => false

namespace Transport

variable {transport : Transport} {event : TransportEvent}

/-- The messages and errors of the calls that took a line, in the order of these calls. -/
def returned (library : LineLibrary) (transport : Transport) : List ReadOutcome :=
  transport.taken.map library.answer

/-- Nothing is pending when the event makes a call give up. -/
def GivesUpDrained (transport : Transport) : TransportEvent → Prop
  | .pass pass => ∀ server call, transport.process = some server → transport.call = some call →
      (readPass server call pass).1.givesUp = true → server.stdout.pending = []
  | _ => True

/-- Nothing is pending when the event finds the deadline reached, and the reader holds nothing when
the event would give its call up at two quiet pipes. -/
def Clear (transport : Transport) : TransportEvent → Prop
  | .pass pass => ∀ server call, transport.process = some server → transport.call = some call →
      pass.cancelled = none →
        (call.deadline ≤ pass.now → server.stdout.pending = []) ∧
        (pass.now < call.deadline → server.stdout.readable = false → server.stderr.readable = false →
          (server.exited || call.maxWaitSeconds.isSome) = true → server.stdout.buffer = [])
  | _ => True

/-- Lines are taken in the order they were written; none is lost while the process is there. -/
structure Conserved (transport : Transport) : Prop where
  inOrder : transport.taken <+: transport.written
  nothingLost : ∀ server, transport.process = some server →
    transport.taken ++ server.stdout.pending = transport.written

theorem givesUpDrained_iff_clear (transport : Transport) (event : TransportEvent) :
    transport.GivesUpDrained event ↔ transport.Clear event := by
  cases event with
  | pass pass =>
    refine forall₄_congr fun server call _ _ => ?_
    have gaveUp := readPass_case server call pass
    generalize readPass server call pass = result at gaveUp
    cases gaveUp with
    | cancelled reason isCancelled => simp [PassEnd.givesUp, cancelledError, timeoutError, exitedError, isCancelled]
    | timedOut free late => simp [PassEnd.givesUp, free, late, not_lt.mpr late]
    | exited free early quiet silent isExited =>
      have held := (BufferedPipe.pending_of_not_readable quiet).1
      simp [PassEnd.givesUp, free, early, not_le.mpr early, quiet, silent, isExited, held]
    | nothing free early quiet silent alive bounded =>
      have held := (BufferedPipe.pending_of_not_readable quiet).1
      simp [PassEnd.givesUp, free, early, not_le.mpr early, quiet, silent, bounded, held]
    | waits free early quiet silent alive unbounded =>
      simp [PassEnd.givesUp, free, not_le.mpr early, alive, unbounded]
    | took free early reported line stdout isRead =>
      simp [PassEnd.givesUp, free, not_le.mpr early, reported]
    | passedOver free early stderr reported stderrAfter =>
      have notBoth : server.stdout.readable = false → server.stderr.readable ≠ false := by
        intro quiet silent
        simp [quiet, silent] at reported
      simp only [PassEnd.givesUp, Bool.false_eq_true, false_implies, true_iff]
      exact fun _ => ⟨fun late => absurd late (not_le.mpr early), fun _ quiet silent => absurd silent (notBoth quiet)⟩
  | _ => exact Iff.rfl

section Conserved

variable {server : ServerProcess} {call : Option ReadCall} {written taken : List String}

theorem conserved_of_held (held : taken ++ server.stdout.pending = written) :
    Conserved ⟨some server, call, written, taken⟩ where
  inOrder := ⟨server.stdout.pending, held⟩
  nothingLost := by
    intro current same
    cases same
    exact held

theorem conserved_of_gone (inOrder : taken <+: written) : Conserved ⟨none, call, written, taken⟩ where
  inOrder
  nothingLost := by
    intro server isServer
    cases isServer

theorem conserved_pass {call : ReadCall} (held : taken ++ server.stdout.pending = written) (pass : Pass) :
    Conserved ((⟨some server, some call, written, taken⟩ : Transport).step (.pass pass)) := by
  have inOrder : taken <+: written := ⟨server.stdout.pending, held⟩
  dsimp only [step]
  have ended := readPass_case server call pass
  generalize readPass server call pass = result at ended
  cases ended with
  | cancelled reason isCancelled => exact conserved_of_gone inOrder
  | exited free early quiet silent isExited => exact conserved_of_gone inOrder
  | took free early reported line stdout isRead =>
    apply conserved_of_held
    have moved := @BufferedPipe.read_pending _ server.stdout pass.ahead
    rw [isRead] at moved
    obtain ⟨isFirst, rest, -⟩ := moved
    calc taken ++ [line] ++ stdout.pending
        = taken ++ line :: server.stdout.pending.tail := by rw [rest, List.append_assoc, List.singleton_append]
      _ = taken ++ server.stdout.pending := by rw [List.cons_head?_tail isFirst.symm]
      _ = written := held
  | _ => exact conserved_of_held held

end Conserved

theorem conserved_started : Conserved started := conserved_of_held rfl

/-- The lines taken and the lines pending stay the lines written, whatever happens. -/
theorem conserved_step (conserved : Conserved transport) (event : TransportEvent) :
    Conserved (transport.step event) := by
  obtain ⟨process, call, written, taken⟩ := transport
  obtain ⟨inOrder, nothingLost⟩ := conserved
  cases process with
  | none => cases event <;> exact conserved_of_gone inOrder
  | some server =>
    have held : taken ++ server.stdout.pending = written := nothingLost server rfl
    cases event with
    | stdout lines =>
      cases closed : server.stdout.closed with
      | true =>
        simp only [step, closed, if_true]
        exact conserved_of_held held
      | false =>
        simp only [step, closed, Bool.false_eq_true, if_false]
        apply conserved_of_held
        rw [BufferedPipe.pending_write closed, ← List.append_assoc, held]
    | stderr lines => exact conserved_of_held held
    | exit closesStdout closesStderr => exact conserved_of_held held
    | call deadline maxWaitSeconds => cases call <;> exact conserved_of_held held
    | pass pass =>
      cases call with
      | none => exact conserved_of_held held
      | some call => exact conserved_pass held pass

/-- For every run, whatever the writes, their grouping, the calls and how far the readers read ahead:
calls give up on nothing pending exactly where each pass is clear, and what the calls return are
the lines written, in order. -/
theorem calls_lossless_iff_clear (library : LineLibrary) (events : List TransportEvent) :
    (EveryStep step GivesUpDrained started events ↔ EveryStep step Clear started events) ∧
      Conserved (run step started events) ∧
      (run step started events).returned library <+: (run step started events).written.map library.answer := by
  have conserved : Conserved (run step started events) :=
    @invariant_of_reachable _ _ step Conserved (· = started) _ ⟨started, rfl, events, rfl⟩
      (fun _ isStarted => isStarted ▸ conserved_started) (fun _ event holds => conserved_step holds event)
  refine ⟨?_, conserved, conserved.inOrder.map library.answer⟩
  simp only [everyStep_iff_split, givesUpDrained_iff_clear]

/-- The reader takes only the line it is asked for, and calls end before their deadline. -/
def OneAtATime (transport : Transport) : TransportEvent → Prop
  | .pass pass => ∀ server call, transport.process = some server → transport.call = some call →
      (pass.ahead = 0 ∨ server.stdout.pipe.length ≤ 1) ∧ pass.now < call.deadline
  | _ => True

/-- The reader of the standard output holds nothing between two events. -/
def ReaderEmpty (transport : Transport) : Prop :=
  ∀ server, transport.process = some server → server.stdout.buffer = []

theorem readerEmpty_of_nil {server : ServerProcess} {call : Option ReadCall} {written taken : List String}
    (holdsNothing : server.stdout.buffer = []) : ReaderEmpty ⟨some server, call, written, taken⟩ := by
  intro current same
  cases same
  exact holdsNothing

theorem readerEmpty_of_gone {call : Option ReadCall} {written taken : List String} :
    ReaderEmpty ⟨none, call, written, taken⟩ := by
  intro server isServer
  cases isServer

theorem readerEmpty_step (empty : ReaderEmpty transport) (oneAtATime : transport.OneAtATime event) :
    ReaderEmpty (transport.step event) := by
  obtain ⟨process, call, written, taken⟩ := transport
  cases process with
  | none => cases event <;> exact empty
  | some server =>
    have holdsNothing : server.stdout.buffer = [] := empty server rfl
    cases event with
    | stdout lines =>
      cases closed : server.stdout.closed with
      | true =>
        simp only [step, closed, if_true]
        exact empty
      | false =>
        simp only [step, closed, Bool.false_eq_true, if_false]
        apply readerEmpty_of_nil
        simp [BufferedPipe.write, closed, holdsNothing]
    | stderr lines => exact readerEmpty_of_nil holdsNothing
    | exit closesStdout closesStderr => exact readerEmpty_of_nil holdsNothing
    | call deadline maxWaitSeconds => cases call <;> exact readerEmpty_of_nil holdsNothing
    | pass pass =>
      cases call with
      | none => exact empty
      | some call =>
        obtain ⟨takesNothing, early⟩ := oneAtATime server call rfl rfl
        have ended := readPass_case server call pass
        dsimp only [step]
        generalize readPass server call pass = result at ended
        cases ended with
        | cancelled reason isCancelled => exact readerEmpty_of_gone
        | exited free early quiet silent isExited => exact readerEmpty_of_gone
        | took free early reported line stdout isRead =>
          have leaves := BufferedPipe.read_buffer_nil holdsNothing takesNothing
          rw [isRead] at leaves
          exact readerEmpty_of_nil leaves
        | _ => exact readerEmpty_of_nil holdsNothing

/-- Where each write is read before the next, a call gives up only when nothing is pending. -/
theorem givesUpDrained_of_oneAtATime {events : List TransportEvent}
    (oneAtATime : EveryStep step OneAtATime started events) : EveryStep step GivesUpDrained started events := by
  have initially : ReaderEmpty started := by
    intro server isServer
    cases isServer
    rfl
  refine everyStep_of_invariant (fun _ _ empty one => readerEmpty_step empty one) ?_ initially oneAtATime
  intro transport event empty one
  rw [givesUpDrained_iff_clear]
  cases event with
  | pass pass =>
    intro server call isServer isCall _
    have early := (one server call isServer isCall).2
    exact ⟨fun late => absurd late (not_le.mpr early), fun _ _ _ _ => empty server isServer⟩
  | _ => trivial

def turnStartedLine : String := "\x7b\"method\":\"turn/started\"\x7d"

def turnCompletedLine : String := "\x7b\"method\":\"turn/completed\"\x7d"

/-- Two notifications in one write: the second waits in the reader while the call that asks for it
returns None. -/
theorem batchedLines_overlooked : ¬ ∀ events, EveryStep step GivesUpDrained started events := by
  intro always
  have gaveUp := (always [.stdout [turnStartedLine, turnCompletedLine], .call 90 (some (1 / 2)), .pass ⟨none, 0, 1, 0⟩,
    .call 90 (some (1 / 2)), .pass ⟨none, 1, 0, 0⟩]).2.2.2.2.1
  have drained := gaveUp ⟨⟨[], [turnCompletedLine], false⟩, .empty, false⟩ ⟨90, some (1 / 2)⟩
    (by decide +kernel) (by decide +kernel) (by decide +kernel)
  exact List.cons_ne_nil turnCompletedLine [] drained

/-- A call is under way, the process has exited, and everything it wrote has been read. -/
structure Exhausted (transport : Transport) (server : ServerProcess) (call : ReadCall) : Prop where
  isServer : transport.process = some server
  isCall : transport.call = some call
  gone : server.exited = true
  stdoutRead : server.stdout.pending = []
  stderrRead : server.stderr.pending = []

/-- The exit is raised, and the process reset. -/
def Detects (server : ServerProcess) (call : ReadCall) (pass : Pass) : Prop :=
  readPass server call pass = (.without (.raised exitedError), none)

variable {server : ServerProcess} {call : ReadCall}

theorem readable_of_read {stream : BufferedPipe String} (isRead : stream.pending = []) :
    stream.readable = stream.closed := by
  simp [BufferedPipe.readable, (BufferedPipe.pending_eq_nil.mp isRead).2]

theorem detects_iff (exhausted : Exhausted transport server call) (pass : Pass) :
    Detects server call pass ↔ pass.cancelled = none ∧ pass.now < call.deadline ∧
      server.stdout.closed = false ∧ server.stderr.closed = false := by
  have stdoutReported := readable_of_read exhausted.stdoutRead
  have stderrReported := readable_of_read exhausted.stderrRead
  unfold Detects
  have ended := readPass_case server call pass
  generalize readPass server call pass = result at ended
  cases ended with
  | cancelled reason isCancelled => simp [isCancelled, cancelledError, exitedError]
  | timedOut free late => simp [not_lt.mpr late, timeoutError, exitedError]
  | exited free early quiet silent isExited =>
    simp [free, early, ← stdoutReported, ← stderrReported, quiet, silent]
  | nothing free early quiet silent alive bounded => simp [exhausted.gone] at alive
  | waits free early quiet silent alive unbounded => simp [exhausted.gone] at alive
  | took free early reported line stdout isRead =>
    rw [BufferedPipe.read_none exhausted.stdoutRead] at isRead
    cases isRead
  | passedOver free early stderr reported stderrAfter =>
    rw [stdoutReported, stderrReported, Bool.or_eq_true] at reported
    have oneClosed : ¬ (server.stdout.closed = false ∧ server.stderr.closed = false) := by
      rintro ⟨stdoutOpen, stderrOpen⟩
      simp [stdoutOpen, stderrOpen] at reported
    simp only [Prod.mk.injEq, reduceCtorEq, false_and, false_iff]
    exact fun detected => oneClosed detected.2.2

theorem readPass_late {pass : Pass} (free : pass.cancelled = none) (late : call.deadline ≤ pass.now) :
    readPass server call pass = (.without (.raised timeoutError), some server) := by
  simp [readPass, free, late]

/-- At the end of a stream a pass before the deadline leaves everything as it is. -/
theorem step_at_end (exhausted : Exhausted transport server call)
    (ended : (server.stdout.closed || server.stderr.closed) = true) {pass : Pass}
    (free : pass.cancelled = none) (early : pass.now < call.deadline) : transport.step (.pass pass) = transport := by
  have undetected : ¬ Detects server call pass := by
    rw [detects_iff exhausted]
    rintro ⟨-, -, stdoutOpen, stderrOpen⟩
    simp [stdoutOpen, stderrOpen] at ended
  have goesOn : readPass server call pass = (.again, some server) := by
    unfold Detects at undetected
    have passed := readPass_case server call pass
    generalize readPass server call pass = result at passed undetected
    cases passed with
    | cancelled reason isCancelled => simp [free] at isCancelled
    | timedOut _ late => exact absurd late (not_le.mpr early)
    | exited _ _ quiet silent isExited => exact absurd rfl undetected
    | nothing _ _ quiet silent alive bounded => simp [exhausted.gone] at alive
    | waits _ _ quiet silent alive unbounded => rfl
    | took _ _ reported line stdout isRead =>
      rw [BufferedPipe.read_none exhausted.stdoutRead] at isRead
      cases isRead
    | passedOver _ _ stderr reported stderrAfter =>
      rw [BufferedPipe.read_none exhausted.stderrRead, ite_self] at stderrAfter
      rw [stderrAfter]
  obtain ⟨isServer, isCall, -, -, -⟩ := exhausted
  obtain ⟨process, current, written, taken⟩ := transport
  cases isServer
  cases isCall
  simp only [step, goesOn]

/-- The exit of a process whose output has been read is detected on the next pass exactly when the
request is not cancelled, the deadline not reached, and neither stream at its end. At the end of
a stream the passes go round without effect until the deadline, and the call reports a timeout. -/
theorem exit_detected_iff (exhausted : Exhausted transport server call) :
    (∀ pass, Detects server call pass ↔ pass.cancelled = none ∧ pass.now < call.deadline ∧
      server.stdout.closed = false ∧ server.stderr.closed = false) ∧
    ((server.stdout.closed || server.stderr.closed) = true → ∀ passes : List Pass,
      (∀ pass ∈ passes, pass.cancelled = none ∧ pass.now < call.deadline) →
        run step transport (passes.map .pass) = transport ∧
          ∀ last : Pass, last.cancelled = none → call.deadline ≤ last.now →
            readPass server call last = (.without (.raised timeoutError), some server)) := by
  refine ⟨detects_iff exhausted, fun ended passes early => ⟨?_, fun last free late => readPass_late free late⟩⟩
  induction passes with
  | nil => rfl
  | cons pass rest ih =>
    obtain ⟨here, later⟩ := List.forall_mem_cons.mp early
    rw [List.map_cons, run_cons, step_at_end exhausted ended here.1 here.2]
    exact ih later

/-- A process that died with its pipes, and one whose pipes another process still holds. -/
def deadServer (closed : Bool) : ServerProcess := ⟨⟨[], [], closed⟩, ⟨[], [], closed⟩, true⟩

def awaiting (server : ServerProcess) : Transport := ⟨some server, some ⟨90, some (1 / 2)⟩, [], []⟩

theorem exhausted_awaiting (closed : Bool) :
    Exhausted (awaiting (deadServer closed)) (deadServer closed) ⟨90, some (1 / 2)⟩ :=
  ⟨rfl, rfl, rfl, rfl, rfl⟩

/-- With the pipes held elsewhere the exit is raised, with the pipes gone the call spins. -/
theorem exit_detected_iff_dead :
    Detects (deadServer false) ⟨90, some (1 / 2)⟩ ⟨none, 1, 0, 0⟩ ∧
      run step (awaiting (deadServer true)) ([⟨none, 1, 0, 0⟩, ⟨none, 2, 0, 0⟩].map .pass) =
        awaiting (deadServer true) := by
  constructor
  · rw [(exit_detected_iff (exhausted_awaiting false)).1]
    decide +kernel
  · refine ((exit_detected_iff (exhausted_awaiting true)).2 rfl _ ?_).1
    decide +kernel

/-- The exit of a process whose pipes closed with it is never detected. -/
theorem closedPipes_undetected :
    ¬ ∀ transport server call, Exhausted transport server call → ∀ pass : Pass,
      pass.cancelled = none → pass.now < call.deadline → Detects server call pass := by
  intro always
  have detected := always _ _ _ (exhausted_awaiting true) ⟨none, 1, 0, 0⟩ rfl (by decide +kernel)
  rw [detects_iff (exhausted_awaiting true)] at detected
  exact absurd detected.2.2.1 (by decide)

end Transport

end DarktableAgent.Server
