import AnyPlug.Foundations.Transition
import AnyPlug.Server.UrbLoop

/-!
# A client that waits for each reply

The protocol between the URB loop on a plain wire and a client that submits one URB at a time: it
sends its next `CMD_SUBMIT` only after it has received the `RET_SUBMIT` for the previous one. The
two are connected by a stream of bytes in each direction.

The reply to a URB stays in the batcher until the batch is full or another URB is refused, and
nothing but a URB makes the loop look at the batch again: the loop never asks `shouldTimeout`. So
the first URB of such a client is never answered, and both sides wait (`not_stalled_iff`).
-/

namespace AnyPlug

/-- Where the loop stands. -/
inductive ServerPhase
  /-- In `read_message`. -/
  | reading
  | handling (frame : Bytes)
  | writing (batch : Bytes)
  /-- The loop was left. -/
  | closed

/-- The client, the loop and the bytes between them. -/
structure Link where
  /-- The URBs the client has still to submit. -/
  script : List CmdSubmitFrame
  /-- The sequence number of the URB whose reply the client waits for. -/
  waiting : Option UInt32
  toServer : Bytes
  toClient : Bytes
  phase : ServerPhase
  loop : UrbLoop

namespace Link

/-- The client has a script, and nothing has happened. -/
def start (script : List CmdSubmitFrame) : Link := ⟨script, none, [], [], .reading, .start⟩

/-- The steps of the two parties. -/
inductive Action
  | clientSend
  | clientReceive
  | serverRead
  | serverHandle
  /-- A write succeeds or fails. -/
  | serverWrite (ok : Bool)

/-- The client sends its next URB, unless it waits for a reply. -/
def clientSend (s : Link) : Option Link :=
  match s.waiting, s.script with
  | none, f :: fs =>
    some { s with
      script := fs
      waiting := some f.cmd.seqnum
      toServer := s.toServer ++ f.bytes }
  | _, _ => none

/-- The client reads a message, and goes on when it is the reply it waits for. -/
def clientReceive (s : Link) : Option Link :=
  match s.waiting, readMessage s.toClient with
  | some seqnum, .ok (m, rest) =>
    if (asRetSubmit m).map UsbIpRetSubmit.seqnum = some seqnum then
      some { s with waiting := none, toClient := rest }
    else some { s with toClient := rest }
  | _, _ => none

/-- The loop reads a message, when a whole one has arrived. -/
def serverRead (s : Link) : Option Link :=
  match s.phase, readMessage s.toServer with
  | .reading, .ok (frame, rest) => some { s with phase := .handling frame, toServer := rest }
  | _, _ => none

/-- The loop handles a message. -/
def serverHandle (env : UrbEnv) (s : Link) : Option Link :=
  match s.phase with
  | .handling frame =>
    match decodeFrame frame with
    | .leave => some { s with
        phase := .closed
        loop := s.loop.finish.state
        toClient := s.toClient ++ s.loop.batcher.flush.1 }
    | .unknown => some { s with phase := .reading }
    | .submit cmd data =>
      match s.loop.submit env cmd data with
      | (loop, none) => some { s with phase := .reading, loop := loop }
      | (loop, some batch) => some { s with phase := .writing batch, loop := loop }
  | _ => none

/-- The loop writes a batch. -/
def serverWrite (s : Link) (ok : Bool) : Option Link :=
  match s.phase with
  | .writing batch =>
    if ok then
      some { s with
        phase := .reading
        loop := s.loop.write batch
        toClient := s.toClient ++ batch }
    else some { s with phase := .closed }
  | _ => none

def step (env : UrbEnv) (s : Link) : Action → Option Link
  | .clientSend => s.clientSend
  | .clientReceive => s.clientReceive
  | .serverRead => s.serverRead
  | .serverHandle => s.serverHandle env
  | .serverWrite ok => s.serverWrite ok

/-- The server is blocked in `read_message`, the client waits for a reply, and nothing is in
flight. -/
structure Stalled (s : Link) : Prop where
  reading : s.phase = .reading
  waiting : s.waiting.isSome = true
  toServer : s.toServer = []
  toClient : s.toClient = []

/-! ## The first URB -/

/-- After its first URB the loop has written no byte: the reply is in the batcher, or was too long
for it and is lost. -/
theorem submit_start (env : UrbEnv) (cmd : UsbIpCmdSubmit) (data : Bytes) :
    (UrbLoop.start.submit env cmd data).2 = none ∨
      (UrbLoop.start.submit env cmd data).2 = some [] := by
  have hnew : Holds UrbLoop.start.batcher [] := holds_new
  obtain ⟨-, hout, -, -⟩ := UrbLoop.submit_spec env hnew cmd data
  by_cases hj : Joins [] (UrbLoop.start.completed env cmd data)
  · rw [arrive_of_joins hj, if_pos (by decide)] at hout
    exact .inl (by simpa using hout)
  · rw [arrive_of_not_joins hj] at hout
    exact .inr (by simpa using hout)

/-- The first URB is sent, read and handled, and everything waits. -/
theorem exists_stalled (env : UrbEnv) (f : CmdSubmitFrame) (fs : List CmdSubmitFrame) :
    ∃ s, Reachable (step env) (start (f :: fs)) s ∧ s.Stalled := by
  have hread : readMessage f.bytes = .ok (f.bytes, []) := by simpa using f.isFrame_bytes []
  rcases hs : UrbLoop.start.submit env f.cmd f.data with ⟨loop, due⟩
  have hdue := submit_start env f.cmd f.data
  rw [hs] at hdue
  rcases hdue with rfl | rfl
  · refine ⟨⟨fs, some f.cmd.seqnum, [], [], .reading, loop⟩,
      ⟨[.clientSend, .serverRead, .serverHandle], ?_⟩, ⟨rfl, rfl, rfl, rfl⟩⟩
    simp [run, step, start, clientSend, serverRead, serverHandle, hread, f.decodeFrame_bytes, hs]
  · refine ⟨⟨fs, some f.cmd.seqnum, [], [], .reading, loop.write []⟩,
      ⟨[.clientSend, .serverRead, .serverHandle, .serverWrite true], ?_⟩, ⟨rfl, rfl, rfl, rfl⟩⟩
    simp [run, step, start, clientSend, serverRead, serverHandle, serverWrite, hread,
      f.decodeFrame_bytes, hs]

/-! ## No URB -/

/-- A client without URBs never waits. -/
structure Idle (s : Link) : Prop where
  script : s.script = []
  waiting : s.waiting = none

theorem idle_step (env : UrbEnv) (s : Link) (a : Action) (t : Link) (h : s.Idle)
    (hstep : step env s a = some t) : t.Idle := by
  obtain ⟨hscript, hwaiting⟩ := h
  cases a with
  | clientSend => simp [step, clientSend, hscript, hwaiting] at hstep
  | clientReceive => simp [step, clientReceive, hwaiting] at hstep
  | serverRead =>
    simp only [step, serverRead] at hstep
    split at hstep <;> cases hstep
    exact ⟨hscript, hwaiting⟩
  | serverHandle =>
    simp only [step, serverHandle] at hstep
    split at hstep
    · split at hstep
      · cases hstep
        exact ⟨hscript, hwaiting⟩
      · cases hstep
        exact ⟨hscript, hwaiting⟩
      · split at hstep <;> cases hstep <;> exact ⟨hscript, hwaiting⟩
    · cases hstep
  | serverWrite ok =>
    simp only [step, serverWrite] at hstep
    split at hstep
    · split at hstep <;> cases hstep <;> exact ⟨hscript, hwaiting⟩
    · cases hstep

/-- **A client that waits for each reply never meets a stall only when it submits no URB.**
Whatever the results and the clock, one URB is enough. -/
theorem not_stalled_iff (env : UrbEnv) (script : List CmdSubmitFrame) :
    (∀ s, Reachable (step env) (start script) s → ¬s.Stalled) ↔ script = [] := by
  constructor
  · intro h
    cases script with
    | nil => rfl
    | cons f fs =>
      obtain ⟨s, hreach, hstalled⟩ := exists_stalled env f fs
      exact absurd hstalled (h s hreach)
  · rintro rfl s hreach hstalled
    have hidle := hreach.invariant (idle_step env) (⟨rfl, rfl⟩ : (start []).Idle)
    have hwaiting := hstalled.waiting
    rw [hidle.waiting] at hwaiting
    cases hwaiting

/-- One poll of an interrupt endpoint is sent, read and handled, and then both sides wait. -/
theorem stalled_one_poll :
    ∃ s, Reachable (step idleEnv.toUrbEnv) (start [pollFrame 1]) s ∧ s.Stalled :=
  exists_stalled idleEnv.toUrbEnv (pollFrame 1) []

end Link

end AnyPlug
