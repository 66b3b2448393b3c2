import AnyPlug.Client.Forwarding
import AnyPlug.Foundations.Pipeline
import AnyPlug.Server.Bounds

/-!
# The URB exchange from end to end

A peer sends bytes to the URB loop of the server (`handle_urb_loop`), and the client hands the
replies to its host controller (`urb_forwarding_loop`). The three run concurrently over two streams
of bounded capacity, one byte at a time: `exchange` is the pipeline of the two loops, in the sense
of `Foundations.Pipeline`.

The handshake may leave bytes on the stream to the client (`Client.Forwarding`); they are in its
buffer at the start. A write of the server may fail after some of its bytes have got out.

* `exchange_spec`: whatever the order of the steps, the exchange comes to an end, where the client
  has made the calls that the two loops make one after the other, and at every moment before it has
  made the first few of them.
* `exchange_completions`: every URB is completed at most once, in the order of the submissions and
  with its own result.
-/

namespace AnyPlug

/-! ## What gets out -/

namespace LoopEnv

variable (env : LoopEnv) (cut : ℕ → ℕ)

/-- What gets out of the `k`-th write: all of it, or the first `cut k` bytes when it fails. -/
def sent (k : ℕ) (batch : Bytes) : Bytes :=
  match env.writeMessage k with
  | .ok () => batch
  | .error _ => batch.take (cut k)

/-- What gets out of a list of writes, when there were `k` before. -/
def sentFrom : ℕ → List Bytes → Bytes
  | _, [] => []
  | k, batch :: batches => env.sent cut k batch ++ sentFrom (k + 1) batches

theorem sentFrom_append (k : ℕ) (ws vs : List Bytes) :
    env.sentFrom cut k (ws ++ vs) =
      env.sentFrom cut k ws ++ env.sentFrom cut (k + ws.length) vs := by
  induction ws generalizing k with
  | nil => simp [sentFrom]
  | cons w ws ih =>
    rw [List.cons_append, sentFrom, sentFrom, ih, List.append_assoc, List.length_cons,
      Nat.add_assoc, Nat.add_comm 1]

/-- Writes that succeed get out. -/
theorem sentFrom_of_ok (hw : ∀ n, env.writeMessage n = .ok ()) (k : ℕ) (ws : List Bytes) :
    env.sentFrom cut k ws = ws.flatten := by
  induction ws generalizing k with
  | nil => rfl
  | cons w ws ih => rw [sentFrom, sent, hw, ih, List.flatten_cons]

end LoopEnv

/-! ## The two loops as stages -/

/-- The URB loop as a stage. It writes what gets out of the writes it makes. -/
def serverStage (env : LoopEnv) (cut : ℕ → ℕ) : Stage ErrorKind UInt8 UrbLoop LoopExit where
  read := readMessage
  body st frame :=
    (env.sentFrom cut st.written.length
      ((urbLoopBody env st frame).written.drop st.written.length), urbLoopBody env st frame)
  atEnd st :=
    (env.sentFrom cut st.written.length (st.finish.state.written.drop st.written.length),
      st.finish)

/-- The forwarding loop as a stage. It writes nothing. -/
def clientStage (env : ForwardEnv) : Stage ErrorKind UInt8 Forward ForwardExit where
  read := readMessage
  body st frame := ([], forwardBody env st frame)
  atEnd st := ([], ⟨st.calls, .ok ()⟩)

/-- The calls made by the client. -/
def Stage.Phase.calls : Stage.Phase UInt8 Forward ForwardExit → List VhciCall
  | .reading st => st.calls
  | .writing _ (.next st) => st.calls
  | .writing _ (.stop exit) => exit.calls
  | .left exit => exit.calls

/-- The URBs submitted by the server. -/
def Stage.Phase.submitted : Stage.Phase UInt8 UrbLoop LoopExit → List (UsbIpCmdSubmit × Bytes)
  | .reading st => st.submitted
  | .writing _ (.next st) => st.submitted
  | .writing _ (.stop exit) => exit.state.submitted
  | .left exit => exit.state.submitted

/-! ## What a loop has done stays done -/

section Server

variable (env : LoopEnv) (cut : ℕ → ℕ)

/-- **The stage of the server** is the URB loop: it leaves as the loop does, and writes what gets
out of the writes of the loop. -/
theorem eval_serverStage (st : UrbLoop) (ms : List Bytes) :
    ∃ ws, (overFrames (urbLoopBody env) UrbLoop.finish st ms).state.written = st.written ++ ws ∧
      (serverStage env cut).eval st ms =
        (env.sentFrom cut st.written.length ws,
          overFrames (urbLoopBody env) UrbLoop.finish st ms) := by
  induction ms generalizing st with
  | nil =>
    obtain ⟨ws, hws⟩ := st.exists_written_finish
    refine ⟨ws, hws, ?_⟩
    simp only [Stage.eval, serverStage, overFrames, hws, List.drop_left]
  | cons m ms ih =>
    obtain ⟨ws, hws⟩ := exists_written_urbLoopBody env st m
    -- the stage writes what gets out of the new writes
    have hstage : (serverStage env cut).body st m =
        (env.sentFrom cut st.written.length ws, urbLoopBody env st m) := by
      simp only [serverStage, hws, List.drop_left]
    cases hbody : urbLoopBody env st m with
    | next st' =>
      rw [hbody] at hws hstage
      have hst' : st'.written = st.written ++ ws := hws
      obtain ⟨vs, hvs, heval⟩ := ih st'
      refine ⟨ws ++ vs, ?_, ?_⟩
      · rw [overFrames, hbody, ← List.append_assoc, ← hst']
        exact hvs
      · rw [Stage.eval_cons_next hstage, heval, env.sentFrom_append, ← List.length_append, ← hst',
          overFrames, hbody]
    | stop exit =>
      rw [hbody] at hws hstage
      refine ⟨ws, ?_, ?_⟩
      · rw [overFrames, hbody]
        exact hws
      · rw [Stage.eval_cons_stop hstage, overFrames, hbody]

/-- The same wherever the stage stands. -/
theorem submitted_prefix_phase (ms : List Bytes) (p : Stage.Phase UInt8 UrbLoop LoopExit) :
    p.submitted <+: (p.eval (serverStage env cut) ms).2.state.submitted := by
  have heval (st : UrbLoop) :
      st.submitted <+: ((serverStage env cut).eval st ms).2.state.submitted := by
    obtain ⟨ws, -, heval⟩ := eval_serverStage env cut st ms
    rw [heval]
    exact submitted_prefix_overFrames env st ms
  cases p with
  | reading st => exact heval st
  | writing pending next =>
    cases next with
    | next st => exact heval st
    | stop exit => exact List.prefix_refl _
  | left exit => exact List.prefix_refl _

end Server

/-- The calls made when a message was handled. -/
def Flow.calls : Flow Forward ForwardExit → List VhciCall
  | .next st => st.calls
  | .stop exit => exit.calls

section Client

variable (env : ForwardEnv)

/-- Handling a message only adds to the calls. -/
theorem calls_forwardBody (st : Forward) (frame : Bytes) :
    st.calls <+: (forwardBody env st frame).calls := by
  unfold forwardBody
  by_cases hctrlC : env.ctrlC st.handled = true
  · rw [if_pos hctrlC]
    exact List.prefix_refl _
  · rw [if_neg hctrlC]
    cases decodeReceived frame with
    | leave => exact List.prefix_refl _
    | skip => exact List.prefix_refl _
    | fail err => exact List.prefix_refl _
    | call c =>
      dsimp only
      cases env.vhci st.calls c with
      | ok u => exact List.prefix_append _ _
      | error err => exact List.prefix_append _ _

/-- **The stage of the client** is the forwarding loop. -/
theorem eval_clientStage (st : Forward) (ms : List Bytes) :
    ((clientStage env).eval st ms).2 =
      overFrames (forwardBody env) (fun st => ⟨st.calls, .ok ()⟩) st ms :=
  (clientStage env).snd_eval st ms

/-- The calls made so far are the first of those that the loop makes. -/
theorem calls_prefix (st : Forward) (ms : List Bytes) :
    st.calls <+:
      (overFrames (forwardBody env) (fun st => ⟨st.calls, .ok ()⟩) st ms).calls := by
  induction ms generalizing st with
  | nil => exact List.prefix_refl _
  | cons m ms ih =>
    have hcalls := calls_forwardBody env st m
    rw [overFrames]
    cases hbody : forwardBody env st m with
    | next st' =>
      rw [hbody] at hcalls
      exact hcalls.trans (ih st')
    | stop exit =>
      rw [hbody] at hcalls
      exact hcalls

/-- The same wherever the stage stands. -/
theorem calls_prefix_phase (ms : List Bytes) (p : Stage.Phase UInt8 Forward ForwardExit) :
    p.calls <+: (p.eval (clientStage env) ms).2.calls := by
  have heval (st : Forward) : st.calls <+: ((clientStage env).eval st ms).2.calls := by
    rw [eval_clientStage]
    exact calls_prefix env st ms
  cases p with
  | reading st => exact heval st
  | writing pending next =>
    cases next with
    | next st => exact heval st
    | stop exit => exact List.prefix_refl _
  | left exit => exact List.prefix_refl _

end Client

/-! ## Completions -/

/-- The call that completes a URB with its result. -/
def CompletedUrb.call (u : CompletedUrb) : VhciCall :=
  .completeUrb u.cmd.seqnum u.cmd.devid u.result.status u.result.actualLength u.result.data

/-- The data of the reply has the length that its record announces. -/
def CompletedUrb.Announced (u : CompletedUrb) : Prop :=
  u.result.data.length = announcedLength u.cmd u.result.status u.result.actualLength

instance (u : CompletedUrb) : Decidable u.Announced :=
  inferInstanceAs (Decidable (_ = _))

/-- The replies are messages that stand for the completions of their URBs. -/
theorem exists_frames_replies {us : List CompletedUrb} (h : ∀ u ∈ us, u.Announced) :
    ∃ fs : List Frame, (fs.map Frame.bytes).flatten = replies us ∧
      fs.filterMap Frame.call = us.map CompletedUrb.call := by
  induction us with
  | nil => exact ⟨[], rfl, rfl⟩
  | cons u us ih =>
    obtain ⟨fs, hbytes, hcalls⟩ := ih fun v hv => h v (by simp [hv])
    have hu : u.Announced := h u (by simp)
    let f := replyFrame u.cmd u.result.status u.result.actualLength u.result.data hu
    have hreply : f.bytes = u.reply := bytes_replyFrame u.cmd _ _ _ hu
    have hcall : (Frame.retSubmit f).call = some u.call := by
      simp [Frame.call, f, replyFrame, replyRecord, CompletedUrb.call, UsbIpRetSubmit.actualLen]
    refine ⟨.retSubmit f :: fs, ?_, ?_⟩
    · rw [List.map_cons, List.flatten_cons, hbytes, Frame.bytes, hreply]
      rfl
    · rw [List.filterMap_cons_some hcall, hcalls, List.map_cons]

/-! ## The three parties -/

/-- The peer's bytes, the server behind them and the client behind the server. -/
abbrev Exchange := Piped UInt8 Forward ForwardExit (Piped UInt8 UrbLoop LoopExit Bytes)

/-- Nothing has happened. The peer is going to send `input`, then it closes the stream; `unread` is
what the handshake has left on the stream to the client. -/
def Exchange.start (input unread : Bytes) : Exchange :=
  ⟨⟨input, [], [], .reading .start⟩, [], unread, .reading ⟨[], 0⟩⟩

/-- The steps of the three parties, over streams that hold `up` and `down` bytes. -/
def exchange (env : LoopEnv) (cut : ℕ → ℕ) (fenv : ForwardEnv) (up down : ℕ) :
    Producer UInt8 Exchange (PipeAction (PipeAction Unit)) :=
  ((Producer.ofList UInt8).pipe (serverStage env cut) up).pipe (clientStage fenv) down

/-- What the client leaves with when it reads, behind what the handshake has left, all that the URB
loop of the server sends on the peer's bytes. -/
def exchangeExit (env : LoopEnv) (cut : ℕ → ℕ) (fenv : ForwardEnv) (input unread : Bytes) :
    ForwardExit :=
  urbForwardingLoop fenv (unread ++ env.sentFrom cut 0 (handleUrbLoopPlain env input).state.written)

section Run

variable (env : LoopEnv) (cut : ℕ → ℕ) (fenv : ForwardEnv) (input unread : Bytes) {up down : ℕ}

/-- The server behind the peer. -/
def determinedServer (hup : 0 < up) :
    Determined ((Producer.ofList UInt8).pipe (serverStage env cut) up) :=
  (Determined.ofList UInt8).pipe selfDelimiting_readMessage hup

/-- What the client is going to receive. -/
theorem future_start (hup : 0 < up) :
    (determinedServer env cut hup).future (Exchange.start input unread).up =
      env.sentFrom cut 0 (handleUrbLoopPlain env input).state.written := by
  obtain ⟨ws, hws, heval⟩ :=
    eval_serverStage env cut .start (drain readMessage ([] ++ ([] ++ input)))
  have hwritten : (handleUrbLoopPlain env input).state.written = ws := hws
  rw [hwritten]
  exact congrArg Prod.fst heval

/-- What the client is going to leave with. -/
theorem outcome_start (hup : 0 < up) :
    (determinedServer env cut hup).outcome (clientStage fenv) (Exchange.start input unread) =
      exchangeExit env cut fenv input unread := by
  rw [exchangeExit, ← future_start env cut input unread hup]
  exact eval_clientStage fenv ⟨[], 0⟩ _

/-- **Concurrency adds nothing to the exchange.** Whatever the peer sends, whatever the device, the
host controller and the writes do, and in whatever order and pieces the bytes travel: the exchange
ends after a bounded number of steps; it stops only when the client has left, with the calls and the
result of the forwarding loop on what the URB loop of the server sends; and at every moment before,
the calls made are the first of these, and the URBs submitted to the device are the first of those
that the URB loop submits. -/
theorem exchange_spec (hup : 0 < up) (hdown : 0 < down) :
    ∃ bound, ∀ as s, run (exchange env cut fenv up down).machine
        (Exchange.start input unread) as = some s →
      as.length ≤ bound ∧
        ((∀ a, (exchange env cut fenv up down).machine s a = none) ↔
          s.phase = .left (exchangeExit env cut fenv input unread)) ∧
        s.phase.calls <+: (exchangeExit env cut fenv input unread).calls ∧
        s.up.phase.submitted <+: (handleUrbLoopPlain env input).state.submitted := by
  have hread := selfDelimiting_readMessage
  let F := determinedServer env cut hup
  refine ⟨(F.pipe (g := clientStage fenv) hread hdown).rank (Exchange.start input unread),
    fun as s hrun => ?_⟩
  have hout : F.outcome (clientStage fenv) s = exchangeExit env cut fenv input unread :=
    (F.outcome_run hread hrun).trans (outcome_start env cut fenv input unread hup)
  have hlength := (F.pipe (g := clientStage fenv) hread hdown).length_run hrun
  have hhalted := F.halted_iff (g := clientStage fenv) hdown (s := s)
  rw [hout] at hhalted
  refine ⟨by omega, hhalted, ?_, ?_⟩
  · rw [← hout]
    exact calls_prefix_phase fenv _ s.phase
  · -- the server takes its own steps
    obtain ⟨bs, hbs⟩ := Producer.reachable_up ⟨as, hrun⟩
    have hserver := (Determined.ofList UInt8).outcome_run hread hbs
    have hstart : (Determined.ofList UInt8).outcome (serverStage env cut)
        (Exchange.start input unread).up = handleUrbLoopPlain env input := by
      obtain ⟨ws, -, heval⟩ :=
        eval_serverStage env cut .start (drain readMessage ([] ++ ([] ++ input)))
      exact congrArg Prod.snd heval
    rw [← hstart, ← hserver]
    exact submitted_prefix_phase env cut _ s.up.phase

end Run

/-- One poll, over streams that hold one byte: at most one call is made, the completion of the
poll. -/
theorem exchange_spec_poll :
    ∃ bound, ∀ as s,
      run (exchange idleEnv (fun _ => 0) (.uninterrupted fun _ _ => .ok ()) 1 1).machine
          (Exchange.start (pollFrame 1).bytes []) as = some s →
        as.length ≤ bound ∧ s.phase.calls <+: [.completeUrb 1 1 0 0 []] := by
  obtain ⟨bound, h⟩ := exchange_spec idleEnv (fun _ => 0) (.uninterrupted fun _ _ => .ok ())
    (pollFrame 1).bytes [] Nat.one_pos Nat.one_pos
  refine ⟨bound, fun as s hrun => ?_⟩
  obtain ⟨hbound, -, hcalls, -⟩ := h as s hrun
  have hexit : (exchangeExit idleEnv (fun _ => 0) (.uninterrupted fun _ _ => .ok ())
      (pollFrame 1).bytes []).calls = [.completeUrb 1 1 0 0 []] := by
    decide +kernel
  exact ⟨hbound, hexit ▸ hcalls⟩

/-- The completed URBs whose replies are sent. -/
def LoopEnv.accepted (env : LoopEnv) (fs : List CmdSubmitFrame) : List CompletedUrb :=
  (replyBatches (env.completed fs)).flatten

/-- **Every URB is completed at most once, in the order of the submissions and with its own
result.** The peer submits URBs, the handshake has left no reply on the stream, the writes succeed
and the data of every reply that is sent has the length its record announces. Then the completed
URBs are those that joined a batch, all of them when each may join the batch that is open before
it; at every moment the first of them have been handed to the host controller, and when the
exchange stops all of them, up to the first that the host controller refuses. -/
theorem exchange_completions (env : LoopEnv) (hw : ∀ n, env.writeMessage n = .ok ())
    (cut : ℕ → ℕ) (vhci : List VhciCall → VhciCall → UsbIpResult Unit) (fs : List CmdSubmitFrame)
    {gs : List Frame} (hgs : ∀ g ∈ gs, ¬g.IsReply)
    (hlen : ∀ u ∈ env.accepted fs, u.Announced) {up down : ℕ}
    (hup : 0 < up) (hdown : 0 < down) :
    (env.accepted fs).Sublist (env.completed fs) ∧
      (env.accepted fs = env.completed fs ↔ ∀ k (hk : k < (env.completed fs).length),
        Joins (openBatch defaultBatchSize ((env.completed fs).take k)) (env.completed fs)[k]) ∧
      ∀ as s, run (exchange env cut (.uninterrupted vhci) up down).machine
          (Exchange.start (fs.map CmdSubmitFrame.bytes).flatten (gs.map Frame.bytes).flatten) as =
            some s →
        s.phase.calls <+: performed vhci [] ((env.accepted fs).map CompletedUrb.call) ∧
          ((∀ a, (exchange env cut (.uninterrupted vhci) up down).machine s a = none) →
            s.phase.calls = performed vhci [] ((env.accepted fs).map CompletedUrb.call)) := by
  refine ⟨sublist_flatten_batchesFrom Joins defaultBatchSize [] _,
    flatten_batches_eq_iff (by decide) _, fun as s hrun => ?_⟩
  obtain ⟨bound, hspec⟩ := exchange_spec env cut (.uninterrupted vhci)
    (fs.map CmdSubmitFrame.bytes).flatten (gs.map Frame.bytes).flatten hup hdown
  obtain ⟨-, hhalted, hcalls, -⟩ := hspec as s hrun
  -- what the client receives are messages, the replies among them in order
  obtain ⟨rs, hbytes, hrs⟩ := exists_frames_replies hlen
  have hstream : env.sentFrom cut 0 (handleUrbLoopPlain env
      (fs.map CmdSubmitFrame.bytes).flatten).state.written = (rs.map Frame.bytes).flatten := by
    rw [env.sentFrom_of_ok cut hw, written_handleUrbLoopPlain hw, ← replies_flatten, hbytes,
      LoopEnv.accepted]
  have hexit : (exchangeExit env cut (.uninterrupted vhci) (fs.map CmdSubmitFrame.bytes).flatten
      (gs.map Frame.bytes).flatten).calls =
        performed vhci [] ((env.accepted fs).map CompletedUrb.call) := by
    have hdrain : drain readMessage ((gs.map Frame.bytes).flatten ++ (rs.map Frame.bytes).flatten) =
        (gs ++ rs).map Frame.bytes := by
      have hnil := drain_map_bytes_append rs []
      rw [List.append_nil, drain_nil, List.append_nil] at hnil
      rw [drain_map_bytes_append, hnil, List.map_append]
    have hskip : gs.filterMap Frame.call = [] :=
      List.filterMap_eq_nil_iff.2 fun g hg => g.call_eq_none_iff.2 (hgs g hg)
    rw [exchangeExit, hstream, urbForwardingLoop, readLoop, hdrain, calls_overFrames,
      List.filterMap_append, hskip, List.nil_append, hrs]
  rw [hexit] at hcalls
  refine ⟨hcalls, fun hnone => ?_⟩
  rw [hhalted.1 hnone]
  exact hexit

/-- Two polls in sequence, with nothing left by the handshake: both join a batch, and both are
completed when the exchange stops. -/
theorem exchange_completions_polls :
    idleEnv.accepted [pollFrame 1, pollFrame 2] = idleEnv.completed [pollFrame 1, pollFrame 2] ∧
      ∀ as s, run (exchange idleEnv (fun _ => 0) (.uninterrupted fun _ _ => .ok ()) 1 1).machine
          (Exchange.start ([pollFrame 1, pollFrame 2].map CmdSubmitFrame.bytes).flatten []) as =
            some s →
        (∀ a, (exchange idleEnv (fun _ => 0) (.uninterrupted fun _ _ => .ok ()) 1 1).machine
          s a = none) →
        s.phase.calls = [.completeUrb 1 1 0 0 [], .completeUrb 2 1 0 0 []] := by
  obtain ⟨-, haccepted, hrun⟩ := exchange_completions idleEnv (fun _ => rfl) (fun _ => 0)
    (fun _ _ => .ok ()) [pollFrame 1, pollFrame 2] (List.forall_mem_nil _)
    (by decide +kernel) Nat.one_pos Nat.one_pos
  refine ⟨haccepted.2 (by decide +kernel), fun as s h hnone => ?_⟩
  exact ((hrun as s h).2 hnone).trans (by decide +kernel)

end AnyPlug
