import AnyPlug.Server.Api
import AnyPlug.Server.Bounds

/-!
# The sessions refine the URB loop

The model has the URB loop of `usbip-server/src/server.rs` twice. `handleUrbLoop` is the loop as a
function of the messages it reads, with the answers of the device, the clock and the outcomes of its
writes in a `LoopEnv`. In `Session.step` the same loop goes on by single steps, between those of any
number of other sessions and of calls of the REST API, on maps that all of them share.

`loopRecord` is a history variable: what the loop of a session was given in a run of the server.
`session_refines` says that the session does with it what `handleUrbLoop` does, whatever happens
between its steps, so that what is proved of the function holds of the sessions of the server.
`session_replies` is an instance of it.
-/

namespace AnyPlug

/-! ## What the loop of a session was given -/

/-- The messages that a loop has read, the URBs it has submitted, with their data, as they were
completed, and the outcomes of its writes. -/
structure LoopRecord where
  messages : List Bytes
  urbs : List (Bytes × CompletedUrb)
  writes : List (UsbIpResult Unit)

namespace LoopRecord

/-- The loop starts. -/
def start : LoopRecord := ⟨[], [], []⟩

/-- Note what a step gives to a loop that is in the given phase. -/
def note (r : LoopRecord) (sh : Shared) : Phase → Event → LoopRecord
  | .urbLoop _ _, .readMessage (.ok m) => { r with messages := r.messages ++ [m] }
  | .submit busid _ cmd data, .submit a now =>
    let result := UsbDeviceManager.submitUrb (sh.handles busid) (fun _ _ _ => a) busid cmd data
    { r with urbs := r.urbs ++ [(data, ⟨cmd, result, now⟩)] }
  | .write _ _ _, .write w => { r with writes := r.writes ++ [w] }
  | _, _ => r

/-- The URBs as the loop has submitted them. -/
def submitted (r : LoopRecord) : List (UsbIpCmdSubmit × Bytes) :=
  r.urbs.map fun (data, u) => (u.cmd, data)

/-- The URBs as they were completed. -/
def completed (r : LoopRecord) : List CompletedUrb := r.urbs.map Prod.snd

end LoopRecord

/-- The session is in the URB loop, or releases the device after it. -/
def Phase.inLoop : Phase → Bool
  | .urbLoop _ _ | .submit _ _ _ _ | .write _ _ _ | .flush _ _ | .release _ | .remove _ => true
  | _ => false

/-- Note a step of a session, from `ses` to `ses'`. The record starts when the wire is installed. -/
def Session.noted (sh : Shared) (ses ses' : Session) (e : Event) :
    Option LoopRecord → Option LoopRecord
  | some r => some (r.note sh ses.phase e)
  | none => if ses'.phase.inLoop then some .start else none

/-- Note an action of the server, from `s` to `t`. -/
def Server.noted (i : ℕ) (s t : Server) (r : Option LoopRecord) : Action → Option LoopRecord
  | .session j e => if j = i then (s.sessions i).noted s.shared (t.sessions i) e r else r
  | _ => r

/-- What the loop of session `i` was given in a run from `s`, after what is in `r`. -/
def loopRecord (config : ServerConfig) (peer : ℕ → SocketAddr) (i : ℕ) :
    Server → Option LoopRecord → List Action → Option LoopRecord
  | _, r, [] => r
  | s, r, a :: as =>
    match s.apiStep config peer a with
    | none => r
    | some t => loopRecord config peer i t (s.noted i t r a) as

/-! ## Environments that answer as recorded -/

/-- The environment completes the URBs of the record as they were completed, and lets the writes
succeed or fail as they did. -/
structure LoopEnv.Fits (env : LoopEnv) (r : LoopRecord) : Prop where
  urb : ∀ k data u, r.urbs[k]? = some (data, u) →
    env.submitUrb k u.cmd data = u.result ∧ env.now k = u.now
  write : ∀ (k : ℕ) w, r.writes[k]? = some w → env.writeMessage k = w

/-- An environment made of the record. -/
def LoopRecord.env (r : LoopRecord) : LoopEnv where
  submitUrb k _ _ := (r.urbs[k]?).elim ⟨0, 0, []⟩ fun (_, u) => u.result
  now k := (r.urbs[k]?).elim 0 fun (_, u) => u.now
  writeMessage k := (r.writes[k]?).getD (.ok ())

theorem LoopRecord.fits_env (r : LoopRecord) : r.env.Fits r where
  urb k data u h := by simp [LoopRecord.env, h]
  write k w h := by simp [LoopRecord.env, h]

theorem getElem?_eq_of_isPrefix {α : Type*} {xs ys : List α} (h : xs <+: ys) {k : ℕ} {x : α}
    (hk : xs[k]? = some x) : ys[k]? = some x := by
  obtain ⟨zs, rfl⟩ := h
  rw [List.getElem?_append_left (List.getElem?_eq_some_iff.1 hk).1, hk]

/-- What fits a record fits what was recorded before. -/
theorem LoopEnv.Fits.of_isPrefix {env : LoopEnv} {r r' : LoopRecord} (h : env.Fits r')
    (hurbs : r.urbs <+: r'.urbs) (hwrites : r.writes <+: r'.writes) : env.Fits r where
  urb k data u hk := h.urb k data u (getElem?_eq_of_isPrefix hurbs hk)
  write k w hk := h.write k w (getElem?_eq_of_isPrefix hwrites hk)

/-! ## What the loop does from where it stands -/

namespace LoopEnv

variable (env : LoopEnv)

/-- Go on over the messages to come. -/
def goOn : Flow UrbLoop LoopExit → List Bytes → LoopExit
  | .next st, ms => overFrames (urbLoopBody env) UrbLoop.finish st ms
  | .stop exit, _ => exit

/-- What comes of the write of a batch. -/
def afterWrite (st : UrbLoop) (batch : Bytes) : Flow UrbLoop LoopExit :=
  match env.writeMessage st.written.length with
  | .ok () => .next (st.write batch)
  | .error e => .stop ⟨st.write batch, .error e⟩

/-- What comes of a URB that was submitted. -/
def afterSubmit : UrbLoop × Option Bytes → Flow UrbLoop LoopExit
  | (st, none) => .next st
  | (st, some batch) => env.afterWrite st batch

theorem overFrames_cons (st : UrbLoop) (m : Bytes) (ms : List Bytes) :
    overFrames (urbLoopBody env) UrbLoop.finish st (m :: ms) =
      env.goOn (urbLoopBody env st m) ms := by
  rw [overFrames]
  cases urbLoopBody env st m <;> rfl

theorem urbLoopBody_of_submit {m data : Bytes} {cmd : UsbIpCmdSubmit}
    (h : decodeFrame m = .submit cmd data) (st : UrbLoop) :
    urbLoopBody env st m = env.afterSubmit (st.submit env.toUrbEnv cmd data) := by
  rw [urbLoopBody, h, UrbLoop.handle]
  rcases st.submit env.toUrbEnv cmd data with ⟨st', _ | batch⟩ <;> rfl

/-- Nothing that was done is undone. -/
theorem prefix_afterWrite (st : UrbLoop) (batch : Bytes) :
    st.written <+: (env.afterWrite st batch).written ∧
      (env.afterWrite st batch).submitted = st.submitted := by
  unfold afterWrite
  cases env.writeMessage st.written.length with
  | ok a => exact ⟨List.prefix_append _ _, rfl⟩
  | error e => exact ⟨List.prefix_append _ _, rfl⟩

theorem prefix_afterSubmit (p : UrbLoop × Option Bytes) :
    p.1.written <+: (env.afterSubmit p).written ∧
      (env.afterSubmit p).submitted = p.1.submitted := by
  obtain ⟨st, _ | batch⟩ := p
  · exact ⟨List.prefix_refl _, rfl⟩
  · exact env.prefix_afterWrite st batch

theorem prefix_goOn (f : Flow UrbLoop LoopExit) :
    f.written <+: (env.goOn f []).state.written ∧
      f.submitted <+: (env.goOn f []).state.submitted := by
  cases f with
  | next st =>
    obtain ⟨ws, hws⟩ := st.exists_written_finish
    exact ⟨⟨ws, hws.symm⟩, submitted_prefix_overFrames env st []⟩
  | stop exit => exact ⟨List.prefix_refl _, List.prefix_refl _⟩

end LoopEnv

/-- **The loop stands at** `st` with what is in the record: the function, on the messages of the
record and any more, comes to what `k` gives on those. -/
structure LoopRecord.At (r : LoopRecord) (st : UrbLoop)
    (k : LoopEnv → List Bytes → LoopExit) : Prop where
  submitted : st.submitted = r.submitted
  writes : st.written.length = r.writes.length
  eval : ∀ env : LoopEnv, env.Fits r → ∀ ms,
    overFrames (urbLoopBody env) UrbLoop.finish .start (r.messages ++ ms) = k env ms

/-- **The session refines the loop**: it stands where the function stands. -/
inductive Session.Refines (ses : Session) (r : LoopRecord) : Prop
  | reading {busid : String} {entry : UsbIpDeviceEntry} {tree : Bytes} {st : UrbLoop}
    (hp : ses.phase = .urbLoop busid st.batcher)
    (hsent : ses.sent = importReply entry tree :: st.written)
    (hat : r.At st fun env ms => env.goOn (.next st) ms)
  | submitting {busid : String} {entry : UsbIpDeviceEntry} {tree : Bytes} {st : UrbLoop}
    {cmd : UsbIpCmdSubmit} {data : Bytes} (hp : ses.phase = .submit busid st.batcher cmd data)
    (hsent : ses.sent = importReply entry tree :: st.written)
    (hat : r.At st fun env ms => env.goOn (env.afterSubmit (st.submit env.toUrbEnv cmd data)) ms)
  | writing {busid : String} {entry : UsbIpDeviceEntry} {tree : Bytes} {st : UrbLoop}
    {batch : Bytes} (hp : ses.phase = .write busid st.batcher batch)
    (hsent : ses.sent = importReply entry tree :: st.written)
    (hat : r.At st fun env ms => env.goOn (env.afterWrite st batch) ms)
  | flushing {busid : String} {entry : UsbIpDeviceEntry} {tree : Bytes} {st : UrbLoop}
    (hp : ses.phase = .flush busid st.batcher)
    (hsent : ses.sent = importReply entry tree :: st.written)
    (hsub : st.submitted = r.submitted)
    (heval : ∀ env : LoopEnv, env.Fits r → handleUrbLoop env r.messages = st.finish)
  | left {entry : UsbIpDeviceEntry} {tree : Bytes} {exit : LoopExit}
    (hp : (∃ busid, ses.phase = .release busid ∨ ses.phase = .remove busid) ∨
      ses.phase.isReturned = true)
    (hsent : ses.sent = importReply entry tree :: exit.state.written)
    (hsub : exit.state.submitted = r.submitted)
    (heval : ∀ env : LoopEnv, env.Fits r → handleUrbLoop env r.messages = exit)
    (hresult : ∀ e, exit.result = .error e → ses.phase = .returned (.error e))

namespace Session

variable {config : ServerConfig} {peer : SocketAddr} {sh sh' : Shared} {ses ses' : Session}
  {e : Event} {r : LoopRecord} {st : UrbLoop} {entry : UsbIpDeviceEntry} {tree : Bytes}
  {busid : String}

/-! ## One step -/

/-- A message was read, or the wire has failed. -/
theorem refines_read (hsent : ses.sent = importReply entry tree :: st.written)
    (hat : r.At st fun env ms => env.goOn (.next st) ms) (a : UsbIpResult Bytes) :
    (ses.goto (afterRead busid st.batcher a)).Refines
      (r.note sh (.urbLoop busid st.batcher) (.readMessage a)) := by
  cases a with
  | error e =>
    refine .flushing rfl hsent hat.submitted fun env henv => ?_
    have heval := hat.eval env henv []
    rwa [List.append_nil] at heval
  | ok m =>
    -- the function comes to the same message next
    set r' := r.note sh (.urbLoop busid st.batcher) (.readMessage (.ok m)) with hr'
    have heval (env : LoopEnv) (henv : env.Fits r') (ms : List Bytes) :
        overFrames (urbLoopBody env) UrbLoop.finish .start (r'.messages ++ ms) =
          env.goOn (urbLoopBody env st m) ms := by
      have hfits : env.Fits r := henv.of_isPrefix (List.prefix_refl _) (List.prefix_refl _)
      rw [hr', LoopRecord.note, List.append_assoc, List.singleton_append, hat.eval env hfits]
      exact env.overFrames_cons st m ms
    cases hm : decodeFrame m with
    | leave =>
      have hphase : (ses.goto (afterRead busid st.batcher (.ok m))).phase =
          .flush busid st.batcher := by
        simp [goto, afterRead, hm]
      refine .flushing hphase hsent hat.submitted fun env henv => ?_
      have hend := heval env henv []
      rw [List.append_nil, urbLoopBody, hm] at hend
      exact hend
    | unknown =>
      have hphase : (ses.goto (afterRead busid st.batcher (.ok m))).phase =
          .urbLoop busid st.batcher := by
        simp [goto, afterRead, hm]
      refine .reading hphase hsent ⟨hat.submitted, hat.writes, fun env henv ms => ?_⟩
      have hnext := heval env henv ms
      rw [urbLoopBody, hm] at hnext
      exact hnext
    | submit cmd data =>
      have hphase : (ses.goto (afterRead busid st.batcher (.ok m))).phase =
          .submit busid st.batcher cmd data := by
        simp [goto, afterRead, hm]
      refine .submitting hphase hsent ⟨hat.submitted, hat.writes, fun env henv ms => ?_⟩
      have hnext := heval env henv ms
      rw [env.urbLoopBody_of_submit hm] at hnext
      exact hnext

/-- A URB was completed, and its reply pushed. -/
theorem refines_submit {cmd : UsbIpCmdSubmit} {data : Bytes}
    (hsent : ses.sent = importReply entry tree :: st.written)
    (hat : r.At st fun env ms => env.goOn (env.afterSubmit (st.submit env.toUrbEnv cmd data)) ms)
    (a : UsbIpResult UrbTransferResult) (now : ℕ) :
    (ses.goto (afterPush busid (st.batcher.pushReply cmd (UsbDeviceManager.submitUrb
        (sh.handles busid) (fun _ _ _ => a) busid cmd data) now))).Refines
      (r.note sh (.submit busid st.batcher cmd data) (.submit a now)) := by
  set result := UsbDeviceManager.submitUrb (sh.handles busid) (fun _ _ _ => a) busid cmd data
    with hresult
  rcases hpush : st.batcher.pushReply cmd result now with ⟨bt, due⟩
  set r' := r.note sh (.submit busid st.batcher cmd data) (.submit a now) with hr'
  have hlen : st.submitted.length = r.urbs.length := by
    rw [hat.submitted, LoopRecord.submitted, List.length_map]
  have hsub : st.submitted ++ [(cmd, data)] = r'.submitted := by
    rw [hat.submitted]
    simp [r', LoopRecord.submitted, LoopRecord.note]
  -- an environment that fits answers the URB as the device did
  have hdone (env : LoopEnv) (henv : env.Fits r') :
      st.submit env.toUrbEnv cmd data = (⟨bt, st.submitted ++ [(cmd, data)], st.written⟩, due) := by
    obtain ⟨hres, hnow⟩ := henv.urb r.urbs.length data ⟨cmd, result, now⟩
      (by simp [r', LoopRecord.note, hresult])
    rw [UrbLoop.submit, hlen]
    dsimp only at hres hnow ⊢
    rw [hres, hnow, hpush]
  have heval (env : LoopEnv) (henv : env.Fits r') (ms : List Bytes) :
      overFrames (urbLoopBody env) UrbLoop.finish .start (r'.messages ++ ms) =
        env.goOn (env.afterSubmit (⟨bt, st.submitted ++ [(cmd, data)], st.written⟩, due)) ms := by
    have hfits : env.Fits r := henv.of_isPrefix ⟨_, rfl⟩ (List.prefix_refl _)
    rw [← hdone env henv]
    exact hat.eval env hfits ms
  cases due with
  | none =>
    exact @Session.Refines.reading _ r' busid entry tree
      ⟨bt, st.submitted ++ [(cmd, data)], st.written⟩ rfl hsent ⟨hsub, hat.writes, heval⟩
  | some batch =>
    exact @Session.Refines.writing _ r' busid entry tree
      ⟨bt, st.submitted ++ [(cmd, data)], st.written⟩ batch rfl hsent ⟨hsub, hat.writes, heval⟩

/-- A batch was written, or could not be. -/
theorem refines_write {batch : Bytes} (hsent : ses.sent = importReply entry tree :: st.written)
    (hat : r.At st fun env ms => env.goOn (env.afterWrite st batch) ms) (w : UsbIpResult Unit) :
    ((ses.send batch).propagate w fun _ => .urbLoop busid st.batcher).Refines
      (r.note sh (.write busid st.batcher batch) (.write w)) := by
  set r' := r.note sh (.write busid st.batcher batch) (.write w) with hr'
  have hsent' : ses.sent ++ [batch] = importReply entry tree :: (st.write batch).written := by
    rw [hsent]
    rfl
  have heval (env : LoopEnv) (henv : env.Fits r') (ms : List Bytes) :
      overFrames (urbLoopBody env) UrbLoop.finish .start (r'.messages ++ ms) =
        env.goOn (env.afterWrite st batch) ms :=
    hat.eval env (henv.of_isPrefix (List.prefix_refl _) ⟨_, rfl⟩) ms
  have hwrite (env : LoopEnv) (henv : env.Fits r') : env.writeMessage st.written.length = w :=
    henv.write _ _ (by simp [r', LoopRecord.note, hat.writes])
  cases w with
  | ok a =>
    refine @Session.Refines.reading _ r' busid entry tree (st.write batch) rfl hsent'
      ⟨hat.submitted, ?_, fun env henv ms => ?_⟩
    · simp [UrbLoop.write, r', LoopRecord.note, hat.writes]
    · rw [heval env henv, LoopEnv.afterWrite, hwrite env henv]
  | error e =>
    refine @Session.Refines.left _ r' entry tree ⟨st.write batch, .error e⟩ (.inr rfl) hsent'
      hat.submitted (fun env henv => ?_) fun e' he' => ?_
    · have hend := heval env henv []
      rw [List.append_nil, LoopEnv.afterWrite, hwrite env henv] at hend
      exact hend
    · obtain rfl := Except.error.inj he'
      rfl

/-- What was left in the batcher was written. -/
theorem refines_flush (hsent : ses.sent = importReply entry tree :: st.written)
    (hsub : st.submitted = r.submitted)
    (heval : ∀ env : LoopEnv, env.Fits r → handleUrbLoop env r.messages = st.finish) :
    ((if !st.batcher.isEmpty then ses.send st.batcher.flush.1 else ses).goto
      (.release busid)).Refines r := by
  refine @Session.Refines.left _ r entry tree st.finish (.inl ⟨busid, .inl rfl⟩) ?_ ?_ heval
    fun e he => ?_
  · unfold UrbLoop.finish
    split
    · simp [goto, send, hsent, UrbLoop.write]
    · exact hsent
  · rw [st.submitted_finish, hsub]
  · unfold UrbLoop.finish at he
    split at he <;> cases he

/-- A session that is not in the loop yet has sent the reply to its import when it installs the
wire, and nothing before. -/
structure NotYet (ses : Session) : Prop where
  outside : ses.phase.inLoop = false
  install : ∀ busid, ses.phase = .install busid →
    ∃ entry tree, ses.sent = [importReply entry tree]
  before : ses.phase.isReturned = false → (∀ busid, ses.phase ≠ .install busid) → ses.sent = []

/-- What is true of a session and its record. -/
def Tracks (ses : Session) : Option LoopRecord → Prop
  | none => ses.NotYet
  | some r => ses.Refines r

theorem NotYet.of_returned (h : ses.phase.isReturned = true) : ses.NotYet := by
  cases hp : ses.phase with
  | returned result =>
    exact ⟨by rw [hp]; rfl, fun busid hb => (by simp [hp] at hb), fun h' => by simp [h] at h'⟩
  | _ => simp [hp, Phase.isReturned] at h

/-- Nothing was sent before the reply to the import. -/
theorem NotYet.sent_eq_nil (hn : ses.NotYet) {phase : Phase} (hp : ses.phase = phase)
    (hreturned : phase.isReturned = false) (hinstall : ∀ busid, phase ≠ .install busid) :
    ses.sent = [] :=
  hn.before (by rw [hp, hreturned]) fun busid hb => hinstall busid (hp.symm.trans hb)

/-- The session goes on before the reply. -/
theorem notYet_goto {phase : Phase} (hsent : ses.sent = []) (hout : phase.inLoop = false)
    (hinstall : ∀ busid, phase ≠ .install busid) : (ses.goto phase).NotYet :=
  ⟨hout, fun busid hb => absurd hb (hinstall busid), fun _ _ => hsent⟩

theorem notYet_propagate {α : Type} {a : UsbIpResult α} {next : α → Phase} (hsent : ses.sent = [])
    (hout : ∀ a, (next a).inLoop = false) (hinstall : ∀ a busid, next a ≠ .install busid) :
    (ses.propagate a next).NotYet := by
  cases a with
  | ok a => exact notYet_goto hsent (hout a) (hinstall a)
  | error err => exact .of_returned rfl

theorem notYet_dispatch (header : Vector UInt8 8) :
    (dispatch header).inLoop = false ∧ ∀ busid, dispatch header ≠ .install busid := by
  unfold dispatch
  split
  · simp [Phase.inLoop]
  · split
    · simp [Phase.inLoop]
    · split <;> simp [Phase.inLoop]

/-- The loop starts after the reply to the import. -/
theorem refines_start (hp : ses.phase = .urbLoop busid .new)
    (hsent : ses.sent = [importReply entry tree]) : ses.Refines .start :=
  @Session.Refines.reading _ .start busid entry tree .start hp hsent ⟨rfl, rfl, fun _ _ _ => rfl⟩

/-- A session that is in the loop goes on as the function does. -/
theorem refines_step (h : ses.step config peer sh e = some (sh', ses')) (hr : ses.Refines r) :
    ses'.Refines (r.note sh ses.phase e) := by
  cases hr with
  | reading hp hsent hat =>
    rw [hp]
    cases step_of_eq_some h with
    | readMessage hp' =>
      obtain ⟨rfl, rfl⟩ := Phase.urbLoop.inj (hp.symm.trans hp')
      exact refines_read hsent hat _
    | _ => simp_all
  | submitting hp hsent hat =>
    rw [hp]
    cases step_of_eq_some h with
    | submit hp' =>
      obtain ⟨rfl, rfl, rfl, rfl⟩ := Phase.submit.inj (hp.symm.trans hp')
      exact refines_submit hsent hat _ _
    | _ => simp_all
  | writing hp hsent hat =>
    rw [hp]
    cases step_of_eq_some h with
    | write hp' =>
      obtain ⟨rfl, rfl, rfl⟩ := Phase.write.inj (hp.symm.trans hp')
      exact refines_write hsent hat _
    | _ => simp_all
  | flushing hp hsent hsub heval =>
    rw [hp]
    cases step_of_eq_some h with
    | flush hp' =>
      obtain ⟨rfl, rfl⟩ := Phase.flush.inj (hp.symm.trans hp')
      exact refines_flush hsent hsub heval
    | _ => simp_all
  | @left entry tree exit hp hsent hsub heval hresult =>
    have hreturned := not_isReturned_of_step h
    obtain ⟨busid, hp⟩ := hp.resolve_right (by simp [hreturned])
    -- a write that failed has ended the session before
    have hok (err : ErrorKind) (herr : exit.result = .error err) : False := by
      rw [hresult err herr] at hreturned
      cases hreturned
    cases step_of_eq_some h with
    | @release _ a hp' =>
      rw [hp']
      cases a with
      | ok a =>
        exact .left (.inl ⟨_, .inr rfl⟩) hsent hsub heval fun err herr => (hok err herr).elim
      | error err => exact .left (.inr rfl) hsent hsub heval fun err herr => (hok err herr).elim
    | remove hp' =>
      rw [hp']
      exact .left (.inr rfl) hsent hsub heval fun err herr => (hok err herr).elim
    | _ => simp_all

theorem noted_none_of_notYet (hn : ses'.NotYet) : Tracks ses' (ses.noted sh ses' e none) := by
  rw [noted, hn.outside]
  exact hn

/-- A session that is not in the loop yet starts it as the function does, if at all. -/
theorem tracks_of_notYet (h : ses.step config peer sh e = some (sh', ses')) (hn : ses.NotYet) :
    Tracks ses' (ses.noted sh ses' e none) := by
  cases step_of_eq_some h with
  | setNodelay hp | readBusid hp | describe hp =>
    exact noted_none_of_notYet
      (notYet_propagate (hn.sent_eq_nil hp rfl (by simp)) (fun _ => rfl) (by simp))
  | readHeader hp =>
    exact noted_none_of_notYet
      (notYet_propagate (hn.sent_eq_nil hp rfl (by simp)) (fun a => (notYet_dispatch a).1)
        fun a => (notYet_dispatch a).2)
  | keepDelay hp | found hp | claim hp =>
    exact noted_none_of_notYet (notYet_goto (hn.sent_eq_nil hp rfl (by simp)) rfl (by simp))
  | devlist hp | nodev hp | busy hp =>
    exact noted_none_of_notYet (.of_returned (isReturned_answer _ _ _))
  | enter hp =>
    exact noted_none_of_notYet ⟨rfl, by simp, fun _ _ => hn.sent_eq_nil hp rfl (by simp)⟩
  | claimFails hp => exact noted_none_of_notYet (.of_returned rfl)
  | @reply busid entry tree a hp =>
    have hsent := hn.sent_eq_nil hp rfl (by simp)
    cases a with
    | ok a =>
      refine noted_none_of_notYet ⟨rfl, fun _ _ => ⟨entry, tree, ?_⟩, fun _ hinstall => ?_⟩
      · simp [propagate, send, goto, hsent]
      · exact absurd rfl (hinstall busid)
    | error err => exact noted_none_of_notYet (.of_returned rfl)
  | @exchange busid a hp =>
    cases a with
    | ok a =>
      obtain ⟨entry, tree, hsent⟩ := hn.install _ hp
      exact refines_start rfl hsent
    | error err => exact noted_none_of_notYet (.of_returned rfl)
  | install hp =>
    obtain ⟨entry, tree, hsent⟩ := hn.install _ hp
    exact refines_start rfl hsent
  | readMessage hp | submit hp | write hp | flush hp | release hp | remove hp =>
    have hout := hn.outside
    rw [hp] at hout
    cases hout

end Session

/-! ## All runs of the server -/

section Runs

variable {config : ServerConfig} {peer : ℕ → SocketAddr} {s t : Server} {r : LoopRecord}

/-- Other sessions and the API do not interfere with a session and its record. -/
theorem Server.tracks_step {i : ℕ} {a : Action} {r : Option LoopRecord}
    (h : s.apiStep config peer a = some t) (hs : (s.sessions i).Tracks r) :
    (t.sessions i).Tracks (s.noted i t r a) := by
  cases a with
  | session j e =>
    obtain ⟨⟨sh, ses⟩, hstep, rfl⟩ := Option.map_eq_some_iff.1 h
    by_cases hj : j = i
    · subst hj
      simp only [Server.noted, if_true, Function.update_self]
      cases r with
      | none => exact Session.tracks_of_notYet hstep hs
      | some r => exact Session.refines_step hstep hs
    · simp only [Server.noted, if_neg hj, Function.update_of_ne (Ne.symm hj)]
      exact hs
  | connect host a =>
    cases h
    exact hs
  | disconnect busid =>
    cases h
    exact hs

theorem Server.tracks_run {i : ℕ} {as : List Action} {r : Option LoopRecord}
    (h : run (Server.apiStep config peer) s as = some t) (hs : (s.sessions i).Tracks r) :
    (t.sessions i).Tracks (loopRecord config peer i s r as) := by
  induction as generalizing s r with
  | nil => exact Option.some.inj h ▸ hs
  | cons a as ih =>
    obtain ⟨u, hu, hrun⟩ := run_cons_eq_some.1 h
    rw [loopRecord, hu]
    exact ih hrun (Server.tracks_step hu hs)

/-- A session in a run of the server stands where the loop stands. -/
theorem Server.refines_of_run {i : ℕ} {as : List Action}
    (h : run (Server.apiStep config peer) .init as = some t)
    (hr : loopRecord config peer i .init none as = some r) : (t.sessions i).Refines r := by
  have hinit : (Server.init.sessions i).Tracks none := by
    refine ⟨rfl, fun busid hb => ?_, fun _ _ => rfl⟩
    cases hb
  have htracks := Server.tracks_run h hinit
  rw [hr] at htracks
  exact htracks

/-- The session has left its loop. -/
def Phase.leftLoop : Phase → Bool
  | .release _ | .remove _ | .returned _ => true
  | _ => false

/-- What the session has sent and submitted, compared with what the function does. -/
theorem Session.Refines.standing {ses : Session} (h : ses.Refines r) {env : LoopEnv}
    (henv : env.Fits r) :
    ∃ entry tree,
      ses.sent <+: importReply entry tree :: (handleUrbLoop env r.messages).state.written ∧
        r.submitted <+: (handleUrbLoop env r.messages).state.submitted ∧
        (ses.phase.leftLoop = true →
          ses.sent = importReply entry tree :: (handleUrbLoop env r.messages).state.written ∧
            r.submitted = (handleUrbLoop env r.messages).state.submitted ∧
            ∀ e, (handleUrbLoop env r.messages).result = .error e →
              ses.phase = .returned (.error e)) := by
  -- in the loop, the function goes on from what was done so far
  have hstanding {entry : UsbIpDeviceEntry} {tree : Bytes} {st : UrbLoop}
      {f : Flow UrbLoop LoopExit} (hsent : ses.sent = importReply entry tree :: st.written)
      (hsub : st.submitted = r.submitted) (heval : handleUrbLoop env r.messages = env.goOn f [])
      (hwritten : st.written <+: f.written) (hsubmitted : st.submitted <+: f.submitted) :
      ses.sent <+: importReply entry tree :: (handleUrbLoop env r.messages).state.written ∧
        r.submitted <+: (handleUrbLoop env r.messages).state.submitted := by
    obtain ⟨hw, hs⟩ := env.prefix_goOn f
    rw [heval, hsent, ← hsub]
    exact ⟨List.cons_prefix_cons.2 ⟨rfl, hwritten.trans hw⟩, hsubmitted.trans hs⟩
  cases h with
  | @reading busid entry tree st hp hsent hat =>
    have heval := hat.eval env henv []
    rw [List.append_nil] at heval
    obtain ⟨hw, hs⟩ := hstanding hsent hat.submitted heval (List.prefix_refl _)
      (List.prefix_refl _)
    exact ⟨entry, tree, hw, hs, fun hleft => by simp [hp, Phase.leftLoop] at hleft⟩
  | @submitting busid entry tree st cmd data hp hsent hat =>
    have heval := hat.eval env henv []
    rw [List.append_nil] at heval
    obtain ⟨hwritten, hsubmitted⟩ := env.prefix_afterSubmit (st.submit env.toUrbEnv cmd data)
    obtain ⟨hw, hs⟩ := hstanding hsent hat.submitted heval hwritten
      (hsubmitted ▸ List.prefix_append _ _)
    exact ⟨entry, tree, hw, hs, fun hleft => by simp [hp, Phase.leftLoop] at hleft⟩
  | @writing busid entry tree st batch hp hsent hat =>
    have heval := hat.eval env henv []
    rw [List.append_nil] at heval
    obtain ⟨hwritten, hsubmitted⟩ := env.prefix_afterWrite st batch
    obtain ⟨hw, hs⟩ := hstanding hsent hat.submitted heval hwritten
      (hsubmitted ▸ List.prefix_refl _)
    exact ⟨entry, tree, hw, hs, fun hleft => by simp [hp, Phase.leftLoop] at hleft⟩
  | @flushing busid entry tree st hp hsent hsub heval =>
    obtain ⟨hw, hs⟩ := hstanding (f := .next st) hsent hsub (heval env henv) (List.prefix_refl _)
      (List.prefix_refl _)
    exact ⟨entry, tree, hw, hs, fun hleft => by simp [hp, Phase.leftLoop] at hleft⟩
  | @left entry tree exit hp hsent hsub heval hresult =>
    refine ⟨entry, tree, ?_⟩
    rw [heval env henv]
    exact ⟨hsent ▸ List.prefix_refl _, hsub ▸ List.prefix_refl _,
      fun _ => ⟨hsent, hsub.symm, hresult⟩⟩

variable {i : ℕ} {as : List Action} {env : LoopEnv}

/-- **A session does what the URB loop does**, whatever the other sessions and the API do between
its steps. On the messages that the session has read, and in an environment that answers as the
device and the wire have answered it, the function sends and submits what the session has sent and
submitted so far, and perhaps more; when the session has left its loop they have sent and submitted
the same, and the session returns the error that the function returns, if any. -/
theorem session_refines (h : run (Server.apiStep config peer) .init as = some s)
    (hr : loopRecord config peer i .init none as = some r) (henv : env.Fits r) :
    ∃ entry tree,
      (s.sessions i).sent <+:
          importReply entry tree :: (handleUrbLoop env r.messages).state.written ∧
        r.submitted <+: (handleUrbLoop env r.messages).state.submitted ∧
        ((s.sessions i).phase.leftLoop = true →
          (s.sessions i).sent =
              importReply entry tree :: (handleUrbLoop env r.messages).state.written ∧
            r.submitted = (handleUrbLoop env r.messages).state.submitted ∧
            ∀ e, (handleUrbLoop env r.messages).result = .error e →
              (s.sessions i).phase = .returned (.error e)) :=
  (Server.refines_of_run h hr).standing henv

/-! ## The replies of a session -/

/-- An environment that fits completes the URBs of the record. -/
theorem completedFrom_eq (henv : env.Fits r) {k : ℕ} {fs : List CmdSubmitFrame}
    (hfs : (r.urbs.drop k).map (fun (data, u) => (u.cmd, data)) = fs.map fun f => (f.cmd, f.data)) :
    env.completedFrom k fs = (r.urbs.drop k).map Prod.snd := by
  induction fs generalizing k with
  | nil =>
    rw [List.map_nil, List.map_eq_nil_iff] at hfs
    rw [hfs]
    rfl
  | cons f fs ih =>
    rcases hdrop : r.urbs.drop k with _ | ⟨⟨data, u⟩, urbs⟩
    · rw [hdrop] at hfs
      cases hfs
    · rw [hdrop, List.map_cons, List.map_cons] at hfs
      obtain ⟨hu, hrest⟩ := List.cons.inj hfs
      obtain ⟨hcmd, rfl⟩ := Prod.mk.inj hu
      have hk : r.urbs[k]? = some (f.data, u) := by
        rw [← Nat.add_zero k, ← List.getElem?_drop, hdrop]
        rfl
      have hurbs : r.urbs.drop (k + 1) = urbs := by
        rw [← List.drop_drop, hdrop, List.drop_one, List.tail_cons]
      obtain ⟨hres, hnow⟩ := henv.urb k f.data u hk
      rw [LoopEnv.completedFrom, ih (by rw [hurbs, hrest]), hurbs, ← hcmd, hres, hnow]
      rfl

/-- The loop submits every `CMD_SUBMIT` when its writes succeed. -/
theorem submitted_overFrames (hw : ∀ n, env.writeMessage n = .ok ()) (fs : List CmdSubmitFrame)
    {st : UrbLoop} {b : List CompletedUrb} (hb : Holds st.batcher b) :
    (overFrames (urbLoopBody env) UrbLoop.finish st
        (fs.map CmdSubmitFrame.bytes)).state.submitted =
      st.submitted ++ fs.map fun f => (f.cmd, f.data) := by
  induction fs generalizing st b with
  | nil => simp [overFrames, st.submitted_finish]
  | cons f fs ih =>
    obtain ⟨st', hst, hholds, hsub, -⟩ := urbLoopBody_eq_next hw hb f
    simp only [List.map_cons, overFrames, hst]
    rw [ih hholds, hsub, List.append_assoc, List.singleton_append]

/-- **The replies of a session.** A session of the server that has read `CMD_SUBMIT`s, whose writes
have succeeded and that has left its loop has submitted every URB once and in order, and has sent
the reply to its import and then the replies to the URBs in batches. Every URB is answered exactly
when every reply may join the batch that is open before it, whatever the other sessions do. -/
theorem session_replies (h : run (Server.apiStep config peer) .init as = some s)
    (hr : loopRecord config peer i .init none as = some r)
    (hleft : (s.sessions i).phase.leftLoop = true) {fs : List CmdSubmitFrame}
    (hfs : r.messages = fs.map CmdSubmitFrame.bytes) (hw : ∀ w ∈ r.writes, w = .ok ()) :
    r.submitted = fs.map (fun f => (f.cmd, f.data)) ∧
      ∃ entry tree,
        (s.sessions i).sent = importReply entry tree :: (replyBatches r.completed).map replies ∧
          ((s.sessions i).sent.flatten = importReply entry tree ++ replies r.completed ↔
            ∀ k (hk : k < r.completed.length),
              Joins (openBatch defaultBatchSize (r.completed.take k)) r.completed[k]) := by
  have hwrite (n : ℕ) : r.env.writeMessage n = .ok () := by
    cases hn : r.writes[n]? with
    | none => simp [LoopRecord.env, hn]
    | some w => simp [LoopRecord.env, hn, hw w (List.mem_of_getElem? hn)]
  obtain ⟨entry, tree, -, -, hall⟩ := (Server.refines_of_run h hr).standing r.fits_env
  obtain ⟨hsent, hsub, -⟩ := hall hleft
  have hsubmitted : r.submitted = fs.map fun f => (f.cmd, f.data) := by
    rw [hsub, hfs, handleUrbLoop, submitted_overFrames hwrite fs holds_new]
    rfl
  have hcompleted : r.env.completed fs = r.completed := completedFrom_eq r.fits_env hsubmitted
  rw [hfs, written_handleUrbLoop hwrite, hcompleted] at hsent
  refine ⟨hsubmitted, entry, tree, hsent, ?_⟩
  rw [hsent, List.flatten_cons, List.append_cancel_left_eq, ← replies_flatten]
  exact (flatMap_flatten_batches_eq_iff _ CompletedUrb.reply_ne_nil _).trans
    (flatten_batches_eq_iff (by decide) _)

end Runs

/-- A client imports the wheel, polls it once and leaves; in between another one asks for it. -/
def pollActions : List Action :=
  (importEvents wheelBusid [wheelEntry] [1, 2]).map (.session 0) ++
    [.session 0 (.readMessage (.ok (pollFrame 1).bytes))] ++
    (requestEvents wheelBusid [wheelEntry]).map (.session 1) ++
    [.session 1 (.check (.ok ())), .session 0 (.submit (.ok ⟨0, 0, []⟩) 0)] ++
    leaveEvents.map (.session 0)

/-- The run, its record, and what they look like. -/
theorem exists_pollActions :
    ∃ s r, run (Server.apiStep {} clientAddr) .init pollActions = some s ∧
      loopRecord {} clientAddr 0 .init none pollActions = some r ∧
      (s.sessions 0).phase.leftLoop = true ∧
      r.messages = [pollFrame 1].map CmdSubmitFrame.bytes ∧ r.writes = [] ∧
      r.completed = idleEnv.completed [pollFrame 1] := by
  have hobs : (run (Server.apiStep {} clientAddr) .init pollActions).map
      (fun s => (s.sessions 0).phase.leftLoop) = some true := by
    decide +kernel
  have hrec : (loopRecord {} clientAddr 0 .init none pollActions).map
      (fun r => (r.messages, r.writes.length, r.completed)) =
        some ([pollFrame 1].map CmdSubmitFrame.bytes, 0, idleEnv.completed [pollFrame 1]) := by
    decide +kernel
  obtain ⟨s, hs, hleft⟩ := Option.map_eq_some_iff.1 hobs
  obtain ⟨r, hr, hobs⟩ := Option.map_eq_some_iff.1 hrec
  obtain ⟨hmessages, hobs⟩ := Prod.mk.inj hobs
  obtain ⟨hwrites, hcompleted⟩ := Prod.mk.inj hobs
  exact ⟨s, r, hs, hr, hleft, hmessages, List.length_eq_zero_iff.1 hwrites, hcompleted⟩

theorem session_refines_poll :
    ∃ (s : Server) (r : LoopRecord) (entry : UsbIpDeviceEntry) (tree : Bytes),
      run (Server.apiStep {} clientAddr) .init pollActions = some s ∧
        (s.sessions 0).sent =
          importReply entry tree :: (handleUrbLoop r.env r.messages).state.written ∧
        r.messages = [pollFrame 1].map CmdSubmitFrame.bytes := by
  obtain ⟨s, r, hs, hr, hleft, hmessages, -, -⟩ := exists_pollActions
  obtain ⟨entry, tree, -, -, hall⟩ := session_refines hs hr r.fits_env
  exact ⟨s, r, entry, tree, hs, (hall hleft).1, hmessages⟩

theorem session_replies_poll :
    ∃ s entry tree, run (Server.apiStep {} clientAddr) .init pollActions = some s ∧
      (s.sessions 0).sent.flatten =
        importReply entry tree ++ replies (idleEnv.completed [pollFrame 1]) := by
  obtain ⟨s, r, hs, hr, hleft, hmessages, hwrites, hcompleted⟩ := exists_pollActions
  obtain ⟨-, entry, tree, -, hall⟩ :=
    session_replies hs hr hleft hmessages (by simp [hwrites])
  rw [hcompleted] at hall
  exact ⟨s, entry, tree, hs, hall.2 (by decide +kernel)⟩

end AnyPlug
