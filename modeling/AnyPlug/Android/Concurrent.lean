import AnyPlug.Android.Client
import AnyPlug.Foundations.Transition

/-!
# Concurrent submissions of the Android client

Any number of calls of `UsbIpClient.submitUrb` share a counter and one connection. A call is cut at
its suspension points, the three `withContext` blocks: it numbers and builds its request, writes it,
reads the head of a reply and, for an IN transfer, reads the data. Between these steps the other
calls take theirs, and the server answers the requests in the order they were written.

`Own` is what the calls rely on: each that returns has read the reply to its own request, and no
reply is read by two calls. Alone a call does what `readReply` says (`exists_run_returned`), but
nothing in `submitUrb` waits for another call or looks at the number of the reply. `own_iff`: a run
goes well when at most one call reads, and that call wrote its request first; with a server that
answers IN requests by IN replies, only then.
-/

namespace AnyPlug

namespace Android

/-! ## The blocks of a call -/

/-- The arguments of a call of `submitUrb`. -/
structure UrbArgs where
  devid : UInt32
  direction : UInt32
  ep : UInt32
  flags : UInt32
  dataLen : UInt32
  setup : Vector UInt8 8
  data : Bytes

namespace UrbArgs

/-- The fields of the request. -/
def cmd (a : UrbArgs) (seqnum : UInt32) : UsbIpCmdSubmit :=
  ⟨seqnum, a.devid, a.direction, a.ep, a.flags, a.dataLen, 0, 0, 0, a.setup⟩

/-- The array that is written. Allocating a negative size is an exception. -/
def encode (a : UrbArgs) (seqnum : UInt32) : Option Bytes :=
  if 8 + 48 + a.data.length < 2 ^ 31 then
    some (filled (8 + 48 + a.data.length)
      ((UsbIpHeader.new usbipCmdSubmit).asBytes ++ (a.cmd seqnum).asBytes ++
        if a.direction = 0 then a.data else []))
  else none

end UrbArgs

def SubmitCall.args (c : SubmitCall) : UrbArgs :=
  ⟨c.devid, c.direction, c.ep, c.flags, c.dataLen, c.setup, c.data⟩

/-- The block that reads the header and the record of a reply: its status and its length. -/
def readHead (input : Bytes) : Option ((UInt32 × UInt32) × Bytes) := do
  let (_, input) ← readExact 8 input
  let (retStruct, input) ← readExact 40 input
  let retStatus ← getInt retStruct 16
  let retActualLen ← getInt retStruct 20
  return ((retStatus, retActualLen), input)

/-- A call in this direction reads data behind such a head. -/
def wantsData (direction retStatus retActualLen : UInt32) : Bool :=
  direction = 1 ∧ retStatus = 0 ∧ 0 < retActualLen.toInt32

/-- The blocks of a call that is not interrupted are the reader of a single call. -/
theorem readReply_eq_readHead (direction : UInt32) (input : Bytes) :
    readReply direction input = (readHead input).bind fun ((retStatus, retActualLen), input) =>
      if wantsData direction retStatus retActualLen then
        (readExact retActualLen.toNat input).map fun (inData, input) =>
          (⟨retStatus, retActualLen, inData⟩, input)
      else some (⟨retStatus, retActualLen, []⟩, input) := by
  simp only [readReply, readHead, wantsData, Option.bind_eq_bind, Option.pure_def,
    Option.bind_assoc, Option.bind_some, decide_eq_true_eq]
  congr 1
  funext x
  congr 1
  funext y
  congr 1
  funext retStatus
  congr 1
  funext retActualLen
  split
  · cases readExact retActualLen.toNat y.2 <;> rfl
  · rfl

theorem eq_drop_of_readExact {n : ℕ} {input a left : Bytes}
    (h : readExact n input = some (a, left)) : left = input.drop n := by
  unfold readExact at h
  split at h
  · exact (Prod.mk.inj (Option.some.inj h)).2.symm
  · cases h

theorem eq_drop_of_readHead {input left : Bytes} {head : UInt32 × UInt32}
    (h : readHead input = some (head, left)) : left = input.drop (8 + 40) := by
  simp only [readHead, Option.bind_eq_bind, Option.bind_eq_some_iff, Option.pure_def] at h
  obtain ⟨⟨a, rest⟩, ha, ⟨b, rest'⟩, hb, _, -, _, -, heq⟩ := h
  obtain ⟨-, rfl⟩ := Prod.mk.inj (Option.some.inj heq)
  rw [← List.drop_drop, ← eq_drop_of_readExact ha]
  exact eq_drop_of_readExact hb

/-- The head of a reply holds its status and its length. -/
theorem readHead_bytes (f : RetSubmitFrame) (rest : Bytes) :
    ∃ left, readHead (f.bytes ++ rest) = some ((f.ret.status, f.ret.actualLength), left) := by
  obtain ⟨buf, tail, hbuf, -, hret, hstatus, hlen⟩ := exists_record_eq f.ret
  have hheader : (⟨f.version, usbipRetSubmit, f.status⟩ : UsbIpHeader).asBytes.length = 8 :=
    UsbIpHeader.length_asBytes _
  refine ⟨tail ++ (f.data ++ rest), ?_⟩
  simp only [readHead, RetSubmitFrame.bytes, hret, List.append_assoc, readExact_append hheader,
    readExact_append hbuf, Option.bind_eq_bind, Option.bind_some, hstatus, hlen, Option.pure_def]

/-! ## The system -/

/-- Where a call stands. -/
inductive CallPhase
  | idle
  | writing (cmd : UsbIpCmdSubmit)
  | readingHead (cmd : UsbIpCmdSubmit)
  | readingData (cmd : UsbIpCmdSubmit) (retStatus retActualLen : UInt32)
  | returned (cmd : UsbIpCmdSubmit) (result : UrbResult)
  | thrown

namespace CallPhase

/-- The request that a call has built. -/
def request : CallPhase → Option UsbIpCmdSubmit
  | .writing cmd | .readingHead cmd | .readingData cmd _ _ | .returned cmd _ => some cmd
  | .idle | .thrown => none

/-- The call has no head to read any more. -/
def passed : CallPhase → Bool
  | .readingData _ _ _ | .returned _ _ | .thrown => true
  | .idle | .writing _ | .readingHead _ => false

/-- What a call does after the head of a reply. -/
def afterHead (cmd : UsbIpCmdSubmit) (retStatus retActualLen : UInt32) : CallPhase :=
  if wantsData cmd.direction retStatus retActualLen then .readingData cmd retStatus retActualLen
  else .returned cmd ⟨retStatus, retActualLen, []⟩

end CallPhase

/-- The client and its server. `taken` names the call that has read each byte of the stream so far;
`requests` and `answered` are the messages of the two sides. -/
structure Exchange where
  seqnum : UInt32
  calls : ℕ → CallPhase
  requests : List (ℕ × UsbIpCmdSubmit)
  answered : List RetSubmitFrame
  taken : List ℕ

inductive SubmitEvent
  | enter (i : ℕ) (args : UrbArgs)
  | write (i : ℕ)
  | readHead (i : ℕ)
  | readData (i : ℕ)
  /-- The call is cancelled at a suspension point. -/
  | cancel (i : ℕ)
  /-- The server answers the first request that has no answer. -/
  | answer (f : RetSubmitFrame)

namespace Exchange

/-- The client after the handshake. -/
def init : Exchange := ⟨0, fun _ => .idle, [], [], []⟩

/-- What the server has sent. -/
def stream (s : Exchange) : Bytes := (s.answered.map RetSubmitFrame.bytes).flatten

/-- What no call has read yet. -/
def unread (s : Exchange) : Bytes := s.stream.drop s.taken.length

/-- A call goes on, having read `n` bytes. -/
def goto (s : Exchange) (i : ℕ) (phase : CallPhase) (n : ℕ) : Exchange :=
  { s with calls := Function.update s.calls i phase, taken := s.taken ++ List.replicate n i }

/-- One step, with a server that answers a request by the replies that it may give. -/
def step (server : UsbIpCmdSubmit → RetSubmitFrame → Bool) (s : Exchange) :
    SubmitEvent → Option Exchange
  | .enter i args =>
    match s.calls i with
    | .idle =>
      let seqnum := s.seqnum + 1
      let phase := match args.encode seqnum with
        | some _ => .writing (args.cmd seqnum)
        | none => .thrown
      some { s.goto i phase 0 with seqnum := seqnum }
    | _ => none
  | .write i =>
    match s.calls i with
    | .writing cmd =>
      some { s.goto i (.readingHead cmd) 0 with requests := s.requests ++ [(i, cmd)] }
    | _ => none
  | .readHead i =>
    match s.calls i with
    | .readingHead cmd => (Android.readHead s.unread).map fun ((retStatus, retActualLen), _) =>
        s.goto i (.afterHead cmd retStatus retActualLen) (8 + 40)
    | _ => none
  | .readData i =>
    match s.calls i with
    | .readingData cmd retStatus retActualLen =>
      (readExact retActualLen.toNat s.unread).map fun (inData, _) =>
        s.goto i (.returned cmd ⟨retStatus, retActualLen, inData⟩) retActualLen.toNat
    | _ => none
  | .cancel i =>
    match s.calls i with
    | .writing _ | .readingHead _ | .readingData _ _ _ => some (s.goto i .thrown 0)
    | _ => none
  | .answer f =>
    match s.requests[s.answered.length]? with
    | some (_, cmd) =>
      if f.ret.seqnum = cmd.seqnum ∧ server cmd f then
        some { s with answered := s.answered ++ [f] }
      else none
    | none => none

/-! ## What a step can do -/

variable {server : UsbIpCmdSubmit → RetSubmitFrame → Bool} {s t : Exchange} {a : SubmitEvent}

/-- The steps, with what the call finds. -/
inductive Step (server : UsbIpCmdSubmit → RetSubmitFrame → Bool) (s : Exchange) :
    SubmitEvent → Exchange → Prop
  | enter (i args phase) (hcall : s.calls i = .idle)
      (hphase : phase = .writing (args.cmd (s.seqnum + 1)) ∨ phase = .thrown) :
      Step server s (.enter i args) { s.goto i phase 0 with seqnum := s.seqnum + 1 }
  | write (i cmd) (hcall : s.calls i = .writing cmd) :
      Step server s (.write i)
        { s.goto i (.readingHead cmd) 0 with requests := s.requests ++ [(i, cmd)] }
  | readHead (i cmd retStatus retActualLen left) (hcall : s.calls i = .readingHead cmd)
      (hread : Android.readHead s.unread = some ((retStatus, retActualLen), left)) :
      Step server s (.readHead i) (s.goto i (.afterHead cmd retStatus retActualLen) 48)
  | readData (i cmd retStatus retActualLen inData)
      (hcall : s.calls i = .readingData cmd retStatus retActualLen) :
      Step server s (.readData i)
        (s.goto i (.returned cmd ⟨retStatus, retActualLen, inData⟩) retActualLen.toNat)
  | cancel (i) (hcall : s.calls i ≠ .idle ∧ ∀ cmd result, s.calls i ≠ .returned cmd result) :
      Step server s (.cancel i) (s.goto i .thrown 0)
  | answer (f i cmd) (hreq : s.requests[s.answered.length]? = some (i, cmd))
      (hseqnum : f.ret.seqnum = cmd.seqnum) (hserver : server cmd f = true) :
      Step server s (.answer f) { s with answered := s.answered ++ [f] }

theorem step_cases (h : s.step server a = some t) : Step server s a t := by
  cases a with
  | enter i args =>
    simp only [step] at h
    split at h
    · rename_i hcall
      obtain rfl := Option.some.inj h
      refine .enter i args _ hcall ?_
      split
      · exact .inl rfl
      · exact .inr rfl
    · cases h
  | write i =>
    simp only [step] at h
    split at h
    · rename_i cmd hcall
      obtain rfl := Option.some.inj h
      exact .write i cmd hcall
    · cases h
  | readHead i =>
    simp only [step] at h
    split at h
    · rename_i cmd hcall
      obtain ⟨⟨⟨retStatus, retActualLen⟩, left⟩, hread, rfl⟩ := Option.map_eq_some_iff.1 h
      exact .readHead i cmd retStatus retActualLen left hcall hread
    · cases h
  | readData i =>
    simp only [step] at h
    split at h
    · rename_i cmd retStatus retActualLen hcall
      obtain ⟨⟨inData, left⟩, -, rfl⟩ := Option.map_eq_some_iff.1 h
      exact .readData i cmd retStatus retActualLen inData hcall
    · cases h
  | cancel i =>
    simp only [step] at h
    split at h
    iterate 3
      · rename_i hcall
        obtain rfl := Option.some.inj h
        exact .cancel i (by simp [hcall])
    · cases h
  | answer f =>
    simp only [step] at h
    split at h
    · rename_i i cmd hreq
      split at h
      · rename_i hf
        obtain rfl := Option.some.inj h
        exact .answer f i cmd hreq hf.1 hf.2
      · cases h
    · cases h

theorem unread_goto (s : Exchange) (i : ℕ) (phase : CallPhase) (n : ℕ) :
    (s.goto i phase n).unread = s.unread.drop n := by
  rw [unread, goto, List.length_append, List.length_replicate, ← List.drop_drop]
  rfl

/-- **A call that reads without interruption** returns what a single call returns, and leaves on the
stream what that leaves. -/
theorem exists_run_returned {i : ℕ} {cmd : UsbIpCmdSubmit} {result : UrbResult} {left : Bytes}
    (hcall : s.calls i = .readingHead cmd)
    (h : readReply cmd.direction s.unread = some (result, left)) :
    ∃ as t, run (step server) s as = some t ∧ t.calls i = .returned cmd result ∧
      t.unread = left := by
  rw [readReply_eq_readHead, Option.bind_eq_some_iff] at h
  obtain ⟨⟨⟨retStatus, retActualLen⟩, rest⟩, hhead, h⟩ := h
  set u := s.goto i (.afterHead cmd retStatus retActualLen) (8 + 40) with hu
  have hstep : s.step server (.readHead i) = some u := by
    simp only [step, hcall, hhead]
    rfl
  have hrest : u.unread = rest := by
    rw [hu, unread_goto, eq_drop_of_readHead hhead]
  have hphase : u.calls i = .afterHead cmd retStatus retActualLen := Function.update_self _ _ _
  dsimp only at h
  by_cases hwants : wantsData cmd.direction retStatus retActualLen = true
  · rw [if_pos hwants, Option.map_eq_some_iff] at h
    obtain ⟨⟨inData, left'⟩, hread, heq⟩ := h
    obtain ⟨rfl, rfl⟩ := Prod.mk.inj heq
    rw [CallPhase.afterHead, if_pos hwants] at hphase
    refine ⟨[.readHead i, .readData i], u.goto i (.returned cmd ⟨retStatus, retActualLen, inData⟩)
      retActualLen.toNat, run_cons_eq_some.2 ⟨u, hstep, run_singleton.2 ?_⟩,
      Function.update_self _ _ _, ?_⟩
    · simp only [step, hphase, hrest, hread]
      rfl
    · rw [unread_goto, hrest, eq_drop_of_readExact hread]
  · rw [if_neg hwants] at h
    obtain ⟨rfl, rfl⟩ := Prod.mk.inj (Option.some.inj h)
    rw [CallPhase.afterHead, if_neg hwants] at hphase
    exact ⟨[.readHead i], u, run_singleton.2 hstep, hphase, hrest⟩

/-! ## What the calls rely on -/

/-- Where the `k`-th reply starts on the stream. -/
def offset (answered : List RetSubmitFrame) (k : ℕ) : ℕ :=
  ((answered.take k).map fun f => f.bytes.length).sum

/-- Each call that has returned has read the reply to its own request, from its first byte on, and
no reply has bytes that two calls have read. -/
structure Own (s : Exchange) : Prop where
  returned : ∀ {i cmd result}, s.calls i = .returned cmd result →
    ∃ k f, s.requests[k]? = some (i, cmd) ∧ s.answered[k]? = some f ∧ f.ret.seqnum = cmd.seqnum ∧
      i ∈ s.taken ∧ s.taken.idxOf i = offset s.answered k ∧
      result.status = f.ret.status ∧ result.actualLength = f.ret.actualLength
  whole : ∀ {k p q i j}, k < s.answered.length →
    offset s.answered k ≤ p → p < offset s.answered (k + 1) →
    offset s.answered k ≤ q → q < offset s.answered (k + 1) →
    s.taken[p]? = some i → s.taken[q]? = some j → i = j

/-- The request that was written first is that of the call. -/
def First (s : Exchange) (i : ℕ) : Prop :=
  ∃ cmd, (s.calls i).request = some cmd ∧ s.requests.head? = some (i, cmd)

/-- The call is to read data behind the head that it finds. -/
def dataAhead (s : Exchange) (i : ℕ) : Bool :=
  match s.calls i, Android.readHead s.unread with
  | .readingHead cmd, some ((retStatus, retActualLen), _) =>
    wantsData cmd.direction retStatus retActualLen
  | _, _ => false

/-- At most one call reads, and it returns only if its request was written first. -/
def OneReader (s : Exchange) : SubmitEvent → Prop
  | .readHead i => s.taken = [] ∧ (s.dataAhead i = false → s.First i)
  | .readData i => s.First i
  | _ => True

/-- The replies answer the requests in order. -/
def Answers (server : UsbIpCmdSubmit → RetSubmitFrame → Bool) (s : Exchange) : Prop :=
  ∀ ⦃k : ℕ⦄ ⦃f : RetSubmitFrame⦄, s.answered[k]? = some f →
    ∃ i cmd, s.requests[k]? = some (i, cmd) ∧ f.ret.seqnum = cmd.seqnum ∧ server cmd f = true

theorem Answers.step (hs : Answers server s) (h : s.step server a = some t) :
    Answers server t := by
  intro k f hf
  cases step_cases h with
  | write i cmd hcall =>
    obtain ⟨j, cmd', hreq, hecho⟩ := hs hf
    refine ⟨j, cmd', ?_, hecho⟩
    exact (List.getElem?_append_left (List.getElem?_eq_some_iff.1 hreq).1).trans hreq
  | answer g i cmd hreq hseqnum hserver =>
    dsimp only at hf
    rw [List.getElem?_append] at hf
    split at hf
    · exact hs hf
    · rw [List.getElem?_singleton] at hf
      split at hf
      · obtain rfl := Option.some.inj hf
        have hk : k = s.answered.length := by omega
        exact ⟨i, cmd, hk ▸ hreq, hseqnum, hserver⟩
      · cases hf
  | enter i args phase hcall hphase => exact hs hf
  | readHead i cmd retStatus retActualLen left hcall hread => exact hs hf
  | readData i cmd retStatus retActualLen inData hcall => exact hs hf
  | cancel i hcall => exact hs hf

/-! ## One reader is enough -/

/-- The call has read the head of the first reply, with this status and this length. -/
def HasHead (s : Exchange) (i : ℕ) (retStatus retActualLen : UInt32) : Prop :=
  s.taken.head? = some i ∧ ∃ f, s.answered.head? = some f ∧ retStatus = f.ret.status ∧
    retActualLen = f.ret.actualLength

/-- What holds while at most one call has read. -/
structure Lone (server : UsbIpCmdSubmit → RetSubmitFrame → Bool) (s : Exchange) : Prop where
  answers : Answers server s
  alone : ∃ i, ∀ j ∈ s.taken, j = i
  data : ∀ {i cmd retStatus retActualLen},
    s.calls i = .readingData cmd retStatus retActualLen → s.HasHead i retStatus retActualLen
  returned : ∀ {i cmd result}, s.calls i = .returned cmd result →
    s.HasHead i result.status result.actualLength ∧ s.requests.head? = some (i, cmd)

@[simp] theorem taken_goto (i : ℕ) (phase : CallPhase) (n : ℕ) :
    (s.goto i phase n).taken = s.taken ++ List.replicate n i := rfl

theorem calls_goto_eq {i j n : ℕ} {phase phase' : CallPhase}
    (h : (s.goto i phase n).calls j = phase') :
    (j = i ∧ phase = phase') ∨ (j ≠ i ∧ s.calls j = phase') := by
  simp only [goto, Function.update_apply] at h
  split at h
  · exact .inl ⟨‹_›, h⟩
  · exact .inr ⟨‹_›, h⟩

theorem head?_append_of_eq_some {α : Type*} {xs : List α} {x : α} (h : xs.head? = some x)
    (ys : List α) : (xs ++ ys).head? = some x := by
  rw [List.head?_append, h, Option.some_or]

/-- The head stays when calls read on and the server goes on. -/
theorem HasHead.mono {i : ℕ} {retStatus retActualLen : UInt32}
    (h : s.HasHead i retStatus retActualLen) {more : List ℕ} {replies : List RetSubmitFrame}
    (htaken : t.taken = s.taken ++ more) (hanswered : t.answered = s.answered ++ replies) :
    t.HasHead i retStatus retActualLen := by
  obtain ⟨htake, f, hf, hfields⟩ := h
  refine ⟨?_, f, ?_, hfields⟩
  · rw [htaken, head?_append_of_eq_some htake]
  · rw [hanswered, head?_append_of_eq_some hf]

/-- The first head is that of the first reply. -/
theorem head?_of_readHead {retStatus retActualLen : UInt32} {left : Bytes}
    (hnil : s.taken = [])
    (hread : Android.readHead s.unread = some ((retStatus, retActualLen), left)) :
    ∃ f fs, s.answered = f :: fs ∧ retStatus = f.ret.status ∧
      retActualLen = f.ret.actualLength := by
  rw [unread, hnil, List.length_nil, List.drop_zero, stream] at hread
  cases hanswered : s.answered with
  | nil =>
    rw [hanswered] at hread
    cases hread
  | cons f fs =>
    obtain ⟨left', hhead⟩ := readHead_bytes f (fs.map RetSubmitFrame.bytes).flatten
    rw [hanswered, List.map_cons, List.flatten_cons, hhead] at hread
    obtain ⟨rfl, rfl⟩ := Prod.mk.inj (Prod.mk.inj (Option.some.inj hread)).1
    exact ⟨f, fs, rfl, rfl, rfl⟩

theorem dataAhead_eq {i : ℕ} {cmd : UsbIpCmdSubmit} {retStatus retActualLen : UInt32}
    {left : Bytes} (hcall : s.calls i = .readingHead cmd)
    (hread : Android.readHead s.unread = some ((retStatus, retActualLen), left)) :
    s.dataAhead i = wantsData cmd.direction retStatus retActualLen := by
  rw [dataAhead, hcall, hread]

theorem First.head?_eq {i : ℕ} {cmd : UsbIpCmdSubmit} (h : s.First i)
    (hcall : (s.calls i).request = some cmd) : s.requests.head? = some (i, cmd) := by
  obtain ⟨cmd', hcmd, hhead⟩ := h
  obtain rfl := Option.some.inj (hcmd.symm.trans hcall)
  exact hhead

/-- A call that neither reads nor returns in this step. -/
theorem Lone.goto_zero (hs : Lone server s) (i : ℕ) (phase : CallPhase)
    (written : List (ℕ × UsbIpCmdSubmit))
    (hdata : ∀ cmd retStatus retActualLen, phase ≠ .readingData cmd retStatus retActualLen)
    (hret : ∀ cmd result, phase ≠ .returned cmd result)
    (htaken : t.taken = s.taken ++ []) (hanswered : t.answered = s.answered ++ [])
    (hrequests : t.requests = s.requests ++ written)
    (hcalls : t.calls = (s.goto i phase 0).calls) (ha : Answers server t) : Lone server t where
  answers := ha
  alone := by
    rw [htaken, List.append_nil]
    exact hs.alone
  data {j cmd retStatus retActualLen} hj := by
    rw [hcalls] at hj
    obtain ⟨rfl, hphase⟩ | ⟨-, hj⟩ := calls_goto_eq hj
    · exact absurd hphase (hdata cmd retStatus retActualLen)
    · exact (hs.data hj).mono htaken hanswered
  returned {j cmd result} hj := by
    rw [hcalls] at hj
    obtain ⟨rfl, hphase⟩ | ⟨-, hj⟩ := calls_goto_eq hj
    · exact absurd hphase (hret cmd result)
    · obtain ⟨hhead, hreq⟩ := hs.returned hj
      refine ⟨hhead.mono htaken hanswered, ?_⟩
      rw [hrequests, head?_append_of_eq_some hreq]

theorem Lone.step (hs : Lone server s) (hone : s.OneReader a) (h : s.step server a = some t) :
    Lone server t := by
  have ha := hs.answers.step h
  cases step_cases h with
  | enter i args phase hcall hphase =>
    refine hs.goto_zero i phase [] ?_ ?_ rfl ?_ ?_ rfl ha
    · rintro cmd retStatus retActualLen rfl
      simp at hphase
    · rintro cmd result rfl
      simp at hphase
    · exact (List.append_nil _).symm
    · exact (List.append_nil _).symm
  | write i cmd hcall =>
    exact hs.goto_zero i (.readingHead cmd) [(i, cmd)] (by simp) (by simp) rfl
      (List.append_nil _).symm rfl rfl ha
  | cancel i hcall =>
    exact hs.goto_zero i .thrown [] (by simp) (by simp) rfl (List.append_nil _).symm
      (List.append_nil _).symm rfl ha
  | readHead i cmd retStatus retActualLen left hcall hread =>
    obtain ⟨hnil, hfirst⟩ := hone
    obtain ⟨f, fs, hanswered, rfl, rfl⟩ := head?_of_readHead hnil hread
    rw [dataAhead_eq hcall hread] at hfirst
    have hhead : (s.goto i (.afterHead cmd f.ret.status f.ret.actualLength) 48).HasHead i
        f.ret.status f.ret.actualLength := by
      refine ⟨?_, f, ?_, rfl, rfl⟩
      · rw [taken_goto, hnil]
        rfl
      · exact hanswered ▸ rfl
    -- nobody has read before, so no other call reads data or has returned
    have hother {j : ℕ} {st len : UInt32} : ¬s.HasHead j st len := by
      rintro ⟨htake, -⟩
      rw [hnil] at htake
      cases htake
    refine ⟨ha, ⟨i, ?_⟩, ?_, ?_⟩
    · intro j hj
      rw [taken_goto, hnil, List.nil_append] at hj
      exact List.eq_of_mem_replicate hj
    · intro j cmd' st len hj
      obtain ⟨rfl, hphase⟩ | ⟨-, hj⟩ := calls_goto_eq hj
      · simp only [CallPhase.afterHead] at hphase
        split at hphase
        · obtain ⟨rfl, rfl, rfl⟩ := CallPhase.readingData.inj hphase
          exact hhead
        · cases hphase
      · exact absurd (hs.data hj) hother
    · intro j cmd' result hj
      obtain ⟨rfl, hphase⟩ | ⟨-, hj⟩ := calls_goto_eq hj
      · simp only [CallPhase.afterHead] at hphase
        split at hphase
        · cases hphase
        · rename_i hwants
          obtain ⟨rfl, rfl⟩ := CallPhase.returned.inj hphase
          have hreq : (s.calls j).request = some cmd := by
            rw [hcall]
            rfl
          exact ⟨hhead, (hfirst (by simpa using hwants)).head?_eq hreq⟩
      · exact absurd (hs.returned hj).1 hother
  | readData i cmd retStatus retActualLen inData hcall =>
    have hhead := hs.data hcall
    have hfirst := First.head?_eq hone (show (s.calls i).request = some cmd by rw [hcall]; rfl)
    have hmono {j : ℕ} {st len : UInt32} (hj : s.HasHead j st len) :
        (s.goto i (.returned cmd ⟨retStatus, retActualLen, inData⟩) retActualLen.toNat).HasHead j
          st len := hj.mono rfl (List.append_nil _).symm
    refine ⟨ha, ⟨i, ?_⟩, ?_, ?_⟩
    · obtain ⟨i', halone⟩ := hs.alone
      obtain rfl := halone i (List.mem_of_mem_head? hhead.1)
      intro j hj
      rw [taken_goto, List.mem_append] at hj
      rcases hj with hj | hj
      · exact halone j hj
      · exact List.eq_of_mem_replicate hj
    · intro j cmd' st len hj
      obtain ⟨-, hphase⟩ | ⟨-, hj⟩ := calls_goto_eq hj
      · cases hphase
      · exact hmono (hs.data hj)
    · intro j cmd' result hj
      obtain ⟨rfl, hphase⟩ | ⟨-, hj⟩ := calls_goto_eq hj
      · obtain ⟨rfl, rfl⟩ := CallPhase.returned.inj hphase
        exact ⟨hmono hhead, hfirst⟩
      · exact ⟨hmono (hs.returned hj).1, (hs.returned hj).2⟩
  | answer f i cmd hreq hseqnum hserver =>
    refine ⟨ha, hs.alone, ?_, ?_⟩
    · intro j cmd' st len hj
      exact (hs.data hj).mono (List.append_nil _).symm rfl
    · intro j cmd' result hj
      exact ⟨(hs.returned hj).1.mono (List.append_nil _).symm rfl, (hs.returned hj).2⟩

theorem lone_init : Lone server init where
  answers k f hf := by cases hf
  alone := ⟨0, by simp [init]⟩
  data h := by cases h
  returned h := by cases h

theorem Lone.own (hs : Lone server s) : Own s where
  returned {i cmd result} hcall := by
    obtain ⟨⟨htake, f, hf, hstatus, hlen⟩, hreq⟩ := hs.returned hcall
    obtain ⟨rest, hrest⟩ := List.head?_eq_some_iff.1 htake
    rw [List.head?_eq_getElem?] at hf hreq
    obtain ⟨j, cmd', hreq', hseqnum, -⟩ := hs.answers hf
    obtain ⟨rfl, rfl⟩ := Prod.mk.inj (Option.some.inj (hreq.symm.trans hreq'))
    refine ⟨0, f, hreq, hf, hseqnum, List.mem_of_mem_head? htake, ?_, hstatus, hlen⟩
    rw [hrest, List.idxOf_cons_self]
    rfl
  whole {k p q i j} hk hp hp' hq hq' hi hj := by
    obtain ⟨i', halone⟩ := hs.alone
    rw [halone i (List.mem_of_getElem? hi), halone j (List.mem_of_getElem? hj)]

/-! ## Two readers are too many -/

/-- The calls that have read are through with the stream, and stand inside the first reply. -/
structure Inside (s : Exchange) : Prop where
  data : ∀ {i cmd retStatus retActualLen}, s.calls i = .readingData cmd retStatus retActualLen →
    wantsData cmd.direction retStatus retActualLen = true ∧ s.taken.length = 48
  within : s.taken ≠ [] → ∃ f fs, s.answered = f :: fs ∧ s.taken.length < f.bytes.length
  passed : ∀ i ∈ s.taken, (s.calls i).passed = true

theorem length_bytes_pos (f : RetSubmitFrame) : 48 < f.bytes.length := by
  rw [f.length_bytes, UsbIpRetSubmit.wireSize, UsbIpHeader.size, UsbIpRetSubmit.headerSize]
  split <;> omega

theorem offset_one (f : RetSubmitFrame) (fs : List RetSubmitFrame) :
    offset (f :: fs) 1 = f.bytes.length := by
  simp [offset]

theorem eq_zero_of_offset {answered : List RetSubmitFrame} {k : ℕ} {f : RetSubmitFrame}
    (hf : answered[k]? = some f) (h : offset answered k = 0) : k = 0 := by
  cases answered with
  | nil => cases hf
  | cons g gs =>
    cases k with
    | zero => rfl
    | succ k =>
      have hpos := length_bytes_pos g
      rw [offset, List.take_succ_cons, List.map_cons, List.sum_cons] at h
      omega

/-- A call that returns although it stands at the start of the stream made the first request. -/
theorem Own.head?_eq (h : Own s) {i : ℕ} {cmd : UsbIpCmdSubmit} {result : UrbResult}
    (hcall : s.calls i = .returned cmd result) (htake : s.taken.head? = some i) :
    s.requests.head? = some (i, cmd) := by
  obtain ⟨k, f, hreq, hf, -, -, hoffset, -⟩ := h.returned hcall
  obtain ⟨rest, hrest⟩ := List.head?_eq_some_iff.1 htake
  rw [hrest, List.idxOf_cons_self] at hoffset
  obtain rfl := eq_zero_of_offset hf hoffset.symm
  rwa [List.head?_eq_getElem?]

/-- A call that reads a head finds nothing taken: it would take the end of a reply otherwise. -/
theorem Inside.taken_eq_nil (hs : Inside s) {i : ℕ} {cmd : UsbIpCmdSubmit} {phase : CallPhase}
    (hcall : s.calls i = .readingHead cmd) (hown : Own (s.goto i phase 48)) : s.taken = [] := by
  by_contra hne
  obtain ⟨f, fs, hanswered, hlt⟩ := hs.within hne
  obtain ⟨j, rest, htaken⟩ := List.exists_cons_of_ne_nil hne
  have hji : j ≠ i := by
    rintro rfl
    have hpassed := hs.passed j (htaken ▸ List.mem_cons_self)
    rw [hcall] at hpassed
    cases hpassed
  have hanswered' : (s.goto i phase 48).answered = f :: fs := hanswered
  have hfirst : (s.goto i phase 48).taken[0]? = some j := by
    rw [taken_goto, htaken]
    rfl
  have hnext : (s.goto i phase 48).taken[s.taken.length]? = some i := by
    rw [taken_goto, List.getElem?_append_right le_rfl, Nat.sub_self]
    rfl
  have hpos := length_bytes_pos f
  refine hji (hown.whole (k := 0) ?_ ?_ ?_ ?_ ?_ hfirst hnext)
  · rw [hanswered', List.length_cons]
    omega
  · exact Nat.zero_le _
  · rw [hanswered', offset_one]
    omega
  · exact Nat.zero_le _
  · rw [hanswered', offset_one]
    exact hlt

theorem Inside.oneReader (hs : Inside s) (hlone : Lone server s) (hown : Own t)
    (h : s.step server a = some t) : s.OneReader a := by
  cases step_cases h with
  | readHead i cmd retStatus retActualLen left hcall hread =>
    have hnil := hs.taken_eq_nil hcall hown
    refine ⟨hnil, fun hahead => ⟨cmd, by rw [hcall]; rfl, ?_⟩⟩
    rw [dataAhead_eq hcall hread] at hahead
    have hret : (s.goto i (.afterHead cmd retStatus retActualLen) 48).calls i =
        .returned cmd ⟨retStatus, retActualLen, []⟩ := by
      simp [goto, CallPhase.afterHead, hahead]
    refine hown.head?_eq hret ?_
    rw [taken_goto, hnil]
    rfl
  | readData i cmd retStatus retActualLen inData hcall =>
    refine ⟨cmd, by rw [hcall]; rfl, ?_⟩
    exact hown.head?_eq (Function.update_self _ _ _)
      (head?_append_of_eq_some (hlone.data hcall).1 _)
  | enter i args phase hcall hphase => trivial
  | write i cmd hcall => trivial
  | cancel i hcall => trivial
  | answer f i cmd hreq hseqnum hserver => trivial

/-- A server that answers IN requests by IN replies. -/
def KeepsDirection (server : UsbIpCmdSubmit → RetSubmitFrame → Bool) : Prop :=
  ∀ cmd f, server cmd f = true → cmd.direction = 1 → f.ret.direction ≠ 0

/-- The data of an IN reply leaves four bytes of it on the stream. -/
theorem length_bytes_of_wantsData {f : RetSubmitFrame} {direction : UInt32}
    (hwants : wantsData direction f.ret.status f.ret.actualLength = true)
    (hdir : f.ret.direction ≠ 0) : f.bytes.length = 52 + f.ret.actualLength.toNat := by
  simp only [wantsData, decide_eq_true_eq] at hwants
  have hpos : 0 < f.ret.actualLength := by
    rw [UInt32.lt_iff_toNat_lt, UInt32.toNat_zero, Nat.pos_iff_ne_zero]
    intro h0
    have hzero : f.ret.actualLength = 0 := UInt32.toNat_inj.1 h0
    rw [hzero] at hwants
    exact absurd hwants.2.2 (by decide)
  have hdata : f.ret.hasData = true := f.ret.hasData_iff.2 ⟨hwants.2.1, hdir, hpos⟩
  rw [f.length_bytes, UsbIpRetSubmit.wireSize, if_pos hdata, UsbIpHeader.size,
    UsbIpRetSubmit.headerSize, ← Nat.add_assoc]
  rfl

/-- A call that does not read in this step. -/
theorem Inside.goto_zero (hs : Inside s) {i : ℕ} {phase : CallPhase}
    (hdata : ∀ cmd retStatus retActualLen, phase ≠ .readingData cmd retStatus retActualLen)
    (hpassed : (s.calls i).passed = true → phase.passed = true) (htaken : t.taken = s.taken ++ [])
    (hanswered : t.answered = s.answered) (hcalls : t.calls = (s.goto i phase 0).calls) :
    Inside t := by
  rw [List.append_nil] at htaken
  refine ⟨?_, ?_, ?_⟩
  · intro j cmd retStatus retActualLen hj
    rw [hcalls] at hj
    obtain ⟨-, hphase⟩ | ⟨-, hj⟩ := calls_goto_eq hj
    · exact absurd hphase (hdata _ _ _)
    · rw [htaken]
      exact hs.data hj
  · rw [htaken, hanswered]
    exact hs.within
  · intro j hj
    rw [htaken] at hj
    have hold := hs.passed j hj
    obtain ⟨rfl, hphase⟩ | ⟨-, hphase⟩ := calls_goto_eq (congrFun hcalls j).symm
    · rw [← hphase]
      exact hpassed hold
    · rw [← hphase]
      exact hold

theorem Inside.step (hs : Inside s) (hlone : Lone server s) (hserver : KeepsDirection server)
    (hone : s.OneReader a) (h : s.step server a = some t) : Inside t := by
  cases step_cases h with
  | enter i args phase hcall hphase =>
    refine hs.goto_zero (i := i) ?_ ?_ rfl rfl rfl
    · rintro cmd retStatus retActualLen rfl
      simp at hphase
    · rw [hcall]
      intro hidle
      cases hidle
  | write i cmd hcall =>
    refine hs.goto_zero (i := i) (by simp) ?_ rfl rfl rfl
    rw [hcall]
    intro hwriting
    cases hwriting
  | cancel i hcall => exact hs.goto_zero (i := i) (by simp) (fun _ => rfl) rfl rfl rfl
  | readHead i cmd retStatus retActualLen left hcall hread =>
    obtain ⟨f, fs, hanswered, rfl, rfl⟩ := head?_of_readHead hone.1 hread
    refine ⟨?_, ?_, ?_⟩
    · intro j cmd' st len hj
      obtain ⟨rfl, hphase⟩ | ⟨-, hj⟩ := calls_goto_eq hj
      · simp only [CallPhase.afterHead] at hphase
        split at hphase
        · rename_i hwants
          obtain ⟨rfl, rfl, rfl⟩ := CallPhase.readingData.inj hphase
          refine ⟨hwants, ?_⟩
          rw [taken_goto, hone.1]
          rfl
        · cases hphase
      · have htake := (hlone.data hj).1
        rw [hone.1] at htake
        cases htake
    · intro _
      refine ⟨f, fs, hanswered, ?_⟩
      rw [taken_goto, hone.1]
      exact length_bytes_pos f
    · intro j hj
      rw [taken_goto, hone.1, List.nil_append] at hj
      obtain rfl := List.eq_of_mem_replicate hj
      simp only [goto, Function.update_self, CallPhase.afterHead]
      split <;> rfl
  | readData i cmd retStatus retActualLen inData hcall =>
    obtain ⟨hwants, hlen⟩ := hs.data hcall
    obtain ⟨htake, f, hf, rfl, rfl⟩ := hlone.data hcall
    have hreq := First.head?_eq hone (show (s.calls i).request = some cmd by rw [hcall]; rfl)
    rw [List.head?_eq_getElem?] at hf hreq
    obtain ⟨j, cmd', hreq', -, hkeeps⟩ := hlone.answers hf
    obtain ⟨rfl, rfl⟩ := Prod.mk.inj (Option.some.inj (hreq.symm.trans hreq'))
    have hdir : cmd.direction = 1 := by
      simp only [wantsData, decide_eq_true_eq] at hwants
      exact hwants.1
    refine ⟨?_, ?_, ?_⟩
    · intro j' cmd' st len hj
      obtain ⟨-, hphase⟩ | ⟨hne, hj⟩ := calls_goto_eq hj
      · cases hphase
      · exact absurd (Option.some.inj ((hlone.data hj).1.symm.trans htake)) hne
    · intro _
      obtain ⟨fs, hanswered⟩ := List.head?_eq_some_iff.1 (List.head?_eq_getElem? ▸ hf)
      refine ⟨f, fs, hanswered, ?_⟩
      rw [taken_goto, List.length_append, List.length_replicate, hlen,
        length_bytes_of_wantsData hwants (hserver cmd f hkeeps hdir)]
      omega
    · intro j' hj
      simp only [goto, Function.update_apply]
      split
      · rfl
      · rename_i hne
        rw [taken_goto, List.mem_append] at hj
        rcases hj with hj | hj
        · exact hs.passed j' hj
        · exact absurd (List.eq_of_mem_replicate hj) hne
  | answer f i cmd hreq hseqnum hkeeps =>
    refine ⟨hs.data, ?_, hs.passed⟩
    intro hne
    obtain ⟨g, gs, hanswered, hlt⟩ := hs.within hne
    exact ⟨g, gs ++ [f], by rw [hanswered]; rfl, hlt⟩

theorem inside_init : Inside init where
  data h := by cases h
  within h := absurd rfl h
  passed i hi := by cases hi

/-- **The calls get their own replies when at most one of them reads**, and that one wrote its
request first. With a server that keeps the direction, only then. -/
theorem own_iff {as : List SubmitEvent} (h : run (step server) init as = some t) :
    (Along (step server) OneReader init as → Throughout (step server) Own init as) ∧
      (KeepsDirection server → Throughout (step server) Own init as →
        Along (step server) OneReader init as) := by
  constructor
  · exact Along.throughout (fun s a t hs hone ht => hs.step hone ht) (fun s hs => hs.own) lone_init
  · intro hserver hown
    refine Throughout.along (P := fun s => Lone server s ∧ Inside s) ?_ ⟨lone_init, inside_init⟩ h
      hown
    rintro s a t ⟨hlone, hinside⟩ ht hownt
    have hone := hinside.oneReader hlone hownt ht
    exact ⟨hone, hlone.step hone ht, hinside.step hlone hserver hone ht⟩

/-- A server that keeps the direction. -/
def directServer (cmd : UsbIpCmdSubmit) (f : RetSubmitFrame) : Bool :=
  cmd.direction = 1 → f.ret.direction ≠ 0

/-- The reply to a write of five bytes. -/
def doneReply (seqnum : UInt32) : RetSubmitFrame where
  version := usbipVersion
  status := 0
  ret := retRecord seqnum 1 0 2 0 5 (Vector.replicate 8 0)
  data := []
  length_data := by
    have hdir : (retRecord seqnum 1 0 2 0 5 (Vector.replicate 8 0)).direction = 0 := rfl
    simp [UsbIpRetSubmit.hasData, hdir]

/-- The reply to a read of two bytes. -/
def dataReply (seqnum : UInt32) : RetSubmitFrame where
  version := usbipVersion
  status := 0
  ret := retRecord seqnum 1 1 1 0 2 (Vector.replicate 8 0)
  data := [7, 8]
  length_data := rfl

/-- A call reads its reply, head and data, and another one writes its request in between. -/
def oneReader : List SubmitEvent :=
  [.enter 0 ⟨1, 1, 1, 0x0200, 8, Vector.replicate 8 0, []⟩, .enter 1 writeCall.args, .write 0,
    .answer (dataReply 1), .readHead 0, .write 1, .answer (doneReply 2), .readData 0]

theorem own_oneReader :
    (run (step directServer) init oneReader).isSome = true ∧
      Throughout (step directServer) Own init oneReader := by
  have hsome : (run (step directServer) init oneReader).isSome = true := by decide +kernel
  obtain ⟨t, ht⟩ := Option.isSome_iff_exists.1 hsome
  refine ⟨hsome, (own_iff ht).1 ?_⟩
  refine .cons trivial rfl (.cons trivial rfl (.cons trivial rfl (.cons trivial rfl ?_)))
  refine .cons ⟨rfl, fun hdata => absurd hdata (by decide +kernel)⟩ rfl ?_
  exact .cons trivial rfl (.cons trivial rfl (.cons ⟨_, rfl, rfl⟩ rfl trivial))

/-- Two calls, of which the second reads first. -/
def twoCalls : List SubmitEvent :=
  [.enter 0 writeCall.args, .enter 1 writeCall.args, .write 0, .write 1, .answer (doneReply 1),
    .answer (doneReply 2), .readHead 1]

/-- The second call returns the reply to the first. -/
theorem own_twoCalls :
    (run (step directServer) init twoCalls).isSome = true ∧
      ¬Throughout (step directServer) Own init twoCalls := by
  have hsome : (run (step directServer) init twoCalls).isSome = true := by decide +kernel
  obtain ⟨t, ht⟩ := Option.isSome_iff_exists.1 hsome
  refine ⟨hsome, fun hown => ?_⟩
  have hownt := hown.last ht
  obtain rfl := Option.some.inj ht
  have hhead := hownt.head?_eq (i := 1) rfl rfl
  exact absurd (congrArg (Option.map Prod.fst) hhead) (by decide)

end Exchange

end Android

end AnyPlug
