import AnyPlug.Android.Server
import AnyPlug.Core.Reply
import AnyPlug.Server.Bounds

/-!
# The Android client

`UsbIpClient.submitUrb` of `com.anyplug.client`: it writes a `CMD_SUBMIT` (`encode`) and reads the
`RET_SUBMIT` for it (`readReply`).

* The buffer of a request has room for a record of 48 bytes, but the record takes 44. The data of an
  OUT transfer is put right behind it and four zeros are left at the end, while both servers skip
  four bytes before the data. `submitted_iff`: a server sees the data only if it is all zeros.
* A record of 40 bytes is read of a reply, but the servers write 44. `replies_iff`: no reply is read
  as it was sent.
-/

namespace AnyPlug

namespace Android

/-! ## Requests -/

/-- The arguments of a call of `submitUrb`, with direction and flags that agree, and with the length
of the data for OUT. -/
structure SubmitCall where
  devid : UInt32
  direction : UInt32
  ep : UInt32
  flags : UInt32
  dataLen : UInt32
  setup : Vector UInt8 8
  data : Bytes
  direction_eq : direction = if flags &&& 0x0200 ≠ 0 then 1 else 0
  dataLen_eq : direction = 0 → dataLen.toNat = data.length

/-- The array behind a buffer of `n` bytes after some bytes were put. -/
def filled (n : ℕ) (puts : Bytes) : Bytes := puts ++ List.replicate (n - puts.length) 0

namespace SubmitCall

/-- The fields of the request. -/
def cmd (c : SubmitCall) (seqnum : UInt32) : UsbIpCmdSubmit :=
  ⟨seqnum, c.devid, c.direction, c.ep, c.flags, c.dataLen, 0, 0, 0, c.setup⟩

/-- The data that is put behind the record. -/
def outData (c : SubmitCall) : Bytes := if c.direction = 0 then c.data else []

/-- The array that is written. Allocating a negative size is an exception. -/
def encode (c : SubmitCall) (seqnum : UInt32) : Option Bytes :=
  if 8 + 48 + c.data.length < 2 ^ 31 then
    some (filled (8 + 48 + c.data.length)
      ((UsbIpHeader.new usbipCmdSubmit).asBytes ++ (c.cmd seqnum).asBytes ++ c.outData))
  else none

end SubmitCall

/-- The arrays that a sequence of calls writes, when `seqnum` is the number of the call before. -/
def encodeAll : UInt32 → List SubmitCall → Option (List Bytes)
  | _, [] => some []
  | seqnum, c :: cs => do
    let b ← c.encode (seqnum + 1)
    let bs ← encodeAll (seqnum + 1) cs
    return b :: bs

/-- The requests that a sequence of calls makes: the fields, and the data of OUT transfers. -/
def commands : UInt32 → List SubmitCall → List (UsbIpCmdSubmit × Bytes)
  | _, [] => []
  | seqnum, c :: cs => (c.cmd (seqnum + 1), c.outData) :: commands (seqnum + 1) cs

/-- The next request, as the URB loop of the Rust server decodes it. -/
def nextSubmit : ValueReader UInt8 (UsbIpCmdSubmit × Bytes) := fun stream =>
  match readMessage stream with
  | .error _ => none
  | .ok (frame, rest) =>
    match decodeFrame frame with
    | .submit cmd data => some ((cmd, data), rest)
    | .leave | .unknown => none

/-- The next request, as the URB loop of the Android server reads it. -/
def nextRequest : ValueReader UInt8 (UsbIpCmdSubmit × Bytes) := fun input =>
  (readRequest input).map fun (req, rest) =>
    ((req.cmd, if req.cmd.direction = 0 then req.outData else []), rest)

/-! ## What the servers read -/

/-- What stands where a server expects the data of an OUT transfer. -/
def shifted (data : Bytes) : Bytes := (data ++ List.replicate 4 0).drop 4

theorem length_shifted (data : Bytes) : (shifted data).length = data.length := by
  simp [shifted]

/-- The data arrives unchanged exactly when it is all zeros. -/
theorem shifted_eq_iff (data : Bytes) : shifted data = data ↔ ∀ b ∈ data, b = 0 := by
  constructor
  · intro h
    -- a byte equals the one four places on, and behind the data there are zeros
    have hnext (i : ℕ) (hi : i < data.length) :
        data[i]? = (data ++ List.replicate 4 0)[i + 4]? := by
      conv_lhs => rw [← h, shifted, List.getElem?_drop, Nat.add_comm]
    have hzero (n i : ℕ) (hn : data.length = i + n) : 0 < n → data[i]? = some 0 := by
      induction n using Nat.strong_induction_on generalizing i with
      | _ n ih =>
        intro hpos
        rw [hnext i (by omega)]
        rcases Nat.lt_or_ge 4 n with h4 | h4
        · rw [List.getElem?_append_left (by omega)]
          exact ih (n - 4) (by omega) (i + 4) (by omega) (by omega)
        · rw [List.getElem?_append_right (by omega), List.getElem?_replicate, if_pos (by omega)]
    intro b hb
    obtain ⟨i, hi, rfl⟩ := List.getElem_of_mem hb
    have hi0 := hzero (data.length - i) i (by omega) (by omega)
    rw [List.getElem?_eq_getElem hi] at hi0
    exact Option.some.inj hi0
  · intro h
    have hrep : data = List.replicate data.length 0 := List.eq_replicate_of_mem h
    rw [shifted, hrep, ← List.replicate_add, List.drop_replicate, Nat.add_sub_cancel]

section Readers

variable {header : UsbIpHeader} (hcmd : header.command = usbipCmdSubmit) (cmd : UsbIpCmdSubmit)
  (pad : Vector UInt8 4) (rest : Bytes)

include hcmd

/-- The Rust server goes by the flags. -/
theorem nextSubmit_frame {data : Bytes}
    (hdata : data.length = if !cmd.isIn then cmd.dataLen.toNat else 0) :
    nextSubmit (header.asBytes ++ (cmd.asBytes ++ pad.toList ++ (data ++ rest))) =
      some ((cmd, data), rest) := by
  have hframe := (CmdSubmitFrame.mk header.version header.status cmd pad data hdata).isFrame_bytes
  have hdecode :=
    (CmdSubmitFrame.mk header.version header.status cmd pad data hdata).decodeFrame_bytes
  have hbytes : header.asBytes ++ (cmd.asBytes ++ pad.toList ++ (data ++ rest)) =
      (CmdSubmitFrame.mk header.version header.status cmd pad data hdata).bytes ++ rest := by
    rw [CmdSubmitFrame.bytes, ← hcmd]
    simp only [List.append_assoc]
  rw [hbytes, nextSubmit, hframe rest]
  dsimp only
  rw [hdecode]

/-- The Android server goes by the direction. -/
theorem nextRequest_frame {data : Bytes}
    (hdata : data.length = if cmd.direction = 0 then cmd.transferBufferLength.toNat else 0) :
    nextRequest (header.asBytes ++ (cmd.asBytes ++ pad.toList ++ (data ++ rest))) =
      if cmd.transferBufferLength.toNat < 2 ^ 31 then some ((cmd, data), rest) else none := by
  unfold nextRequest
  split
  · rename_i hlt
    rw [readRequest_append hcmd cmd pad (data ++ rest) hlt]
    split
    · rename_i hout
      rw [if_pos hout.1] at hdata
      rw [readExact_append hdata]
      simp [hout.1]
    · rename_i hout
      have hnil : data = [] := by
        apply List.length_eq_zero_iff.1
        rw [hdata]
        split
        · rename_i hdir
          have h0 : ¬0 < cmd.transferBufferLength.toNat := fun hpos => hout ⟨hdir, hpos⟩
          omega
        · rfl
      by_cases hdir : cmd.direction = 0
      · rw [if_pos hdir, hnil] at hdata
        simp [hnil, ← hdata]
      · simp [hnil, hdir]
  · rename_i hlt
    rw [readRequest_of_le hcmd cmd pad _ (not_lt.1 hlt)]
    rfl

end Readers

theorem length_nextSubmit {s rest : Bytes} {v : UsbIpCmdSubmit × Bytes}
    (h : nextSubmit s = some (v, rest)) : s.length = 8 + 48 + v.2.length + rest.length := by
  unfold nextSubmit at h
  split at h
  · cases h
  · rename_i frame left hread
    split at h
    · rename_i cmd data hdecode
      obtain ⟨rfl, rfl⟩ := Prod.mk.inj (Option.some.inj h)
      obtain ⟨f, rfl, rfl⟩ := exists_frame_of_readMessage hread
      -- only a `CMD_SUBMIT` is decoded as one
      rcases f.cmdSubmit_or_decodeFrame_eq with ⟨g, rfl⟩ | hunknown
      · rw [Frame.bytes, g.decodeFrame_bytes] at hdecode
        obtain ⟨rfl, rfl⟩ := Decoded.submit.inj hdecode
        simp only [Frame.bytes, CmdSubmitFrame.bytes, List.length_append,
          UsbIpHeader.length_asBytes, UsbIpHeader.size, UsbIpCmdSubmit.length_asBytes,
          Vector.length_toList]
      · rw [hunknown] at hdecode
        cases hdecode
    · cases h
    · cases h

theorem length_nextRequest {s rest : Bytes} {v : UsbIpCmdSubmit × Bytes}
    (h : nextRequest s = some (v, rest)) : s.length = 8 + 48 + v.2.length + rest.length := by
  obtain ⟨⟨req, left⟩, hreq, heq⟩ := Option.map_eq_some_iff.1 h
  obtain ⟨rfl, rfl⟩ := Prod.mk.inj heq
  rw [(length_readRequest hreq).2]
  dsimp only
  split <;> rfl

/-! ## One call -/

theorem command_new (command : UInt16) : (UsbIpHeader.new command).command = command := rfl

namespace SubmitCall

theorem isIn_cmd (c : SubmitCall) (seqnum : UInt32) :
    (c.cmd seqnum).isIn = true ↔ c.direction ≠ 0 := by
  have hdir := c.direction_eq
  simp only [UsbIpCmdSubmit.isIn, cmd, urbDirIn, bne_iff_ne]
  split at hdir
  · rename_i hflags
    simp [hflags, hdir]
  · rename_i hflags
    simp [not_not.1 hflags, hdir]

/-- The data that a server finds. -/
def received (c : SubmitCall) : Bytes := if c.direction = 0 then shifted c.data else []

/-- What no server takes for this request. -/
def excess (c : SubmitCall) : Bytes :=
  if c.direction = 0 then [] else List.replicate c.data.length 0

/-- The data survives: it is all zeros for OUT, and there is none for IN. -/
def Survives (c : SubmitCall) : Prop :=
  if c.direction = 0 then ∀ b ∈ c.data, b = 0 else c.data = []

theorem survives_iff (c : SubmitCall) : c.Survives ↔ c.received = c.outData ∧ c.excess = [] := by
  unfold Survives received outData excess
  split
  · rw [shifted_eq_iff, and_iff_left rfl]
  · simp

theorem length_received (c : SubmitCall) :
    c.received.length = if c.direction = 0 then c.dataLen.toNat else 0 := by
  unfold received
  split
  · rename_i hdir
    rw [length_shifted, c.dataLen_eq hdir]
  · rfl

variable {c : SubmitCall} {seqnum : UInt32} {b : Bytes}

/-- What a call writes, in the layout of the servers. -/
theorem exists_encode_eq (h : c.encode seqnum = some b) :
    ∃ pad : Vector UInt8 4, b = (UsbIpHeader.new usbipCmdSubmit).asBytes ++
      ((c.cmd seqnum).asBytes ++ pad.toList ++ (c.received ++ c.excess)) := by
  unfold encode at h
  split at h
  · obtain rfl := Option.some.inj h
    by_cases hdir : c.direction = 0
    · refine ⟨⟨((c.data ++ List.replicate 4 0).take 4).toArray, by simp⟩, ?_⟩
      have hroom : 8 + 48 + c.data.length - (8 + (44 + c.data.length)) = 4 := by omega
      simp [filled, outData, received, excess, shifted, hdir, UsbIpHeader.size, hroom]
    · refine ⟨Vector.replicate 4 0, ?_⟩
      have hroom : 8 + 48 + c.data.length - (8 + 44) = 4 + c.data.length := by omega
      simp [filled, outData, received, excess, hdir, UsbIpHeader.size, hroom, List.replicate_add]
  · cases h

theorem length_encode (h : c.encode seqnum = some b) : b.length = 8 + 48 + c.data.length := by
  obtain ⟨pad, rfl⟩ := exists_encode_eq h
  unfold received excess
  split <;> simp [UsbIpHeader.size, length_shifted] <;> omega

theorem nextSubmit_encode (h : c.encode seqnum = some b) (s : Bytes) :
    nextSubmit (b ++ s) = some ((c.cmd seqnum, c.received), c.excess ++ s) := by
  obtain ⟨pad, rfl⟩ := exists_encode_eq h
  have hin := c.isIn_cmd seqnum
  have hread := nextSubmit_frame (command_new usbipCmdSubmit) (c.cmd seqnum) pad (c.excess ++ s)
    (show c.received.length = _ by
      rw [length_received]
      cases hb : (c.cmd seqnum).isIn <;> simp_all [cmd, UsbIpCmdSubmit.dataLen])
  simpa only [List.append_assoc] using hread

theorem nextRequest_encode (h : c.encode seqnum = some b) (s : Bytes) :
    nextRequest (b ++ s) =
      if c.dataLen.toNat < 2 ^ 31 then some ((c.cmd seqnum, c.received), c.excess ++ s)
      else none := by
  obtain ⟨pad, rfl⟩ := exists_encode_eq h
  have hread := nextRequest_frame (command_new usbipCmdSubmit) (c.cmd seqnum) pad (c.excess ++ s)
    c.length_received
  simp only [List.append_assoc] at hread ⊢
  exact hread

end SubmitCall

/-! ## A sequence of calls -/

/-- A server takes one request for a call that it accepts, and rejects any other. -/
structure ServerReader (read : ValueReader UInt8 (UsbIpCmdSubmit × Bytes))
    (accepts : SubmitCall → Prop) : Prop where
  accepted {c seqnum b} : c.encode seqnum = some b → accepts c → ∀ s,
    read (b ++ s) = some ((c.cmd seqnum, c.received), c.excess ++ s)
  rejected {c seqnum b} : c.encode seqnum = some b → ¬accepts c → ∀ s, read (b ++ s) = none
  length {s v rest} : read s = some (v, rest) → s.length = 8 + 48 + v.2.length + rest.length

theorem serverReader_nextSubmit : ServerReader nextSubmit fun _ => True where
  accepted h _ := SubmitCall.nextSubmit_encode h
  rejected _ h := absurd trivial h
  length := length_nextSubmit

theorem serverReader_nextRequest : ServerReader nextRequest fun c => c.dataLen.toNat < 2 ^ 31 where
  accepted h hlt s := by rw [SubmitCall.nextRequest_encode h, if_pos hlt]
  rejected h hlt s := by rw [SubmitCall.nextRequest_encode h, if_neg hlt]
  length := length_nextRequest

theorem encodeAll_cons_eq_some {seqnum : UInt32} {c : SubmitCall} {cs : List SubmitCall}
    {bs : List Bytes} :
    encodeAll seqnum (c :: cs) = some bs ↔
      ∃ b bs', c.encode (seqnum + 1) = some b ∧ encodeAll (seqnum + 1) cs = some bs' ∧
        bs = b :: bs' := by
  simp only [encodeAll, Option.bind_eq_bind, Option.bind_eq_some_iff, Option.pure_def,
    Option.some.injEq]
  constructor
  · rintro ⟨b, hb, bs', hbs, rfl⟩
    exact ⟨b, bs', hb, hbs, rfl⟩
  · rintro ⟨b, bs', hb, hbs, rfl⟩
    exact ⟨b, hb, bs', hbs, rfl⟩

/-- What is written is at least as long as the requests. -/
theorem sum_commands_le {seqnum : UInt32} {calls : List SubmitCall} {bs : List Bytes}
    (h : encodeAll seqnum calls = some bs) :
    ((commands seqnum calls).map fun v => 8 + 48 + v.2.length).sum ≤ bs.flatten.length := by
  induction calls generalizing seqnum bs with
  | nil => exact Nat.zero_le _
  | cons c cs ih =>
    obtain ⟨b, bs', hb, hbs, rfl⟩ := encodeAll_cons_eq_some.1 h
    have htail := ih hbs
    have hhead : c.outData.length ≤ c.data.length := by
      unfold SubmitCall.outData
      split
      · exact le_rfl
      · exact Nat.zero_le _
    rw [commands, List.map_cons, List.sum_cons, List.flatten_cons, List.length_append,
      SubmitCall.length_encode hb]
    dsimp only
    omega

/-- **A server reads a sequence of calls as it was made exactly when** it accepts each of them and
the data of each survives. -/
theorem ServerReader.readValues_iff {read : ValueReader UInt8 (UsbIpCmdSubmit × Bytes)}
    {accepts : SubmitCall → Prop} (hr : ServerReader read accepts) {seqnum : UInt32}
    {calls : List SubmitCall} {bs : List Bytes} (h : encodeAll seqnum calls = some bs)
    (suffix : Bytes) :
    readValues read calls.length (bs.flatten ++ suffix) = some (commands seqnum calls, suffix) ↔
      ∀ c ∈ calls, accepts c ∧ c.Survives := by
  induction calls generalizing seqnum bs with
  | nil =>
    obtain rfl := Option.some.inj h
    simp [readValues, commands]
  | cons c cs ih =>
    obtain ⟨b, bs', hb, hbs, rfl⟩ := encodeAll_cons_eq_some.1 h
    have hiff := ih hbs
    rw [List.length_cons, commands, readValues_succ_eq_some, List.flatten_cons,
      List.append_assoc, List.forall_mem_cons, SubmitCall.survives_iff, ← hiff]
    constructor
    · rintro ⟨s', hfirst, hrest⟩
      by_cases hc : accepts c
      · rw [hr.accepted hb hc] at hfirst
        obtain ⟨hcmd, rfl⟩ := Prod.mk.inj (Option.some.inj hfirst)
        -- the requests that follow use up all that is written, and the excess before it
        have hlen := length_readValues hr.length hrest
        have hle := sum_commands_le hbs
        rw [List.length_append, List.length_append] at hlen
        have hnil : c.excess = [] := List.length_eq_zero_iff.1 (by omega)
        rw [hnil, List.nil_append] at hrest
        exact ⟨⟨hc, (Prod.mk.inj hcmd).2, hnil⟩, hrest⟩
      · rw [hr.rejected hb hc] at hfirst
        cases hfirst
    · rintro ⟨⟨hc, hreceived, hnil⟩, hrest⟩
      refine ⟨bs'.flatten ++ suffix, ?_, hrest⟩
      rw [hr.accepted hb hc, hreceived, hnil, List.nil_append]

theorem exists_encodeAll_iff (seqnum : UInt32) (calls : List SubmitCall) :
    (∃ bs, encodeAll seqnum calls = some bs) ↔ ∀ c ∈ calls, 8 + 48 + c.data.length < 2 ^ 31 := by
  induction calls generalizing seqnum with
  | nil => simp [encodeAll]
  | cons c cs ih =>
    rw [List.forall_mem_cons, ← ih (seqnum + 1)]
    simp only [encodeAll_cons_eq_some]
    constructor
    · rintro ⟨bs, b, bs', hb, hbs, rfl⟩
      refine ⟨?_, bs', hbs⟩
      unfold SubmitCall.encode at hb
      split at hb
      · assumption
      · cases hb
    · rintro ⟨hlt, bs', hbs⟩
      exact ⟨_, _, bs', if_pos hlt, hbs, rfl⟩

/-- **The servers see the calls of a client exactly when** the buffers can be allocated, the data of
OUT transfers is all zeros, and IN transfers come with no data and a length that is not negative. -/
theorem submitted_iff (seqnum : UInt32) (calls : List SubmitCall) :
    (∃ bs, encodeAll seqnum calls = some bs ∧ ∀ suffix,
        readValues nextSubmit calls.length (bs.flatten ++ suffix) =
            some (commands seqnum calls, suffix) ∧
          readValues nextRequest calls.length (bs.flatten ++ suffix) =
            some (commands seqnum calls, suffix)) ↔
      ∀ c ∈ calls, 8 + 48 + c.data.length < 2 ^ 31 ∧
        if c.direction = 0 then ∀ b ∈ c.data, b = 0
        else c.data = [] ∧ c.dataLen.toNat < 2 ^ 31 := by
  constructor
  · rintro ⟨bs, hbs, h⟩ c hc
    have hroom := (exists_encodeAll_iff seqnum calls).1 ⟨bs, hbs⟩ c hc
    have hsurvives := (serverReader_nextRequest.readValues_iff hbs []).1 (h []).2 c hc
    refine ⟨hroom, ?_⟩
    rw [SubmitCall.Survives] at hsurvives
    split
    · rename_i hdir
      rw [if_pos hdir] at hsurvives
      exact hsurvives.2
    · rename_i hdir
      rw [if_neg hdir] at hsurvives
      exact hsurvives.symm
  · intro h
    obtain ⟨bs, hbs⟩ := (exists_encodeAll_iff seqnum calls).2 fun c hc => (h c hc).1
    have hsurvives (c) (hc : c ∈ calls) : c.dataLen.toNat < 2 ^ 31 ∧ c.Survives := by
      obtain ⟨hroom, hdata⟩ := h c hc
      rw [SubmitCall.Survives]
      split at hdata
      · rename_i hdir
        rw [if_pos hdir, c.dataLen_eq hdir]
        exact ⟨by omega, hdata⟩
      · rename_i hdir
        rw [if_neg hdir]
        exact hdata.symm
    refine ⟨bs, hbs, fun suffix => ⟨?_, ?_⟩⟩
    · exact (serverReader_nextSubmit.readValues_iff hbs suffix).2
        fun c hc => ⟨trivial, (hsurvives c hc).2⟩
    · exact (serverReader_nextRequest.readValues_iff hbs suffix).2 hsurvives

/-- A write of five bytes to a bulk endpoint. -/
def writeCall : SubmitCall where
  devid := 1
  direction := 0
  ep := 2
  flags := 0
  dataLen := 5
  setup := Vector.replicate 8 0
  data := [1, 2, 3, 4, 5]
  direction_eq := rfl
  dataLen_eq _ := rfl

/-- The servers see another write than was asked for. -/
theorem submitted_write_ne :
    ¬∃ bs, encodeAll 0 [writeCall] = some bs ∧ ∀ suffix,
      readValues nextSubmit 1 (bs.flatten ++ suffix) = some (commands 0 [writeCall], suffix) ∧
        readValues nextRequest 1 (bs.flatten ++ suffix) =
          some (commands 0 [writeCall], suffix) := by
  rintro ⟨bs, hbs, h⟩
  have hsurvives := (serverReader_nextSubmit.readValues_iff hbs []).1 (h []).1 writeCall (by simp)
  exact absurd (hsurvives.2 1 (by decide)) (by decide)

/-! ## Replies -/

/-- What a call of `submitUrb` returns. -/
structure UrbResult where
  status : UInt32
  actualLength : UInt32
  data : Bytes

/-- `ByteBuffer.getInt`: the four bytes at an index, most significant first. -/
def getInt (buf : Bytes) (index : ℕ) : Option UInt32 :=
  (FixedCodec.u32be.decode (buf.drop index)).map Prod.fst

/-- The second half of `submitUrb`: read the reply to a request with this direction. It is an
exception when the stream ends before. -/
def readReply (direction : UInt32) (input : Bytes) : Option (UrbResult × Bytes) := do
  let (_, input) ← readExact 8 input
  let (retStruct, input) ← readExact 40 input
  let retStatus ← getInt retStruct 16
  let retActualLen ← getInt retStruct 20
  if direction = 1 ∧ retStatus = 0 ∧ 0 < retActualLen.toInt32 then
    let (inData, input) ← readExact retActualLen.toNat input
    return (⟨retStatus, retActualLen, inData⟩, input)
  else return (⟨retStatus, retActualLen, []⟩, input)

/-- The results of successive calls, each with what it leaves of the stream. -/
def readReplies : List UInt32 → Bytes → Option (List (UrbResult × Bytes))
  | [], _ => some []
  | direction :: directions, input => do
    let (result, input) ← readReply direction input
    let results ← readReplies directions input
    return (result, input) :: results

/-- A reply of either server to a request with this direction. -/
structure Reply where
  direction : UInt32
  status : Int32
  actualLength : UInt32
  data : Bytes
  bytes : Bytes
  bytes_eq :
    (∃ cmd : UsbIpCmdSubmit, cmd.direction = direction ∧
      serializeReply cmd status actualLength data = bytes) ∨
    ∃ seqnum devid ep setup,
      buildRetSubmit seqnum devid direction ep status actualLength.toNat setup data = some bytes

namespace Reply

/-- The result that the reply stands for. -/
def result (r : Reply) : UrbResult := ⟨r.status.toUInt32, r.actualLength, r.data⟩

/-- Both servers write a header, a record with the status and the length, and the data. -/
theorem exists_bytes_eq (r : Reply) :
    ∃ ret : UsbIpRetSubmit, ret.status = r.status.toUInt32 ∧ ret.actualLength = r.actualLength ∧
      r.bytes = (UsbIpHeader.new usbipRetSubmit).asBytes ++ (ret.asBytes ++ r.data) := by
  obtain ⟨cmd, -, hbytes⟩ | ⟨seqnum, devid, ep, setup, hbytes⟩ := r.bytes_eq
  · exact ⟨replyRecord cmd r.status r.actualLength, rfl, rfl, hbytes ▸ serializeReply_eq _ _ _ _⟩
  · refine ⟨retRecord seqnum devid r.direction ep r.status r.actualLength.toNat setup, rfl, ?_, ?_⟩
    · exact UInt32.ofNat_toNat
    · unfold buildRetSubmit at hbytes
      split at hbytes
      · rw [← Option.some.inj hbytes, retBytes, List.append_assoc]
      · cases hbytes

theorem length_bytes (r : Reply) : r.bytes.length = 8 + 44 + r.data.length := by
  obtain ⟨ret, -, -, hbytes⟩ := r.exists_bytes_eq
  rw [hbytes, List.length_append, List.length_append, UsbIpHeader.length_asBytes,
    UsbIpRetSubmit.length_asBytes, Nat.add_assoc]
  rfl

end Reply

/-- The results of calls that read one reply each, with the stream at the start of the next. -/
def expected : List Reply → Bytes → List (UrbResult × Bytes)
  | [], _ => []
  | r :: rs, suffix => (r.result, (rs.map Reply.bytes).flatten ++ suffix) :: expected rs suffix

/-- A call takes 48 bytes and the data it returns. -/
theorem length_readReply {direction : UInt32} {input left : Bytes} {result : UrbResult}
    (h : readReply direction input = some (result, left)) :
    input.length = 8 + 40 + result.data.length + left.length := by
  simp only [readReply, Option.bind_eq_bind, Option.bind_eq_some_iff] at h
  obtain ⟨⟨header, s₁⟩, hheader, ⟨retStruct, s₂⟩, hrecord, status, -, actualLen, -, h⟩ := h
  have hlen₁ := length_readExact hheader
  have hlen₂ := length_readExact hrecord
  dsimp only at h hlen₂
  split at h
  · obtain ⟨⟨inData, s₃⟩, hdata, h⟩ := Option.bind_eq_some_iff.1 h
    have hlen₃ := length_readExact hdata
    obtain ⟨rfl, rfl⟩ := Prod.mk.inj (Option.some.inj h)
    dsimp only
    omega
  · obtain ⟨rfl, rfl⟩ := Prod.mk.inj (Option.some.inj h)
    dsimp only [List.length_nil]
    omega

/-- The integer behind the first part of a buffer. -/
theorem getInt_append {pre post : Bytes} {index : ℕ} (hpre : pre.length = index) (x : UInt32) :
    getInt (pre ++ (FixedCodec.u32be.encode x ++ post)) index = some x := by
  rw [getInt, List.drop_left' hpre, FixedCodec.decode_encode_append]
  rfl

/-- The first 40 bytes of a record hold its status and its length. -/
theorem exists_record_eq (ret : UsbIpRetSubmit) :
    ∃ buf tail : Bytes, buf.length = 40 ∧ tail.length = 4 ∧ ret.asBytes = buf ++ tail ∧
      getInt buf 16 = some ret.status ∧ getInt buf 20 = some ret.actualLength := by
  let int := FixedCodec.u32be.encode
  let pre : Bytes := int ret.seqnum ++ int ret.devid ++ int ret.direction ++ int ret.ep
  let post : Bytes := int ret.startFrame ++ int ret.numberOfPackets ++ int ret.errorCount ++
    ret.setup.toList.take 4
  refine ⟨pre ++ (int ret.status ++ (int ret.actualLength ++ post)), ret.setup.toList.drop 4,
    ?_, ?_, ?_, ?_, ?_⟩
  · simp [pre, post, int, FixedCodec.u32be]
  · simp
  · change int ret.seqnum ++ (int ret.devid ++ (int ret.direction ++ (int ret.ep ++
      (int ret.status ++ (int ret.actualLength ++ (int ret.startFrame ++
        (int ret.numberOfPackets ++ (int ret.errorCount ++ ret.setup.toList)))))))) = _
    simp only [pre, post, List.append_assoc, List.take_append_drop]
  · exact getInt_append (by simp [pre, int, FixedCodec.u32be]) ret.status
  · rw [← List.append_assoc]
    exact getInt_append (by simp [pre, int, FixedCodec.u32be]) ret.actualLength

/-- The first of the calls already goes wrong. -/
theorem readReplies_ne (r : Reply) (rs : List Reply) (suffix : Bytes) :
    readReplies ((r :: rs).map Reply.direction) (((r :: rs).map Reply.bytes).flatten ++ suffix) ≠
      some (expected (r :: rs) suffix) := by
  intro h
  simp only [List.map_cons, readReplies, expected, Option.bind_eq_bind, Option.bind_eq_some_iff,
    Option.pure_def, Option.some.injEq, List.cons.injEq] at h
  obtain ⟨⟨result, left⟩, hread, results, -, heq, -⟩ := h
  obtain ⟨rfl, rfl⟩ := Prod.mk.inj heq
  -- the reply has four bytes more than the call takes
  have hlen := length_readReply hread
  rw [List.flatten_cons, List.append_assoc, List.length_append, r.length_bytes] at hlen
  change _ = 8 + 40 + r.data.length + _ at hlen
  omega

/-- **No replies but none are read as they were sent.** -/
theorem replies_iff (replies : List Reply) :
    (∀ suffix, readReplies (replies.map Reply.direction)
      ((replies.map Reply.bytes).flatten ++ suffix) = some (expected replies suffix)) ↔
      replies = [] := by
  constructor
  · intro h
    cases replies with
    | nil => rfl
    | cons r rs => exact absurd (h []) (readReplies_ne r rs [])
  · rintro rfl suffix
    rfl

/-- The reply to a write of five bytes. -/
def writeReply : Reply where
  direction := 0
  status := 0
  actualLength := 5
  data := []
  bytes := serializeReply (writeCall.cmd 1) 0 5 []
  bytes_eq := .inl ⟨writeCall.cmd 1, rfl, rfl⟩

/-- The call that reads it leaves four of its bytes on the stream. -/
theorem replies_write_ne :
    ¬∀ suffix, readReplies [0] (([writeReply].map Reply.bytes).flatten ++ suffix) =
      some (expected [writeReply] suffix) :=
  fun h => readReplies_ne writeReply [] [] (h [])

end Android

end AnyPlug
