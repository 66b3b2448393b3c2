import AnyPlug.Core.Wire

/-!
# The Android server

The URB loop of `com.anyplug.server.UsbIpServer`. One round of it reads a request (`readRequest`),
executes it on the device (`executeUrb`) and writes a reply (`buildRetSubmit`). The calls of the
Android USB host API are parameters: a transfer returns a length between -1 and the size of its
buffer, and what the buffer holds afterwards.

A field of a message is a Kotlin `Int`. It is kept here as its 32 bits; only `dataLen` is ever
compared as a signed number.

`urbLoopBody_agrees_iff` compares a round with the reader of the other implementation: whether both
take the same bytes for a request, and whether the reply is one message.
-/

namespace AnyPlug

namespace Android

/-! ## The USB host API -/

/-- An endpoint of an interface. -/
structure UsbEndpoint where
  address : UInt8
  maxPacketSize : UInt16

/-- A device: the endpoints of its interfaces. -/
structure UsbDevice where
  interfaces : List (List UsbEndpoint)

/-- What a transfer with a buffer of `n` bytes returns: a length, or -1, and the buffer after it. -/
structure TransferResult (n : ℕ) where
  len : ℤ
  buffer : Bytes
  neg_one_le_len : -1 ≤ len
  len_le : len ≤ n
  length_buffer : buffer.length = n

theorem TransferResult.len_nonpos {n : ℕ} (r : TransferResult n) (h : n = 0) : r.len ≤ 0 := by
  have hle := r.len_le
  omega

/-- An open device. -/
structure UsbDeviceConnection where
  controlTransfer (requestType request value index : ℕ) (buffer : Bytes) :
    TransferResult buffer.length
  bulkTransfer (endpoint : UsbEndpoint) (buffer : Bytes) : TransferResult buffer.length

/-! ## Requests -/

/-- `readExact`: fill a buffer of `n` bytes, unless the stream ends before. -/
def readExact (n : ℕ) (input : Bytes) : Option (Bytes × Bytes) :=
  if n ≤ input.length then some (input.take n, input.drop n) else none

/-- A request as the loop has read it. -/
structure Request where
  cmd : UsbIpCmdSubmit
  outData : Bytes

/-- Read a request. The loop is left at the end of the stream, at any other command, and by an
exception when the length is negative. -/
def readRequest (input : Bytes) : Option (Request × Bytes) := do
  let (headerBuf, input) ← readExact 8 input
  let (header, _) ← UsbIpHeader.readFromPrefix headerBuf
  if header.command ≠ usbipCmdSubmit then none
  else
    let (cmdBuf, input) ← readExact 48 input
    let (cmd, _) ← UsbIpCmdSubmit.readFromPrefix cmdBuf
    let dataLen := cmd.transferBufferLength.toNat
    if 2 ^ 31 ≤ dataLen then none
    else if cmd.direction = 0 ∧ 0 < dataLen then
      let (outData, input) ← readExact dataLen input
      return (⟨cmd, outData⟩, input)
    else return (⟨cmd, List.replicate dataLen 0⟩, input)

/-! ## Transfers -/

def isControlTransfer (setup : Vector UInt8 8) : Bool := setup.toList.any (· != 0)

/-- The first endpoint with the address, or with the address in the direction of the transfer. -/
def findEndpoint (device : UsbDevice) (epAddr : UInt32) (isIn : Bool) : Option UsbEndpoint :=
  let targetAddr := if isIn then epAddr ||| 0x80 else epAddr &&& 0x7F
  device.interfaces.flatten.find? fun ep =>
    ep.address.toUInt32 == epAddr || ep.address.toUInt32 == targetAddr

/-- The status, the length and the data of an IN transfer. -/
def completeIn {n : ℕ} (r : TransferResult n) : Int32 × ℕ × Bytes :=
  if 0 ≤ r.len then (0, r.len.toNat, r.buffer.take r.len.toNat) else (-5, 0, [])

/-- The status, the length and the data of an OUT transfer. -/
def completeOut {n : ℕ} (r : TransferResult n) : Int32 × ℕ × Bytes :=
  if 0 ≤ r.len then (0, r.len.toNat, []) else (-5, 0, [])

/-- The transfer is IN by its direction, its flags or its endpoint. -/
def isIn (direction flags epAddr : UInt32) : Bool :=
  direction != 0 || flags &&& 0x0200 != 0 || epAddr &&& 0x80 != 0

/-- A control transfer is IN by its request type or its direction. -/
def isControlIn (direction : UInt32) (setup : Vector UInt8 8) : Bool :=
  setup.get 0 &&& 0x80 != 0 || direction != 0

/-- A reply is IN by the direction of the request or by its endpoint. -/
def isRetIn (direction ep : UInt32) : Bool := direction != 0 || ep &&& 0x80 != 0

/-- Two bytes of the setup packet, least significant first. -/
def word (low high : UInt8) : ℕ := low.toNat + 256 * high.toNat

/-- Execute a URB on the device. -/
def executeUrb (conn : UsbDeviceConnection) (device : UsbDevice) (epAddr direction flags : UInt32)
    (dataLen : ℕ) (setup : Vector UInt8 8) (outData : Bytes) : Int32 × ℕ × Bytes :=
  let epNumber := epAddr &&& 0x0F
  if epNumber = 0 ∨ isControlTransfer setup then
    let bmRequestType := (setup.get 0).toNat
    let bRequest := (setup.get 1).toNat
    let wValue := word (setup.get 2) (setup.get 3)
    let wIndex := word (setup.get 4) (setup.get 5)
    let wLength := word (setup.get 6) (setup.get 7)
    if isControlIn direction setup then
      completeIn (conn.controlTransfer bmRequestType bRequest wValue wIndex
        (List.replicate wLength 0))
    else
      completeOut (conn.controlTransfer bmRequestType bRequest wValue wIndex outData)
  else
    match findEndpoint device epAddr (isIn direction flags epAddr) with
    | none => (-19, 0, [])
    | some endpoint =>
      if isIn direction flags epAddr then
        let maxSize := max dataLen endpoint.maxPacketSize.toNat
        completeIn (conn.bulkTransfer endpoint (List.replicate maxSize 0))
      else completeOut (conn.bulkTransfer endpoint outData)

/-! ## Replies -/

/-- The record of a reply. -/
def retRecord (seqnum devid direction ep : UInt32) (status : Int32) (actualLen : ℕ)
    (setup : Vector UInt8 8) : UsbIpRetSubmit where
  seqnum := seqnum
  devid := devid
  direction := if isRetIn direction ep then 1 ||| 0x0200 else 0
  ep := ep
  status := status.toUInt32
  actualLength := UInt32.ofNat actualLen
  startFrame := 0
  numberOfPackets := 0
  errorCount := if status = 0 then 0 else 1
  setup := setup

/-- The bytes of a reply. -/
def retBytes (seqnum devid direction ep : UInt32) (status : Int32) (actualLen : ℕ)
    (setup : Vector UInt8 8) (inData : Bytes) : Bytes :=
  (UsbIpHeader.new usbipRetSubmit).asBytes ++
    (retRecord seqnum devid direction ep status actualLen setup).asBytes ++ inData

/-- Build a reply. The size of its buffer is an `Int`, and allocating a negative size is an
exception. -/
def buildRetSubmit (seqnum devid direction ep : UInt32) (status : Int32) (actualLen : ℕ)
    (setup : Vector UInt8 8) (inData : Bytes) : Option Bytes :=
  if 8 + 44 + inData.length < 2 ^ 31 then
    some (retBytes seqnum devid direction ep status actualLen setup inData)
  else none

/-- Execute a request and build its reply; after an exception the reply is an error. -/
def respond (conn : UsbDeviceConnection) (device : UsbDevice) (req : Request) : Bytes :=
  let cmd := req.cmd
  let (status, actualLen, inData) := executeUrb conn device cmd.ep cmd.direction cmd.transferFlags
    cmd.transferBufferLength.toNat cmd.setup req.outData
  match buildRetSubmit cmd.seqnum cmd.devid cmd.direction cmd.ep status actualLen cmd.setup
    inData with
  | some reply => reply
  | none => retBytes cmd.seqnum cmd.devid cmd.direction cmd.ep (-5) 0 cmd.setup []

/-- One round of the loop: the reply that is written, and what is left of the stream. -/
def urbLoopBody (conn : UsbDeviceConnection) (device : UsbDevice) (input : Bytes) :
    Option (Bytes × Bytes) :=
  (readRequest input).map fun (req, input) => (respond conn device req, input)

/-- The replies of at most `fuel` rounds; the `k`-th round finds the connection in its own state. -/
def urbLoop (conn : ℕ → UsbDeviceConnection) (device : UsbDevice) :
    (fuel k : ℕ) → Bytes → List Bytes
  | 0, _, _ => []
  | fuel + 1, k, input =>
    match urbLoopBody (conn k) device input with
    | none => []
    | some (reply, input) => reply :: urbLoop conn device fuel (k + 1) input

/-! ## The same request -/

/-- What is left of a stream after the data of a request, when the request has any. -/
def afterData (present : Bool) (n : ℕ) (rest : Bytes) : Option Bytes :=
  if present then if n ≤ rest.length then some (rest.drop n) else none else some rest

theorem afterData_eq_iff {n : ℕ} (hn : 0 < n) {b b' : Bool} {rest : Bytes} :
    afterData b n rest = afterData b' n rest ↔ b = b' := by
  have hne : afterData true n rest ≠ afterData false n rest := by
    simp only [afterData, if_true, Bool.false_eq_true, if_false]
    split
    · intro h
      have hlen := congrArg List.length (Option.some.inj h)
      rw [List.length_drop] at hlen
      omega
    · simp
  cases b <;> cases b' <;> simp [hne, hne.symm]

section Request

variable {header : UsbIpHeader} (hcmd : header.command = usbipCmdSubmit) (cmd : UsbIpCmdSubmit)
  (pad : Vector UInt8 4) (rest : Bytes)

include hcmd

theorem map_snd_readMessage :
    (readMessage (header.asBytes ++ (cmd.asBytes ++ pad.toList ++ rest))).toOption.map Prod.snd =
      afterData (!cmd.isIn && 0 < cmd.transferBufferLength.toNat)
        cmd.transferBufferLength.toNat rest := by
  have hlen : (cmd.asBytes ++ pad.toList).length = UsbIpCmdSubmit.headerSize := by
    simp [UsbIpCmdSubmit.headerSize]
  have hpos : decide (0 < cmd.dataLen) = decide (0 < cmd.transferBufferLength.toNat) :=
    decide_eq_decide.2 UInt32.lt_iff_toNat_lt
  rw [readMessage, AnyPlug.readExact_append (UsbIpHeader.length_asBytes _)]
  simp only [ok_bind, UsbIpHeader.readFromPrefix_asBytes, okOr_some, hcmd, if_true,
    AnyPlug.readExact_append hlen, UsbIpCmdSubmit.readFromPrefix_asBytes_append, hpos]
  rw [afterData]
  split
  · rw [AnyPlug.readExact, UsbIpCmdSubmit.dataLen]
    split <;> rfl
  · rfl

omit hcmd in
theorem readExact_append {n : ℕ} {a : Bytes} (h : a.length = n) (rest : Bytes) :
    readExact n (a ++ rest) = some (a, rest) := by
  rw [readExact, if_pos (by simp [h]), List.take_left' h, List.drop_left' h]

omit hcmd in
theorem length_readExact {n : ℕ} {input a left : Bytes} (h : readExact n input = some (a, left)) :
    a.length = n ∧ input.length = n + left.length := by
  unfold readExact at h
  split at h
  · rename_i hle
    obtain ⟨rfl, rfl⟩ := Prod.mk.inj (Option.some.inj h)
    refine ⟨List.length_take_of_le hle, ?_⟩
    rw [List.length_drop]
    omega
  · cases h

/-- A request is read up to its record; a negative length is an exception, and the data is read by
the direction. -/
theorem readRequest_record :
    readRequest (header.asBytes ++ (cmd.asBytes ++ pad.toList ++ rest)) =
      if 2 ^ 31 ≤ cmd.transferBufferLength.toNat then none
      else if cmd.direction = 0 ∧ 0 < cmd.transferBufferLength.toNat then
        (readExact cmd.transferBufferLength.toNat rest).map fun (outData, input) =>
          (⟨cmd, outData⟩, input)
      else some (⟨cmd, List.replicate cmd.transferBufferLength.toNat 0⟩, rest) := by
  have hlen : (cmd.asBytes ++ pad.toList).length = 48 := by simp
  have hsize : header.asBytes.length = 8 := UsbIpHeader.length_asBytes _
  simp only [readRequest, readExact_append hsize, Option.bind_eq_bind, Option.bind_some,
    UsbIpHeader.readFromPrefix_asBytes, hcmd, ne_eq, not_true_eq_false, if_false,
    readExact_append hlen, UsbIpCmdSubmit.readFromPrefix_asBytes_append]
  split
  · rfl
  · split
    · cases readExact cmd.transferBufferLength.toNat rest <;> rfl
    · rfl

theorem readRequest_of_le (hle : 2 ^ 31 ≤ cmd.transferBufferLength.toNat) :
    readRequest (header.asBytes ++ (cmd.asBytes ++ pad.toList ++ rest)) = none := by
  rw [readRequest_record hcmd, if_pos hle]

theorem readRequest_append (hlt : cmd.transferBufferLength.toNat < 2 ^ 31) :
    readRequest (header.asBytes ++ (cmd.asBytes ++ pad.toList ++ rest)) =
      if cmd.direction = 0 ∧ 0 < cmd.transferBufferLength.toNat then
        (readExact cmd.transferBufferLength.toNat rest).map fun (outData, input) =>
          (⟨cmd, outData⟩, input)
      else some (⟨cmd, List.replicate cmd.transferBufferLength.toNat 0⟩, rest) := by
  rw [readRequest_record hcmd, if_neg (not_le.2 hlt)]

theorem map_snd_readRequest (hlt : cmd.transferBufferLength.toNat < 2 ^ 31) :
    (readRequest (header.asBytes ++ (cmd.asBytes ++ pad.toList ++ rest))).map Prod.snd =
      afterData (cmd.direction = 0 && 0 < cmd.transferBufferLength.toNat)
        cmd.transferBufferLength.toNat rest := by
  rw [readRequest_append hcmd cmd pad rest hlt, afterData]
  by_cases h : cmd.direction = 0 ∧ 0 < cmd.transferBufferLength.toNat
  · rw [if_pos h, if_pos (by simpa using h), readExact]
    split <;> rfl
  · rw [if_neg h, if_neg (by simpa using h)]
    rfl

/-- **Both implementations take the same bytes for a request exactly when** it has no length, or its
flags and its direction agree. -/
theorem same_rest_iff (hlt : cmd.transferBufferLength.toNat < 2 ^ 31) :
    (readMessage (header.asBytes ++ (cmd.asBytes ++ pad.toList ++ rest))).toOption.map Prod.snd =
        (readRequest (header.asBytes ++ (cmd.asBytes ++ pad.toList ++ rest))).map Prod.snd ↔
      cmd.transferBufferLength.toNat = 0 ∨ (cmd.isIn = true ↔ cmd.direction ≠ 0) := by
  rw [map_snd_readMessage hcmd, map_snd_readRequest hcmd cmd pad rest hlt]
  rcases Nat.eq_zero_or_pos cmd.transferBufferLength.toNat with h0 | hpos
  · simp [h0]
  · rw [afterData_eq_iff hpos]
    simp only [hpos, decide_true, Bool.and_true, hpos.ne', false_or]
    cases cmd.isIn <;> simp

/-- The data of a request is complete. -/
theorem readRequest_eq_some (hlt : cmd.transferBufferLength.toNat < 2 ^ 31) {req : Request}
    {left : Bytes}
    (h : readRequest (header.asBytes ++ (cmd.asBytes ++ pad.toList ++ rest)) = some (req, left)) :
    req.cmd = cmd ∧ req.outData.length = cmd.transferBufferLength.toNat ∧
      (cmd.direction = 0 → cmd.transferBufferLength.toNat ≤ rest.length) := by
  rw [readRequest_append hcmd cmd pad rest hlt] at h
  split at h
  · rw [readExact] at h
    split at h
    · rename_i hle
      obtain ⟨rfl, rfl⟩ := Prod.mk.inj (Option.some.inj h)
      exact ⟨rfl, List.length_take_of_le hle, fun _ => hle⟩
    · cases h
  · rename_i hout
    obtain ⟨rfl, rfl⟩ := Prod.mk.inj (Option.some.inj h)
    refine ⟨rfl, List.length_replicate, fun hdir => ?_⟩
    have h0 : ¬0 < cmd.transferBufferLength.toNat := fun hpos => hout ⟨hdir, hpos⟩
    omega

theorem isSome_readRequest (hlt : cmd.transferBufferLength.toNat < 2 ^ 31)
    (hrest : cmd.direction = 0 → cmd.transferBufferLength.toNat ≤ rest.length) :
    (readRequest (header.asBytes ++ (cmd.asBytes ++ pad.toList ++ rest))).isSome = true := by
  rw [readRequest_append hcmd cmd pad rest hlt]
  split
  · rename_i hout
    rw [readExact, if_pos (hrest hout.1)]
    rfl
  · rfl

end Request

/-! ## The reply -/

section Reply

variable {seqnum devid direction ep : UInt32} {setup : Vector UInt8 8}

/-- A reply is one message exactly when its data has the length that a reader expects. -/
theorem isFrame_retBytes_iff {status : Int32} {actualLen : ℕ} (hlt : actualLen < 2 ^ 32)
    (inData : Bytes) :
    IsFrame readMessage (retBytes seqnum devid direction ep status actualLen setup inData) ↔
      inData.length = if status = 0 ∧ isRetIn direction ep = true then actualLen else 0 := by
  have hlen : (UInt32.ofNat actualLen).toNat = actualLen := by
    rw [UInt32.toNat_ofNat', Nat.mod_eq_of_lt hlt]
  rw [retBytes, UsbIpHeader.new, isFrame_retSubmit_iff]
  simp only [retRecord, UsbIpRetSubmit.hasData_iff, UInt32.lt_iff_toNat_lt, hlen,
    toUInt32_eq_zero_iff]
  have h0 : (0 : UInt32).toNat = 0 := rfl
  rw [h0]
  cases isRetIn direction ep with
  | false => simp
  | true =>
    rcases Nat.eq_zero_or_pos actualLen with h | hpos
    · simp [h]
    · simp [hpos]

/-- The reply to an IN transfer is one message when it says IN, or when nothing was read. -/
theorem isFrame_completeIn_iff {n : ℕ} (hn : n < 2 ^ 32) (r : TransferResult n) :
    IsFrame readMessage (retBytes seqnum devid direction ep (completeIn r).1 (completeIn r).2.1
        setup (completeIn r).2.2) ↔ isRetIn direction ep = true ∨ r.len ≤ 0 := by
  have hle := r.len_le
  have hbuf := r.length_buffer
  unfold completeIn
  split
  · rw [isFrame_retBytes_iff (by dsimp only; omega)]
    dsimp only
    rw [List.length_take, hbuf]
    cases isRetIn direction ep with
    | false => simp; omega
    | true => simp; omega
  · rw [isFrame_retBytes_iff (by decide)]
    simp
    omega

/-- The reply to an OUT transfer is one message when it says OUT, or when nothing was written. -/
theorem isFrame_completeOut_iff {n : ℕ} (hn : n < 2 ^ 32) (r : TransferResult n) :
    IsFrame readMessage (retBytes seqnum devid direction ep (completeOut r).1 (completeOut r).2.1
        setup (completeOut r).2.2) ↔ isRetIn direction ep = false ∨ r.len ≤ 0 := by
  have hle := r.len_le
  unfold completeOut
  split
  · rw [isFrame_retBytes_iff (by dsimp only; omega)]
    dsimp only
    cases isRetIn direction ep with
    | false => simp
    | true => simp; omega
  · rw [isFrame_retBytes_iff (by decide)]
    simp
    omega

end Reply

/-- The reply to a request is one message whatever the transfer returns: a transfer that is executed
as IN is answered as IN, and one that is executed as OUT as OUT, unless its buffer is empty. -/
def ReplyFits (cmd : UsbIpCmdSubmit) : Prop :=
  if cmd.ep &&& 0x0F = 0 ∨ isControlTransfer cmd.setup then
    if isControlIn cmd.direction cmd.setup then
      isRetIn cmd.direction cmd.ep = true ∨ word (cmd.setup.get 6) (cmd.setup.get 7) = 0
    else isRetIn cmd.direction cmd.ep = false ∨ cmd.transferBufferLength.toNat = 0
  else cmd.isIn = true → cmd.ep.toNat < 256 → isRetIn cmd.direction cmd.ep = true

/-- The outcome of a request. -/
def outcome (conn : UsbDeviceConnection) (device : UsbDevice) (req : Request) : Int32 × ℕ × Bytes :=
  executeUrb conn device req.cmd.ep req.cmd.direction req.cmd.transferFlags
    req.cmd.transferBufferLength.toNat req.cmd.setup req.outData

/-- The reply that the outcome calls for. -/
def outcomeBytes (conn : UsbDeviceConnection) (device : UsbDevice) (req : Request) : Bytes :=
  retBytes req.cmd.seqnum req.cmd.devid req.cmd.direction req.cmd.ep (outcome conn device req).1
    (outcome conn device req).2.1 req.cmd.setup (outcome conn device req).2.2

/-- The reply is the one the outcome calls for, unless it is too large to be built. -/
theorem respond_eq (conn : UsbDeviceConnection) (device : UsbDevice) (req : Request) :
    respond conn device req =
      if 8 + 44 + (outcome conn device req).2.2.length < 2 ^ 31 then outcomeBytes conn device req
      else retBytes req.cmd.seqnum req.cmd.devid req.cmd.direction req.cmd.ep (-5) 0
        req.cmd.setup [] := by
  change (match buildRetSubmit req.cmd.seqnum req.cmd.devid req.cmd.direction req.cmd.ep
    (outcome conn device req).1 (outcome conn device req).2.1 req.cmd.setup
    (outcome conn device req).2.2 with
    | some reply => reply
    | none => retBytes req.cmd.seqnum req.cmd.devid req.cmd.direction req.cmd.ep (-5) 0
      req.cmd.setup []) = _
  unfold buildRetSubmit
  split
  · rename_i hb
    split at hb
    · rename_i hlt
      rw [if_pos hlt, ← Option.some.inj hb]
      rfl
    · cases hb
  · rename_i hb
    split at hb
    · cases hb
    · rename_i hlt
      rw [if_neg hlt]

theorem isFrame_respond {conn : UsbDeviceConnection} {device : UsbDevice} {req : Request}
    (h : IsFrame readMessage (outcomeBytes conn device req)) :
    IsFrame readMessage (respond conn device req) := by
  rw [respond_eq]
  split
  · exact h
  · exact (isFrame_retBytes_iff (by decide) []).2 (by simp)

theorem word_lt (low high : UInt8) : word low high < 2 ^ 32 := by
  have hlow := low.toNat_lt
  have hhigh := high.toNat_lt
  unfold word
  omega

/-- An endpoint is found only for an address of one byte. -/
theorem toNat_lt_of_findEndpoint {device : UsbDevice} {epAddr : UInt32} {isIn : Bool}
    {endpoint : UsbEndpoint} (h : findEndpoint device epAddr isIn = some endpoint)
    (hin : isIn = true) : epAddr.toNat < 256 := by
  have hlt := endpoint.address.toNat_lt
  have hfound := List.find?_some h
  rw [Bool.or_eq_true, beq_iff_eq, beq_iff_eq, if_pos hin] at hfound
  rcases hfound with hfound | hfound
  · rw [← hfound, UInt8.toNat_toUInt32]
    exact hlt
  · have hor := congrArg UInt32.toNat hfound
    rw [UInt8.toNat_toUInt32, UInt32.toNat_or] at hor
    exact lt_of_le_of_lt Nat.left_le_or (hor ▸ hlt)

/-- **A request that fits is answered with one message**, whatever the device does. -/
theorem isFrame_outcomeBytes {req : Request} (hfits : ReplyFits req.cmd)
    (hlen : req.outData.length = req.cmd.transferBufferLength.toNat)
    (conn : UsbDeviceConnection) (device : UsbDevice) :
    IsFrame readMessage (outcomeBytes conn device req) := by
  have hlt := req.cmd.transferBufferLength.toNat_lt
  unfold ReplyFits at hfits
  unfold outcomeBytes outcome executeUrb
  dsimp only
  split
  · rename_i hcontrol
    rw [if_pos hcontrol] at hfits
    split
    · rename_i hin
      rw [if_pos hin] at hfits
      rw [isFrame_completeIn_iff (by rw [List.length_replicate]; exact word_lt _ _)]
      exact hfits.imp id fun h0 =>
        TransferResult.len_nonpos _ (by rw [List.length_replicate]; exact h0)
    · rename_i hin
      rw [if_neg hin] at hfits
      rw [isFrame_completeOut_iff (by omega)]
      exact hfits.imp id fun h0 => TransferResult.len_nonpos _ (hlen.trans h0)
  · rename_i hcontrol
    rw [if_neg hcontrol] at hfits
    split
    · exact (isFrame_retBytes_iff (by decide) []).2 (by simp)
    · rename_i endpoint hfound
      have hsize := endpoint.maxPacketSize.toNat_lt
      split
      · rename_i hin
        rw [isFrame_completeIn_iff (by rw [List.length_replicate]; omega)]
        refine .inl ?_
        cases hret : isRetIn req.cmd.direction req.cmd.ep with
        | true => rfl
        | false =>
          -- the flags alone say IN
          have hflags : req.cmd.isIn = true := by
            unfold isRetIn at hret
            unfold isIn at hin
            rw [Bool.or_eq_false_iff] at hret
            simpa [hret.1, hret.2, UsbIpCmdSubmit.isIn, urbDirIn] using hin
          exact hret.symm.trans (hfits hflags (toNat_lt_of_findEndpoint hfound hin))
      · rename_i hin
        rw [isFrame_completeOut_iff (by omega)]
        refine .inl ?_
        unfold isIn at hin
        unfold isRetIn
        rw [Bool.not_eq_true, Bool.or_eq_false_iff, Bool.or_eq_false_iff] at hin
        rw [hin.1.1, hin.2]
        rfl

/-! ## A device that transfers one byte -/

/-- A transfer of one byte, if the buffer has room for it. -/
def transferOne (buffer : Bytes) : TransferResult buffer.length where
  len := min 1 buffer.length
  buffer := buffer
  neg_one_le_len := by omega
  len_le := by omega
  length_buffer := rfl

/-- A device whose transfers all end after one byte. -/
def oneByte : UsbDeviceConnection := ⟨fun _ _ _ _ => transferOne, fun _ => transferOne⟩

/-- A device with one endpoint, at the address of the request. -/
def deviceAt (ep : UInt32) : UsbDevice := ⟨[[⟨ep.toUInt8, 1⟩]]⟩

theorem len_transferOne {buffer : Bytes} (h : buffer.length ≠ 0) :
    (transferOne buffer).len = 1 := by
  show min 1 (buffer.length : ℤ) = 1
  omega

theorem length_completeIn_transferOne (buffer : Bytes) :
    (completeIn (transferOne buffer)).2.2.length ≤ 1 := by
  unfold completeIn transferOne
  split
  · rw [List.length_take]
    dsimp only
    omega
  · exact Nat.zero_le _

theorem findEndpoint_deviceAt {ep : UInt32} (h : ep.toNat < 256) (isIn : Bool) :
    findEndpoint (deviceAt ep) ep isIn = some ⟨ep.toUInt8, 1⟩ := by
  have hep : ep.toUInt8.toUInt32 = ep := by
    apply UInt32.toNat_inj.1
    rw [UInt8.toNat_toUInt32, UInt32.toNat_toUInt8, Nat.mod_eq_of_lt h]
  simp [findEndpoint, deviceAt, hep]

section OneByte

variable {req : Request} {buffer : Bytes}

/-- A transfer that is executed as IN and answered as OUT. -/
theorem not_isFrame_of_completeIn
    (hout : outcome oneByte (deviceAt req.cmd.ep) req = completeIn (transferOne buffer))
    (hlt : buffer.length < 2 ^ 32) (hne : buffer.length ≠ 0)
    (hret : isRetIn req.cmd.direction req.cmd.ep ≠ true) :
    ¬IsFrame readMessage (respond oneByte (deviceAt req.cmd.ep) req) := by
  have hdata := length_completeIn_transferOne buffer
  rw [respond_eq, hout, if_pos (by omega), outcomeBytes, hout, isFrame_completeIn_iff hlt,
    len_transferOne hne]
  exact fun h => h.elim hret (by omega)

/-- A transfer that is executed as OUT and answered as IN. -/
theorem not_isFrame_of_completeOut
    (hout : outcome oneByte (deviceAt req.cmd.ep) req = completeOut (transferOne buffer))
    (hlt : buffer.length < 2 ^ 32) (hne : buffer.length ≠ 0)
    (hret : isRetIn req.cmd.direction req.cmd.ep ≠ false) :
    ¬IsFrame readMessage (respond oneByte (deviceAt req.cmd.ep) req) := by
  have hdata : (completeOut (transferOne buffer)).2.2.length = 0 := by
    unfold completeOut
    split <;> rfl
  rw [respond_eq, hout, if_pos (by omega), outcomeBytes, hout, isFrame_completeOut_iff hlt,
    len_transferOne hne]
  exact fun h => h.elim hret (by omega)

/-- **A request that does not fit is answered with something else than one message** by a device
that transfers one byte. -/
theorem not_isFrame_respond (hfits : ¬ReplyFits req.cmd)
    (hlen : req.outData.length = req.cmd.transferBufferLength.toNat) :
    ¬IsFrame readMessage (respond oneByte (deviceAt req.cmd.ep) req) := by
  have hlt := req.cmd.transferBufferLength.toNat_lt
  unfold ReplyFits at hfits
  split at hfits
  · rename_i hcontrol
    split at hfits
    · rename_i hin
      obtain ⟨hret, hlength⟩ := not_or.1 hfits
      have hout : outcome oneByte (deviceAt req.cmd.ep) req =
          completeIn (transferOne
            (List.replicate (word (req.cmd.setup.get 6) (req.cmd.setup.get 7)) 0)) := by
        unfold outcome executeUrb
        dsimp only
        rw [if_pos hcontrol, if_pos hin]
        rfl
      refine not_isFrame_of_completeIn hout ?_ ?_ hret
      · rw [List.length_replicate]
        exact word_lt _ _
      · rwa [List.length_replicate]
    · rename_i hin
      obtain ⟨hret, hlength⟩ := not_or.1 hfits
      have hout : outcome oneByte (deviceAt req.cmd.ep) req =
          completeOut (transferOne req.outData) := by
        unfold outcome executeUrb
        dsimp only
        rw [if_pos hcontrol, if_neg hin]
        rfl
      exact not_isFrame_of_completeOut hout (by omega) (by omega) hret
  · rename_i hcontrol
    obtain ⟨hflags, hep, hret⟩ : req.cmd.isIn = true ∧ req.cmd.ep.toNat < 256 ∧
        isRetIn req.cmd.direction req.cmd.ep ≠ true := by
      simpa using hfits
    have hin : isIn req.cmd.direction req.cmd.transferFlags req.cmd.ep = true := by
      simp only [UsbIpCmdSubmit.isIn, urbDirIn] at hflags
      rw [isIn, hflags, Bool.or_true, Bool.true_or]
    have hout : outcome oneByte (deviceAt req.cmd.ep) req =
        completeIn (transferOne (List.replicate
          (max req.cmd.transferBufferLength.toNat 1) 0)) := by
      unfold outcome executeUrb
      dsimp only
      rw [if_neg hcontrol, findEndpoint_deviceAt hep]
      dsimp only
      rw [if_pos hin]
      rfl
    refine not_isFrame_of_completeIn hout ?_ ?_ hret
    · rw [List.length_replicate]
      omega
    · rw [List.length_replicate]
      omega

end OneByte

/-! ## A whole run -/

/-- The data of a request has the length of the request, and is taken off the stream for OUT. -/
theorem length_readRequest {input left : Bytes} {req : Request}
    (h : readRequest input = some (req, left)) :
    req.outData.length = req.cmd.transferBufferLength.toNat ∧
      input.length = 8 + 48 + (if req.cmd.direction = 0 then req.outData.length else 0) +
        left.length := by
  simp only [readRequest, Option.bind_eq_bind, Option.bind_eq_some_iff] at h
  obtain ⟨⟨headerBuf, s₁⟩, hheader, ⟨header, _⟩, -, h⟩ := h
  have hlen₁ := length_readExact hheader
  dsimp only at h
  split at h
  · cases h
  · obtain ⟨⟨cmdBuf, s₂⟩, hrecord, h⟩ := Option.bind_eq_some_iff.1 h
    obtain ⟨⟨cmd, _⟩, -, h⟩ := Option.bind_eq_some_iff.1 h
    have hlen₂ := length_readExact hrecord
    dsimp only at h
    split at h
    · cases h
    · split at h
      · rename_i hout
        obtain ⟨⟨outData, s₃⟩, hdata, h⟩ := Option.bind_eq_some_iff.1 h
        have hlen₃ := length_readExact hdata
        obtain ⟨rfl, rfl⟩ := Prod.mk.inj (Option.some.inj h)
        refine ⟨hlen₃.1, ?_⟩
        rw [if_pos hout.1]
        dsimp only
        omega
      · rename_i hout
        obtain ⟨rfl, rfl⟩ := Prod.mk.inj (Option.some.inj h)
        refine ⟨List.length_replicate, ?_⟩
        rw [List.length_replicate]
        split
        · rename_i hdir
          have h0 : ¬0 < cmd.transferBufferLength.toNat := fun hpos => hout ⟨hdir, hpos⟩
          omega
        · omega

/-- The requests of at most `fuel` rounds have replies that fit. -/
def AllFit : (fuel : ℕ) → Bytes → Prop
  | 0, _ => True
  | fuel + 1, input =>
    match readRequest input with
    | none => True
    | some (req, input) => ReplyFits req.cmd ∧ AllFit fuel input

/-- **A client reads the replies of a run one by one**, whatever the device does, when every request
of the run has a reply that fits. -/
theorem drain_urbLoop (conn : ℕ → UsbDeviceConnection) (device : UsbDevice) (fuel k : ℕ)
    (input : Bytes) (h : AllFit fuel input) :
    drain readMessage (urbLoop conn device fuel k input).flatten =
      urbLoop conn device fuel k input := by
  rw [drain_flatten_eq_iff selfDelimiting_readMessage]
  induction fuel generalizing k input with
  | zero =>
    intro f hf
    cases hf
  | succ fuel ih =>
    rw [urbLoop, urbLoopBody]
    rw [AllFit] at h
    cases hreq : readRequest input with
    | none =>
      intro f hf
      cases hf
    | some p =>
      obtain ⟨req, left⟩ := p
      rw [hreq] at h
      intro f hf
      rcases List.mem_cons.1 hf with rfl | hf
      · exact isFrame_respond (isFrame_outcomeBytes h.1 (length_readRequest hreq).1 (conn k) device)
      · exact ih (k + 1) left h.2 f hf

/-! ## The same request and reply -/

/-- **The two servers treat a request alike exactly when** it has no length or its flags agree with
its direction, and, if its data is complete, its reply fits. Alike means that they take the same
bytes for it, and that the reply is one message for the reader whatever the device does. Where the
replies to all requests fit, a client reads those of the whole run one by one. -/
theorem urbLoopBody_agrees_iff {header : UsbIpHeader} (hcmd : header.command = usbipCmdSubmit)
    (cmd : UsbIpCmdSubmit) (hlt : cmd.transferBufferLength.toNat < 2 ^ 31) (pad : Vector UInt8 4)
    (rest : Bytes) :
    let input := header.asBytes ++ (cmd.asBytes ++ pad.toList ++ rest)
    ((readMessage input).toOption.map Prod.snd = (readRequest input).map Prod.snd ∧
        (∀ conn device reply left, urbLoopBody conn device input = some (reply, left) →
          IsFrame readMessage reply) ↔
      (cmd.transferBufferLength.toNat = 0 ∨ (cmd.isIn = true ↔ cmd.direction ≠ 0)) ∧
        ((cmd.direction = 0 → cmd.transferBufferLength.toNat ≤ rest.length) → ReplyFits cmd)) ∧
      ∀ conn device fuel k, AllFit fuel input →
        drain readMessage (urbLoop conn device fuel k input).flatten =
          urbLoop conn device fuel k input := by
  intro input
  refine ⟨and_congr (same_rest_iff hcmd cmd pad rest hlt) ⟨fun h hrest => ?_, ?_⟩,
    fun conn device fuel k hfit => drain_urbLoop conn device fuel k input hfit⟩
  · obtain ⟨⟨req, left⟩, hreq⟩ :=
      Option.isSome_iff_exists.1 (isSome_readRequest hcmd cmd pad rest hlt hrest)
    obtain ⟨rfl, hlen, -⟩ := readRequest_eq_some hcmd cmd pad rest hlt hreq
    by_contra hfits
    refine not_isFrame_respond hfits hlen (h oneByte (deviceAt req.cmd.ep) _ left ?_)
    rw [urbLoopBody, hreq]
    rfl
  · intro h conn device reply left hbody
    obtain ⟨⟨req, left'⟩, hreq, heq⟩ := Option.map_eq_some_iff.1 hbody
    obtain ⟨rfl, rfl⟩ := Prod.mk.inj heq
    obtain ⟨rfl, hlen, hrest⟩ := readRequest_eq_some hcmd cmd pad rest hlt hreq
    exact isFrame_respond (isFrame_outcomeBytes (h hrest) hlen conn device)

/-- A poll of an interrupt endpoint. -/
def pollCmd : UsbIpCmdSubmit := ⟨1, 1, 1, 0x81, urbDirIn, 8, 0, 0, 0, Vector.replicate 8 0⟩

/-- A poll is treated alike. -/
theorem urbLoopBody_agrees_poll :
    let input := (UsbIpHeader.new usbipCmdSubmit).asBytes ++
      (pollCmd.asBytes ++ (Vector.replicate 4 0).toList ++ [])
    (readMessage input).toOption.map Prod.snd = (readRequest input).map Prod.snd ∧
      ∀ conn device reply left, urbLoopBody conn device input = some (reply, left) →
        IsFrame readMessage reply := by
  refine (urbLoopBody_agrees_iff rfl pollCmd (by decide) (Vector.replicate 4 0) []).1.2
    ⟨.inr (by decide), fun _ => ?_⟩
  rw [ReplyFits, if_neg (by decide)]
  exact fun _ _ => by decide

/-- A request whose direction says OUT and whose flags say IN: four bytes of data are read here, and
not by the other reader. -/
theorem urbLoopBody_disagrees :
    let input := (UsbIpHeader.new usbipCmdSubmit).asBytes ++
      ((⟨1, 1, 0, 1, urbDirIn, 4, 0, 0, 0, Vector.replicate 8 0⟩ : UsbIpCmdSubmit).asBytes ++
        (Vector.replicate 4 0).toList ++ [1, 2, 3, 4])
    (readMessage input).toOption.map Prod.snd ≠ (readRequest input).map Prod.snd := by
  intro input h
  have hiff := (same_rest_iff rfl
    ⟨1, 1, 0, 1, urbDirIn, 4, 0, 0, 0, Vector.replicate 8 0⟩ (Vector.replicate 4 0) [1, 2, 3, 4]
    (by decide)).1 h
  exact absurd hiff (by decide)

end Android

end AnyPlug
