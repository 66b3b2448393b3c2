import AnyPlug.Android.Server

/-!
# The endpoint of a transfer

The endpoint that `executeUrb` looks up: its number should be the number of the `ep` field and its
direction the one the transfer was found to have. `findEndpoint` also takes the endpoint whose
address is the field as it came. That is the OUT endpoint when the transfer is IN by its direction
or its flags and the field does not say so (`followsDirection_iff`).
-/

namespace AnyPlug

namespace Android

namespace UsbEndpoint

/-- `UsbEndpoint.getEndpointNumber`. -/
def number (e : UsbEndpoint) : UInt8 := e.address &&& 0x0F

/-- `UsbEndpoint.getDirection`. -/
def isIn (e : UsbEndpoint) : Bool := e.address &&& 0x80 != 0

end UsbEndpoint

/-- The endpoint has the number of the field and the direction of the transfer. -/
def Serves (ep : UInt8) (inward : Bool) (e : UsbEndpoint) : Prop :=
  e.number = ep &&& 0x0F ∧ e.isIn = inward

/-- The address in the direction of the transfer, as `findEndpoint` computes it. -/
def targetAddr (ep : UInt8) (inward : Bool) : UInt8 := if inward then ep ||| 0x80 else ep &&& 0x7F

/-- The endpoints of a device, in the order of its interfaces. -/
def UsbDevice.endpoints (device : UsbDevice) : List UsbEndpoint := device.interfaces.flatten

/-- What `findEndpoint` returns serves the transfer, and it returns none only where no interface has
such an endpoint. -/
structure FollowsDirection (device : UsbDevice) (ep : UInt8) (inward : Bool) : Prop where
  serves : ∀ e, findEndpoint device ep.toUInt32 inward = some e → Serves ep inward e
  none_iff : findEndpoint device ep.toUInt32 inward = none ↔
    ∀ e ∈ device.endpoints, ¬ Serves ep inward e

/-- The endpoint with the address in the direction of the transfer comes before any with the field
itself as its address. -/
def TargetFirst (device : UsbDevice) (ep : UInt8) : Prop :=
  ∀ before e after, device.endpoints = before ++ e :: after → e.address = ep →
    ∃ e' ∈ before, e'.address = ep ||| 0x80

/-- No endpoint serves the transfer by its number and direction alone: one that differs from the
wanted address in the reserved bits is never the only one. -/
def PlainAddress (device : UsbDevice) (ep : UInt8) (inward : Bool) : Prop :=
  (∃ e ∈ device.endpoints, Serves ep inward e) →
    ∃ e ∈ device.endpoints, e.address = targetAddr ep inward

/-! ## Addresses -/

theorem serves_of_address_eq_target {ep : UInt8} {inward : Bool} {e : UsbEndpoint}
    (h : e.address = targetAddr ep inward) : Serves ep inward e := by
  have hin : ∀ x : UInt8, (x ||| 0x80) &&& 0x0F = x &&& 0x0F ∧
      ((x ||| 0x80) &&& 0x80 != 0) = true := by decide +kernel
  have hout : ∀ x : UInt8, (x &&& 0x7F) &&& 0x0F = x &&& 0x0F ∧
      ((x &&& 0x7F) &&& 0x80 != 0) = false := by decide +kernel
  unfold Serves UsbEndpoint.number UsbEndpoint.isIn
  rw [h]
  cases inward with
  | true => exact hin ep
  | false => exact hout ep

/-- The field is the address in the direction of the transfer, unless it leaves out the mark of an
IN transfer. -/
theorem targetAddr_eq_self {ep : UInt8} {inward : Bool}
    (h : inward = (ep &&& 0x80 != 0)) : targetAddr ep inward = ep := by
  have hself : ∀ x : UInt8, targetAddr x (x &&& 0x80 != 0) = x := by decide +kernel
  rw [h, hself]

/-- The field leaves out the mark of an IN transfer. -/
def Unmarked (ep : UInt8) (inward : Bool) : Prop := inward = true ∧ ep &&& 0x80 = 0

theorem not_serves_of_unmarked {ep : UInt8} {inward : Bool} (h : Unmarked ep inward)
    {e : UsbEndpoint} (haddr : e.address = ep) : ¬ Serves ep inward e := by
  intro hserves
  have hin := hserves.2
  rw [UsbEndpoint.isIn, haddr, h.1, h.2] at hin
  exact absurd hin (by decide)

/-- A transfer is IN where the field has the mark. -/
theorem isIn_of_mark {direction flags : UInt32} {ep : UInt8} (h : ep &&& 0x80 ≠ 0) :
    isIn direction flags ep.toUInt32 = true := by
  have hmark : ∀ x : UInt8, x &&& 0x80 ≠ 0 → (x.toUInt32 &&& 0x80 != 0) = true := by
    decide +kernel
  rw [isIn, hmark ep h, Bool.or_true]

/-- A transfer whose field leaves nothing out has the direction of the field. -/
theorem eq_mark_of_not_unmarked {direction flags : UInt32} {ep : UInt8}
    (h : ¬ Unmarked ep (isIn direction flags ep.toUInt32)) :
    isIn direction flags ep.toUInt32 = (ep &&& 0x80 != 0) := by
  by_cases hmark : ep &&& 0x80 = 0
  · rw [hmark]
    exact Bool.eq_false_iff.2 fun hin => h ⟨hin, hmark⟩
  · rw [isIn_of_mark hmark, eq_comm, bne_iff_ne]
    exact hmark

/-! ## The search -/

theorem findEndpoint_toUInt32 (device : UsbDevice) (ep : UInt8) (inward : Bool) :
    findEndpoint device ep.toUInt32 inward =
      device.endpoints.find? fun e => e.address == ep || e.address == targetAddr ep inward := by
  have htarget : (if inward then ep.toUInt32 ||| 0x80 else ep.toUInt32 &&& 0x7F) =
      (targetAddr ep inward).toUInt32 := by
    cases inward with
    | true => exact (UInt8.toUInt32_or ep 0x80).symm
    | false => exact (UInt8.toUInt32_and ep 0x7F).symm
  have hbeq (a b : UInt8) : (a.toUInt32 == b.toUInt32) = (a == b) := by
    rw [Bool.eq_iff_iff, beq_iff_eq, beq_iff_eq, UInt8.toUInt32_inj]
  unfold findEndpoint UsbDevice.endpoints
  simp only [htarget, hbeq]

section Lookup

variable {device : UsbDevice} {ep : UInt8} {direction flags : UInt32} {inward : Bool}

/-- What is found has one of the two addresses, and nothing before it has. -/
theorem of_findEndpoint_eq_some {e : UsbEndpoint}
    (h : findEndpoint device ep.toUInt32 inward = some e) :
    (e.address = ep ∨ e.address = targetAddr ep inward) ∧
      ∃ before after, device.endpoints = before ++ e :: after ∧
        ∀ e' ∈ before, e'.address ≠ ep ∧ e'.address ≠ targetAddr ep inward := by
  rw [findEndpoint_toUInt32, List.find?_eq_some_iff_append] at h
  obtain ⟨haddr, before, after, heq, hbefore⟩ := h
  rw [Bool.or_eq_true, beq_iff_eq, beq_iff_eq] at haddr
  refine ⟨haddr, before, after, heq, fun e' he' => ?_⟩
  simpa [not_or] using hbefore e' he'

theorem findEndpoint_eq_none_iff :
    findEndpoint device ep.toUInt32 inward = none ↔
      ∀ e ∈ device.endpoints, e.address ≠ ep ∧ e.address ≠ targetAddr ep inward := by
  rw [findEndpoint_toUInt32, List.find?_eq_none]
  simp [not_or]

/-- **What is found serves the transfer** where no endpoint of the other direction comes first. -/
theorem serves_of_findEndpoint
    (hfirst : Unmarked ep (isIn direction flags ep.toUInt32) → TargetFirst device ep)
    {e : UsbEndpoint}
    (h : findEndpoint device ep.toUInt32 (isIn direction flags ep.toUInt32) = some e) :
    Serves ep (isIn direction flags ep.toUInt32) e := by
  obtain ⟨haddr | haddr, before, after, heq, hbefore⟩ := of_findEndpoint_eq_some h
  · by_cases hmark : Unmarked ep (isIn direction flags ep.toUInt32)
    · -- the wanted endpoint comes before, and would have been found
      obtain ⟨e', he', htarget⟩ := hfirst hmark before e after heq haddr
      refine absurd ?_ (hbefore e' he').2
      rw [htarget, targetAddr, if_pos hmark.1]
    · refine serves_of_address_eq_target ?_
      rw [haddr, targetAddr_eq_self (eq_mark_of_not_unmarked hmark)]
  · exact serves_of_address_eq_target haddr

/-- Where an endpoint has the field as its address and none before it has the wanted address, the
one that is found has the field as its address. -/
theorem exists_findEndpoint_self {before after : List UsbEndpoint} {e : UsbEndpoint}
    (heq : device.endpoints = before ++ e :: after) (haddr : e.address = ep)
    (hbefore : ∀ e' ∈ before, e'.address ≠ targetAddr ep inward) :
    ∃ found, findEndpoint device ep.toUInt32 inward = some found ∧ found.address = ep := by
  rw [findEndpoint_toUInt32, heq, List.find?_append]
  cases hfound : before.find? fun e => e.address == ep || e.address == targetAddr ep inward with
  | none => exact ⟨e, by simp [haddr], haddr⟩
  | some found =>
    have hcase := List.find?_some hfound
    rw [Bool.or_eq_true, beq_iff_eq, beq_iff_eq] at hcase
    exact ⟨found, rfl, hcase.resolve_right (hbefore found (List.mem_of_find?_eq_some hfound))⟩

theorem targetFirst_of_serves (hmark : Unmarked ep inward)
    (h : ∀ e, findEndpoint device ep.toUInt32 inward = some e → Serves ep inward e) :
    TargetFirst device ep := by
  intro before e after heq haddr
  by_contra hnone
  push Not at hnone
  have hbefore : ∀ e' ∈ before, e'.address ≠ targetAddr ep inward := by
    rw [targetAddr, if_pos hmark.1]
    exact hnone
  obtain ⟨found, hfound, hself⟩ := exists_findEndpoint_self heq haddr hbefore
  exact not_serves_of_unmarked hmark hself (h found hfound)

/-- **The endpoint of a transfer follows its direction exactly when** the endpoint of the wanted
address comes before the one of the field as it came, and reserved bits hide no endpoint. -/
theorem followsDirection_iff (device : UsbDevice) (ep : UInt8) (direction flags : UInt32) :
    FollowsDirection device ep (isIn direction flags ep.toUInt32) ↔
      (Unmarked ep (isIn direction flags ep.toUInt32) → TargetFirst device ep) ∧
        PlainAddress device ep (isIn direction flags ep.toUInt32) := by
  constructor
  · intro h
    refine ⟨fun hmark => targetFirst_of_serves hmark h.serves, ?_⟩
    rintro ⟨e, he, hserves⟩
    obtain ⟨found, hfound⟩ := Option.ne_none_iff_exists'.1 fun hnone =>
      h.none_iff.1 hnone e he hserves
    obtain ⟨haddr, before, after, heq, -⟩ := of_findEndpoint_eq_some hfound
    refine ⟨found, by rw [heq]; simp, haddr.elim (fun haddr => ?_) id⟩
    have hmark : ¬ Unmarked ep (isIn direction flags ep.toUInt32) := fun hmark =>
      not_serves_of_unmarked hmark haddr (h.serves found hfound)
    rw [haddr, targetAddr_eq_self (eq_mark_of_not_unmarked hmark)]
  · rintro ⟨hfirst, hplain⟩
    have hserves : ∀ e, findEndpoint device ep.toUInt32 (isIn direction flags ep.toUInt32) =
        some e → Serves ep (isIn direction flags ep.toUInt32) e :=
      fun _ => serves_of_findEndpoint hfirst
    refine ⟨hserves, fun hnone e he hwanted => ?_, fun hnone => ?_⟩
    · obtain ⟨e', he', haddr⟩ := hplain ⟨e, he, hwanted⟩
      exact (findEndpoint_eq_none_iff.1 hnone e' he').2 haddr
    · by_contra hsome
      obtain ⟨found, hfound⟩ := Option.ne_none_iff_exists'.1 hsome
      obtain ⟨-, before, after, heq, -⟩ := of_findEndpoint_eq_some hfound
      exact hnone found (by rw [heq]; simp) (hserves found hfound)

/-- **No data goes to the pipe of the other direction**: where the wanted endpoint comes first, two
devices that differ only in the transfers of other endpoints give the same outcome. -/
theorem executeUrb_congr {conn conn' : UsbDeviceConnection}
    (hfirst : Unmarked ep (isIn direction flags ep.toUInt32) → TargetFirst device ep)
    (hcontrol : conn.controlTransfer = conn'.controlTransfer)
    (hbulk : ∀ e, Serves ep (isIn direction flags ep.toUInt32) e →
      conn.bulkTransfer e = conn'.bulkTransfer e) (dataLen : ℕ) (setup : Vector UInt8 8)
    (outData : Bytes) :
    executeUrb conn device ep.toUInt32 direction flags dataLen setup outData =
      executeUrb conn' device ep.toUInt32 direction flags dataLen setup outData := by
  unfold executeUrb
  simp only [hcontrol]
  cases hfound : findEndpoint device ep.toUInt32 (isIn direction flags ep.toUInt32) with
  | none => rfl
  | some e => simp only [hbulk e (serves_of_findEndpoint hfirst hfound)]

end Lookup

/-- A device with an OUT endpoint before the IN endpoint of the same number. -/
def outBeforeIn : UsbDevice := ⟨[[⟨0x01, 64⟩, ⟨0x81, 64⟩]]⟩

/-- An IN transfer of endpoint 1 is given the OUT endpoint: the field has the number only, and the
direction is in the field next to it. -/
theorem not_followsDirection_outBeforeIn :
    ¬ FollowsDirection outBeforeIn 0x01 (isIn 1 0 0x01) := by
  intro h
  have hfound : findEndpoint outBeforeIn (0x01 : UInt8).toUInt32 (isIn 1 0 0x01) =
      some ⟨0x01, 64⟩ := rfl
  have hserves := (h.serves _ hfound).2
  revert hserves
  decide

end Android
end AnyPlug
