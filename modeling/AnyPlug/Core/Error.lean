import AnyPlug.Foundations.FixedCodec

/-!
# The errors of the USB/IP stack

`ErrorKind` is the error type of `usbip-core/src/error.rs`. A `UsbIpError` of the source is an
error kind with a category, a correlation id and a context; the last two only serve the log, and
the category is a function of the kind, so the kind is what the model carries.
-/

namespace AnyPlug

/-- The kinds of `std::io::Error` that the stack distinguishes. -/
inductive IoErrorKind
  | wouldBlock
  | timedOut
  | interrupted
  | notConnected
  | connectionReset
  | connectionRefused
  | connectionAborted
  | brokenPipe
  | unexpectedEof
  | other
  deriving DecidableEq, Repr

/-- Platform-neutral USB error code. -/
inductive UsbErrorCode
  | io
  | invalidParam
  | access
  | noDevice
  | notFound
  | busy
  | timeout
  | overflow
  | pipe
  | interrupted
  | noMem
  | notSupported
  | badDescriptor
  | other
  deriving DecidableEq, Repr

/-- The specific kind of a USB/IP error. -/
inductive ErrorKind
  | io (kind : IoErrorKind)
  | usb (code : UsbErrorCode)
  | protocol (message : String)
  | invalidMessage (message : String)
  | connectionClosed
  | deviceNotFound (busid : String)
  | deviceBusy (message : String)
  | urbFailed (status : UInt32)
  | timeout
  | notSupported (message : String)
  | encryption (message : String)
  | serialization (message : String)
  deriving DecidableEq, Repr

/-- The category of an error. -/
inductive ErrorCategory
  /-- A network blip or a timeout: retry is appropriate. -/
  | transient
  /-- The device is gone or the protocol is violated: retry is futile. -/
  | permanent
  /-- Corrupt state: the caller should abort. -/
  | fatal
  deriving DecidableEq, Repr

/-- The canonical category of an error kind. -/
def ErrorKind.category : ErrorKind → ErrorCategory
  | .timeout | .connectionClosed => .transient
  | .io .other => .permanent
  | .io _ => .transient
  | .usb .timeout | .usb .busy => .transient
  | .usb _ => .permanent
  | .deviceNotFound _ | .deviceBusy _ | .notSupported _ | .protocol _ | .invalidMessage _ =>
    .permanent
  | .urbFailed _ | .encryption _ | .serialization _ => .fatal

/-- The result of a USB/IP operation. -/
abbrev UsbIpResult := Except ErrorKind

/-- The URB status code of a USB error: a negative `errno`. -/
def usbErrorToUrbStatus : UsbErrorCode → Int32
  | .io => -5
  | .invalidParam => -22
  | .access => -1
  | .noDevice => -19
  | .notFound => -2
  | .busy => -16
  | .timeout => -62
  | .overflow => -75
  | .pipe => -32
  | .interrupted => -4
  | .noMem => -12
  | .notSupported => -95
  | .badDescriptor => -5
  | .other => -5

theorem usbErrorToUrbStatus_neg (code : UsbErrorCode) : usbErrorToUrbStatus code < 0 := by
  cases code <;> decide

/-- The value of an option, or an error. -/
def okOr {α : Type} (x : Option α) (e : ErrorKind) : UsbIpResult α :=
  match x with
  | some a => .ok a
  | none => .error e

@[simp] theorem okOr_some {α : Type} (a : α) (e : ErrorKind) : okOr (some a) e = .ok a := rfl

theorem okOr_eq_ok {α : Type} {x : Option α} {e : ErrorKind} {a : α} :
    okOr x e = .ok a ↔ x = some a := by
  cases x <;> simp [okOr]

@[simp] theorem ok_bind {ε α β : Type} (a : α) (f : α → Except ε β) :
    ((.ok a : Except ε α) >>= f) = f a := rfl

/-- A computation that ends well went through a value. -/
theorem bind_eq_ok {α β : Type} {x : UsbIpResult α} {f : α → UsbIpResult β} {b : β} :
    (x >>= f) = .ok b ↔ ∃ a, x = .ok a ∧ f a = .ok b := by
  cases x with
  | error e => simp [bind, Except.bind]
  | ok a => simp [bind, Except.bind]

end AnyPlug
