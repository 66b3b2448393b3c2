import AnyPlug.Foundations.Decimal
import AnyPlug.Server.Exclusive

/-!
# Spellings of a bus id

`parse_busid` of `usbip-server/src/usb_backend.rs` reads the two numbers of a bus id, and
`list_devices` prints them as `{bus}-{dev}`. The server finds a device by its numbers, but enters
it into the exports and the claimed devices under the text it was asked for by.

`parse_busid` accepts more than one text for a device: a plus sign or zeros before a number, and
anything behind a second hyphen. `parseBusid_iff_format` says which texts are the ones that would
be printed. `exclusive_canonical`: as long as only these are asked for, no two sessions hold the
same device.
-/

namespace AnyPlug

/-- The bus id that `list_devices` prints for a device. -/
def formatBusid (bus dev : UInt8) : String := toString bus ++ "-" ++ toString dev

/-- A text that `str::parse::<u8>` accepts: a numeral below 256, with an optional plus sign. -/
def IsU8 (part : List Char) : Prop :=
  ∃ digits, (part = digits ∨ part = '+' :: digits) ∧ IsNumeral digits ∧ numeralValue digits < 256

/-- If the first two parts of a bus id are numbers of one byte, there is no third part, and both are
numerals without a sign and without a leading zero. -/
def CanonicalBusid (busid : String) : Prop :=
  ∀ bus dev rest, busid.toList.splitOn '-' = bus :: dev :: rest → IsU8 bus → IsU8 dev →
    rest = [] ∧ (IsNumeral bus ∧ NoLeadingZero bus) ∧ IsNumeral dev ∧ NoLeadingZero dev

/-! ## What is parsed -/

theorem parseDigits_eq_some {cs : List Char} {n m : ℕ} (hn : n < 256) :
    parseDigits n cs = some m ↔
      (∀ c ∈ cs, c.isDigit = true) ∧ Nat.ofDigitChars 10 cs n = m ∧ m < 256 := by
  induction cs generalizing n with
  | nil =>
    rw [parseDigits, Nat.ofDigitChars_nil]
    constructor
    · intro h
      obtain rfl := Option.some.inj h
      exact ⟨by simp, rfl, hn⟩
    · rintro ⟨-, rfl, -⟩
      rfl
  | cons c cs ih =>
    rw [parseDigits, Nat.ofDigitChars_cons, List.forall_mem_cons]
    split
    · rename_i hc
      obtain ⟨hdigit, hlt⟩ := (Bool.and_eq_true _ _).mp hc
      rw [ih (of_decide_eq_true hlt)]
      simp only [hdigit, true_and]
    · rename_i hc
      refine iff_of_false (by simp) ?_
      rintro ⟨⟨hdigit, -⟩, rfl, hlt⟩
      have hle := le_ofDigitChars (10 * n + (c.toNat - '0'.toNat)) cs
      exact hc (by rw [hdigit, Bool.true_and]; exact decide_eq_true (lt_of_le_of_lt hle hlt))

theorem parseDigits_map_eq_some {digits : List Char} {x : UInt8} (hne : digits ≠ []) :
    (parseDigits 0 digits).map UInt8.ofNat = some x ↔
      IsNumeral digits ∧ numeralValue digits = x.toNat := by
  rw [Option.map_eq_some_iff]
  constructor
  · rintro ⟨n, hn, rfl⟩
    obtain ⟨hdigits, hvalue, hlt⟩ := (parseDigits_eq_some (by decide)).1 hn
    refine ⟨⟨hne, hdigits⟩, ?_⟩
    rw [UInt8.toNat_ofNat', Nat.mod_eq_of_lt hlt]
    exact hvalue
  · rintro ⟨⟨-, hdigits⟩, hvalue⟩
    exact ⟨x.toNat, (parseDigits_eq_some (by decide)).2 ⟨hdigits, hvalue, x.toNat_lt⟩,
      UInt8.ofNat_toNat⟩

theorem not_isNumeral_plus (digits : List Char) : ¬IsNumeral ('+' :: digits) := by
  intro h
  have := h.2 '+' (by simp)
  exact absurd this (by decide)

/-- **What `str::parse::<u8>` accepts**: a numeral of the value, with an optional plus sign. -/
theorem parseU8_eq_some {part : List Char} {x : UInt8} :
    parseU8 part = some x ↔ ∃ digits, (part = digits ∨ part = '+' :: digits) ∧
      IsNumeral digits ∧ numeralValue digits = x.toNat := by
  unfold parseU8
  split
  · refine iff_of_false (by simp) ?_
    rintro ⟨digits, hpart, hnumeral, -⟩
    rcases hpart with rfl | hpart
    · exact hnumeral.1 rfl
    · cases hpart
  · refine iff_of_false (by simp) ?_
    rintro ⟨digits, hpart, hnumeral, -⟩
    rcases hpart with rfl | hpart
    · exact not_isNumeral_plus [] hnumeral
    · exact hnumeral.1 (List.cons.inj hpart).2.symm
  · rename_i digits hne
    have hdigits : digits ≠ [] := fun h => hne (by rw [h])
    rw [parseDigits_map_eq_some hdigits]
    constructor
    · exact fun h => ⟨digits, .inr rfl, h⟩
    · rintro ⟨digits', hpart, h⟩
      rcases hpart with rfl | hpart
      · exact absurd h.1 (not_isNumeral_plus digits)
      · obtain rfl := (List.cons.inj hpart).2
        exact h
  · rename_i hnil hplus hsign
    rw [parseDigits_map_eq_some hnil]
    constructor
    · exact fun h => ⟨part, .inl rfl, h⟩
    · rintro ⟨digits, hpart, h⟩
      rcases hpart with rfl | hpart
      · exact h
      · exact absurd hpart (hsign digits)

theorem isU8_of_parseU8 {part : List Char} {x : UInt8} (h : parseU8 part = some x) : IsU8 part := by
  obtain ⟨digits, hpart, hnumeral, hvalue⟩ := parseU8_eq_some.1 h
  exact ⟨digits, hpart, hnumeral, hvalue ▸ x.toNat_lt⟩

theorem exists_parseU8 {part : List Char} (h : IsU8 part) : ∃ x, parseU8 part = some x := by
  obtain ⟨digits, hpart, hnumeral, hlt⟩ := h
  refine ⟨UInt8.ofNat (numeralValue digits), parseU8_eq_some.2 ⟨digits, hpart, hnumeral, ?_⟩⟩
  rw [UInt8.toNat_ofNat', Nat.mod_eq_of_lt hlt]

/-- A number as it is printed is read back. -/
theorem parseU8_toDigits (x : UInt8) : parseU8 (Nat.toDigits 10 x.toNat) = some x :=
  parseU8_eq_some.2 ⟨_, .inl rfl, isNumeral_toDigits _, Nat.ofDigitChars_ten_toDigits⟩

/-- A numeral of a number, without a sign and without a leading zero, is as it is printed. -/
theorem eq_toDigits_of_parseU8 {part : List Char} {x : UInt8} (h : parseU8 part = some x)
    (hpart : IsNumeral part) (hlead : NoLeadingZero part) : part = Nat.toDigits 10 x.toNat := by
  obtain ⟨digits, rfl | rfl, hnumeral, hvalue⟩ := parseU8_eq_some.1 h
  · exact eq_toDigits_iff.2 ⟨hpart, hlead, hvalue⟩
  · exact absurd hpart (not_isNumeral_plus digits)

/-- **What `parse_busid` accepts**: two numbers, and anything behind them. -/
theorem parseBusid_eq_ok {busid : String} {bus dev : UInt8} :
    parseBusid busid = .ok (bus, dev) ↔ ∃ b d rest, busid.toList.splitOn '-' = b :: d :: rest ∧
      parseU8 b = some bus ∧ parseU8 d = some dev := by
  unfold parseBusid
  split
  · rename_i b d rest hsplit
    simp only [bind_eq_ok, okOr_eq_ok, hsplit]
    constructor
    · rintro ⟨bus', hb, dev', hd, h⟩
      obtain ⟨rfl, rfl⟩ := Prod.mk.inj (Except.ok.inj h)
      exact ⟨b, d, rest, rfl, hb, hd⟩
    · rintro ⟨b', d', rest', hparts, hb, hd⟩
      obtain ⟨rfl, htail⟩ := List.cons.inj hparts
      obtain ⟨rfl, -⟩ := List.cons.inj htail
      exact ⟨bus, hb, dev, hd, rfl⟩
  · rename_i hsplit
    refine iff_of_false (by simp) ?_
    rintro ⟨b, d, rest, hparts, -, -⟩
    exact hsplit b d rest hparts

/-! ## What is printed -/

theorem toList_formatBusid (bus dev : UInt8) : (formatBusid bus dev).toList =
    Nat.toDigits 10 bus.toNat ++ '-' :: Nat.toDigits 10 dev.toNat := by
  have hprint (x : UInt8) : (toString x).toList = Nat.toDigits 10 x.toNat := Nat.toList_repr
  rw [formatBusid, String.toList_append, String.toList_append, hprint, hprint, List.append_assoc]
  rfl

theorem hyphen_notMem_toDigits (n : ℕ) : '-' ∉ Nat.toDigits 10 n := by
  intro h
  have := Nat.isDigit_of_mem_toDigits (by decide) (by decide) h
  exact absurd this (by decide)

theorem splitOn_formatBusid (bus dev : UInt8) : (formatBusid bus dev).toList.splitOn '-' =
    [Nat.toDigits 10 bus.toNat, Nat.toDigits 10 dev.toNat] := by
  rw [toList_formatBusid, List.splitOn_append_cons_self_of_not_mem (hyphen_notMem_toDigits _),
    List.splitOn_eq_singleton (hyphen_notMem_toDigits _)]

/-- A bus id is one that is printed exactly when its two parts are. -/
theorem eq_formatBusid_iff {busid : String} {bus dev : UInt8} : busid = formatBusid bus dev ↔
    busid.toList.splitOn '-' = [Nat.toDigits 10 bus.toNat, Nat.toDigits 10 dev.toNat] := by
  constructor
  · rintro rfl
    exact splitOn_formatBusid bus dev
  · intro h
    rw [← splitOn_formatBusid] at h
    have hjoin := congrArg (List.intercalate ['-']) h
    rw [List.intercalate_splitOn, List.intercalate_splitOn] at hjoin
    exact String.toList_inj.1 hjoin

theorem parseBusid_formatBusid (bus dev : UInt8) :
    parseBusid (formatBusid bus dev) = .ok (bus, dev) :=
  parseBusid_eq_ok.2 ⟨_, _, [], splitOn_formatBusid bus dev, parseU8_toDigits bus,
    parseU8_toDigits dev⟩

/-- **A canonical bus id is the one that is printed for its device.** -/
theorem CanonicalBusid.eq_formatBusid {busid : String} (hcanon : CanonicalBusid busid)
    {bus dev : UInt8} (h : parseBusid busid = .ok (bus, dev)) : busid = formatBusid bus dev := by
  obtain ⟨b, d, rest, hsplit, hb, hd⟩ := parseBusid_eq_ok.1 h
  obtain ⟨rfl, ⟨hbus, hbus'⟩, hdev, hdev'⟩ :=
    hcanon b d rest hsplit (isU8_of_parseU8 hb) (isU8_of_parseU8 hd)
  rw [eq_formatBusid_iff, hsplit, eq_toDigits_of_parseU8 hb hbus hbus',
    eq_toDigits_of_parseU8 hd hdev hdev']

theorem canonicalBusid_formatBusid (bus dev : UInt8) : CanonicalBusid (formatBusid bus dev) := by
  intro b d rest hsplit _ _
  rw [splitOn_formatBusid] at hsplit
  obtain ⟨rfl, htail⟩ := List.cons.inj hsplit
  obtain ⟨rfl, hrest⟩ := List.cons.inj htail
  exact ⟨hrest.symm, ⟨isNumeral_toDigits _, noLeadingZero_toDigits _⟩, isNumeral_toDigits _,
    noLeadingZero_toDigits _⟩

/-- **A text is parsed as the numbers it would be printed for** exactly when it is canonical. -/
theorem parseBusid_iff_format (busid : String) :
    (∀ bus dev, parseBusid busid = .ok (bus, dev) ↔ busid = formatBusid bus dev) ↔
      CanonicalBusid busid := by
  constructor
  · intro h b d rest hsplit hb hd
    obtain ⟨bus, hbus⟩ := exists_parseU8 hb
    obtain ⟨dev, hdev⟩ := exists_parseU8 hd
    have hformat := (h bus dev).1 (parseBusid_eq_ok.2 ⟨b, d, rest, hsplit, hbus, hdev⟩)
    have hcanon := canonicalBusid_formatBusid bus dev
    rw [← hformat] at hcanon
    exact hcanon b d rest hsplit hb hd
  · intro hcanon bus dev
    constructor
    · exact hcanon.eq_formatBusid
    · rintro rfl
      exact parseBusid_formatBusid bus dev

/-- Two canonical bus ids of one device are equal. -/
theorem CanonicalBusid.eq {a b : String} (ha : CanonicalBusid a) (hb : CanonicalBusid b)
    {device : UInt8 × UInt8} (hpa : parseBusid a = .ok device) (hpb : parseBusid b = .ok device) :
    a = b := by
  obtain ⟨bus, dev⟩ := device
  rw [ha.eq_formatBusid hpa, hb.eq_formatBusid hpb]

/-! ## The bus ids of the sessions -/

theorem Session.dispatch_ne_lookup (header : Vector UInt8 8) (b : String) :
    dispatch header ≠ .lookup b := by
  unfold dispatch
  split
  · simp
  · split
    · simp
    · split <;> simp

theorem Session.phase_propagate_eq_lookup {α : Type} {ses : Session} {r : UsbIpResult α}
    {next : α → Phase} {b : String} (h : (ses.propagate r next).phase = .lookup b) :
    ∃ a, r = .ok a ∧ next a = .lookup b := by
  cases r with
  | ok a => exact ⟨a, rfl, h⟩
  | error e => cases h

/-- **A session looks up the bus id that it has just read.** -/
theorem Session.lookup_of_step {config : ServerConfig} {peer : SocketAddr} {sh sh' : Shared}
    {ses ses' : Session} {e : Event} {b : String}
    (h : ses.step config peer sh e = some (sh', ses')) (hb : ses'.phase = .lookup b) :
    ∃ buf, e = .readBusid (.ok buf) ∧ requestedBusid buf = b := by
  cases step_of_eq_some h with
  | @readBusid r hp =>
    obtain ⟨buf, rfl, hnext⟩ := phase_propagate_eq_lookup hb
    exact ⟨buf, rfl, by simpa using hnext⟩
  | readHeader hp =>
    obtain ⟨header, -, hnext⟩ := phase_propagate_eq_lookup hb
    exact absurd hnext (dispatch_ne_lookup header b)
  -- the other reads and writes go on to phases of their own
  | setNodelay hp | devlist hp | nodev hp | busy hp | describe hp | reply hp | exchange hp
  | write hp | release hp =>
    obtain ⟨_, -, hnext⟩ := phase_propagate_eq_lookup hb
    cases hnext
  | keepDelay hp | found hp | enter hp | claim hp | claimFails hp | install hp | flush hp
  | remove hp => cases hb
  -- in the URB loop the session holds its device
  | @readMessage busid bt r hp =>
    have hheld := held_afterRead busid bt r
    rw [show afterRead busid bt r = .lookup b from hb] at hheld
    cases hheld
  | @submit busid bt cmd data r now hp =>
    have hheld := held_afterPush busid (bt.pushReply cmd
      (UsbDeviceManager.submitUrb (sh.handles busid) (fun _ _ _ => r) busid cmd data) now)
    rw [show afterPush busid _ = .lookup b from hb] at hheld
    cases hheld

namespace Server

variable {config : ServerConfig} {peer : ℕ → SocketAddr} {s t : Server} {i : ℕ} {e : Event}

/-- If the step reads a bus id, it is a canonical one. -/
def AsksCanonical (a : ℕ × Event) : Prop :=
  ∀ buf, a.2 = .readBusid (.ok buf) → CanonicalBusid (requestedBusid buf)

/-- Every bus id that a session works on is canonical. -/
structure AllCanonical (s : Server) : Prop where
  lookup : ∀ i b, (s.sessions i).phase = .lookup b → CanonicalBusid b
  check : ∀ i b entry, (s.sessions i).phase = .check b entry → CanonicalBusid b
  held : ∀ i b, s.held i = some b → CanonicalBusid b

theorem allCanonical_init : AllCanonical init where
  lookup := by simp [init]
  check := by simp [init]
  held := by simp [init, held, Phase.held]

/-- A session that is about to look up a device in the exports has just found it. -/
theorem found_of_check {sh' : Shared} {ses' : Session} {b : String} {entry : UsbIpDeviceEntry}
    (heff : Effect config (peer i) s.shared (s.sessions i) e sh' ses')
    (hb : ses'.phase = .check b entry) : Found (s.sessions i).phase e b entry := by
  have hfree : ses'.phase.held = none := by
    rw [hb]
    rfl
  cases heff with
  | quiet _ _ _ hcheck => exact hcheck b entry hb
  | enter _ _ hphase' =>
    rw [hphase'] at hfree
    cases hfree
  | claim _ hheld' =>
    rw [hheld'] at hfree
    cases hfree
  | fail _ hphase' =>
    rw [hb] at hphase'
    cases hphase'
  | release _ hphase' =>
    rw [hb] at hphase'
    rcases hphase' with ⟨hphase', -⟩ | ⟨hphase', -⟩ <;> cases hphase'
  | remove _ hphase' =>
    rw [hb] at hphase'
    cases hphase'

/-- A step that asks for a canonical bus id, if it asks for one, leaves all bus ids canonical. -/
theorem allCanonical_step (s : Server) (a : ℕ × Event) (t : Server) (h : AllCanonical s)
    (ha : AsksCanonical a) (hstep : s.step config peer a = some t) : AllCanonical t := by
  obtain ⟨i, e⟩ := a
  obtain ⟨sh', ses', hses, rfl⟩ := step_eq_some.1 hstep
  have heff := Session.step_effect hses
  refine ⟨fun j b hj => ?_, fun j b entry hj => ?_, fun j b hj => ?_⟩
  · by_cases hji : j = i
    · subst hji
      rw [sessions_after_self] at hj
      obtain ⟨buf, rfl, rfl⟩ := Session.lookup_of_step hses hj
      exact ha buf rfl
    · rw [sessions_after_of_ne hji] at hj
      exact h.lookup j b hj
  · by_cases hji : j = i
    · subst hji
      rw [sessions_after_self] at hj
      exact h.lookup j b (found_of_check heff hj).1
    · rw [sessions_after_of_ne hji] at hj
      exact h.check j b entry hj
  · by_cases hji : j = i
    · subst hji
      rw [held, sessions_after_self] at hj
      rcases exports_cases heff with ⟨-, hkeep⟩ | ⟨busid, entry, hcheck, -, hclaim, -⟩ |
        ⟨-, -, hnone, -⟩
      · exact h.held j b (hkeep b hj)
      · rw [hclaim] at hj
        obtain rfl := Option.some.inj hj
        exact h.check j busid entry hcheck
      · rw [hnone] at hj
        cases hj
    · rw [held, sessions_after_of_ne hji] at hj
      exact h.held j b hj

/-- A device is held by one session, and a request for it is answered busy. -/
structure DeviceExclusive (config : ServerConfig) (peer : ℕ → SocketAddr) (s : Server) : Prop where
  unique : ∀ i j a b device, s.held i = some a → s.held j = some b →
    parseBusid a = .ok device → parseBusid b = .ok device → i = j
  busy : ∀ i j a b entry device r, s.held i = some a → (s.sessions j).phase = .check b entry →
    parseBusid a = .ok device → parseBusid b = .ok device →
      ∃ t, s.step config peer (j, .check r) = some t ∧ t.shared = s.shared ∧
        (t.sessions j).sent = (s.sessions j).sent ++ [busyReply] ∧
        (t.sessions j).phase.isReturned = true

theorem deviceExclusive (hs : Sound peer s) (hcanon : AllCanonical s) :
    DeviceExclusive config peer s where
  unique i j a b device hi hj ha hb := by
    obtain rfl := (hcanon.held i a hi).eq (hcanon.held j b hj) ha hb
    exact hs.leases.unique i j a hi hj
  busy i j a b entry device r hi hj ha hb := by
    obtain rfl := (hcanon.held i a hi).eq (hcanon.check j b entry hj) ha hb
    have hbusy := hs.isSome_exports hi
    apply exists_step_answer (r := r)
    simp only [Session.step, hj, hbusy, if_true]

/-- **Bus ids name devices only where they are canonical.** A text is parsed as the numbers it would
be printed for exactly when it is canonical; two canonical texts of one device are equal; and in a
run in which all sessions ask for canonical ones, no two of them ever hold the same device. -/
theorem exclusive_canonical (config : ServerConfig) (peer : ℕ → SocketAddr) :
    (∀ busid, (∀ bus dev, parseBusid busid = .ok (bus, dev) ↔ busid = formatBusid bus dev) ↔
        CanonicalBusid busid) ∧
      (∀ a b device, CanonicalBusid a → CanonicalBusid b → parseBusid a = .ok device →
        parseBusid b = .ok device → a = b) ∧
      ∀ as, Along (step config peer) (fun _ a => AsksCanonical a) init as →
        Throughout (step config peer) (DeviceExclusive config peer) init as := by
  refine ⟨parseBusid_iff_format, fun a b device ha hb => ha.eq hb, fun as hcanon => ?_⟩
  refine hcanon.throughout (P := fun s => Sound peer s ∧ AllCanonical s) ?_
    (fun s hs => deviceExclusive hs.1 hs.2) ⟨sound_init, allCanonical_init⟩
  intro s a t hs ha hstep
  exact ⟨sound_step s a t hs.1 hstep, allCanonical_step s a t hs.2 ha hstep⟩

theorem requestedBusid_wheel : requestedBusid (zeroPad 32 wheelBusid) = formatBusid 1 1 := by
  decide +kernel

/-- A client has the wheel and another asks for it under the same name. -/
theorem exclusive_canonical_wheel :
    ∃ s, run (step {} clientAddr) init
        (bySession 0 (importEvents wheelBusid [wheelEntry] []) ++
          bySession 1 (requestEvents wheelBusid [wheelEntry])) = some s ∧
      s.held 0 = some "1-1" ∧ DeviceExclusive {} clientAddr s := by
  have hobs : (run (step {} clientAddr) init
      (bySession 0 (importEvents wheelBusid [wheelEntry] []) ++
        bySession 1 (requestEvents wheelBusid [wheelEntry]))).map (fun s => s.held 0) =
      some (some "1-1") := by
    decide +kernel
  obtain ⟨s, hs, hheld⟩ := Option.map_eq_some_iff.1 hobs
  refine ⟨s, hs, hheld, ((exclusive_canonical {} clientAddr).2.2 _ (along_of_forall ?_)).last hs⟩
  have hwheel : CanonicalBusid (requestedBusid (zeroPad 32 wheelBusid)) := by
    rw [requestedBusid_wheel]
    exact canonicalBusid_formatBusid 1 1
  simp [bySession, importEvents, requestEvents, AsksCanonical, hwheel]

/-- One client has the wheel as `1-1`, and another imports it as `01-1`. -/
theorem two_spellings_held :
    ∃ s, Reachable (step {} clientAddr) init s ∧ s.held 0 = some "1-1" ∧
      s.held 1 = some "01-1" ∧ parseBusid "1-1" = .ok (1, 1) ∧ parseBusid "01-1" = .ok (1, 1) ∧
      "01-1" ≠ formatBusid 1 1 := by
  have hobs : (run (step {} clientAddr) init
      (bySession 0 (importEvents wheelBusid [wheelEntry] []) ++
        bySession 1 (importEvents [0x30, 0x31, 0x2D, 0x31] [wheelEntry] []))).map
        (fun s => (s.held 0, s.held 1)) = some (some "1-1", some "01-1") := by
    decide +kernel
  obtain ⟨s, hs, hheld⟩ := Option.map_eq_some_iff.1 hobs
  obtain ⟨h₀, h₁⟩ := Prod.mk.inj hheld
  exact ⟨s, ⟨_, hs⟩, h₀, h₁, by decide +kernel, by decide +kernel, by decide +kernel⟩

end Server

end AnyPlug
