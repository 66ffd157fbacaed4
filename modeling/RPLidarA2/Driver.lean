import RPLidarA2.Sectors
import RPLidarA2.Obstacle

/-!
# RPLIDAR A2 driver - The driver state and its byte-level decoder

This module is the faithful layer: the members of {lit}`AP_Proximity_RPLidarA2`
that some function reads, and the functions {lit}`reset_rplidar`,
{lit}`set_scan_mode`, {lit}`parse_response_descriptor`,
{lit}`parse_response_data`, {lit}`get_readings`, {lit}`initialise` and
{lit}`update`.  The {lit}`switch` of {lit}`get_readings` is cut into one handler
per decoder state; the {lit}`goto STATE` of {lit}`rp_unknown` becomes a call of
the {lit}`rp_responding` handler on the same byte.

The members {lit}`get_readings` touches form the {lit}`Decoder`; the members only
{lit}`update` and {lit}`initialise` use, with the reported status and the UART
queue, form the {lit}`Driver` around it.  Every function returns the calls it makes ({lit}`Call`), so that a run can be
observed: commands written to the UART, the bytes handed to the two parsers,
boundary updates, and out-of-bounds buffer writes.

The driver is only constructed once {lit}`detect()` has found the serial port, so
{lit}`_uart` is never null and its checks are left out.  Bytes wait in the UART
({lit}`rx`) until {lit}`get_readings` drains them.

Main results:

- One lemma per branch of each handler ({lit}`onResetted_store` and its
  siblings), with the counter wrap-arounds discharged.
- Theorem {lit}`feed_append`: a byte stream may be split anywhere.
- Theorems {lit}`update_of_initialised`, {lit}`update_first` and
  {lit}`update_reset`: the three shapes of an {lit}`update` call.
-/

namespace RPLidarA2

/-! ## State -/

/-- The status {lit}`update()` reports through {lit}`set_status`. -/
inductive Status
  | notConnected
  | noData
  | good
deriving DecidableEq, Repr

/-- What the driver takes from its backend and from the floating-point library:
{lit}`convert_angle_to_sector` over the backend's sector table, and
{lit}`sinf`, {lit}`cosf` and {lit}`abs`. -/
structure Params where
  convertAngleToSector : ℚ → Option Nat
  trig : Trig

/-- A backend with an empty sector table, so that no sample reaches the sector
block, and the library of {lit}`Trig.linear`: the parameters of most concrete
runs. -/
def Params.plain : Params := ⟨fun _ => none, Trig.linear⟩

/-- The members a valid scan sample updates besides the time of the last
distance: the open sector of the sector block, the backend's sector arrays, and
the two obstacle estimators. -/
structure SampleState where
  last : Reading
  arrays : SectorArrays
  front : Window
  back : Window

/-- The sample members as the constructor leaves them: all zero. -/
def SampleState.initial : SampleState :=
  ⟨Reading.initial, ⟨fun _ => 0, fun _ => 0, fun _ => false⟩, Window.initial, Window.initial⟩

/-- Perform an optional sector write. -/
def SectorArrays.applyOpt (arrays : SectorArrays) : Option SectorWrite → SectorArrays
  | some w => arrays.apply w
  | none => arrays

/-- The boundary update a sector write makes. -/
def SectorWrite.calls : Option SectorWrite → List Call
  | some (.commit r) => [.updateBoundary r.sector]
  | _ => []

/-- One valid sample through both obstacle estimators and the sector block of
{lit}`parse_response_data`. -/
def SampleState.sample (P : Params) (r : SampleState) (p : SensorScan) : SampleState × List Call :=
  let step := aggregate P.convertAngleToSector r.last p.angleDeg p.distanceM
  (⟨step.1, r.arrays.applyOpt step.2, frontObstacle P.trig r.front p.angleDeg p.distanceM,
    backObstacle P.trig r.back p.angleDeg p.distanceM⟩, SectorWrite.calls step.2)

/-- The members that {lit}`get_readings` and the two parsers read or write: the
decoder's own members, the two clock readings, and the sample members. -/
structure Decoder where
  rpState : RpState
  responseType : ResponseType
  descriptor : Nat → UInt8
  payload : Nat → UInt8
  descriptorData : Bool
  informationData : Bool
  payloadLength : Nat
  cnt : Nat
  syncError : Nat
  byteCount : Nat
  lastDistanceReceivedMs : Nat
  lastResetMs : Nat
  samples : SampleState

/-- The decoder members after the constructor: {lit}`_cnt`, {lit}`_sync_error` and
{lit}`_byte_count` are set to zero, and the members it does not set are zero as
well. -/
def Decoder.construct : Decoder where
  rpState := .rpUnknown
  responseType := .descriptor
  descriptor := fun _ => 0
  payload := fun _ => 0
  descriptorData := false
  informationData := false
  payloadLength := 0
  cnt := 0
  syncError := 0
  byteCount := 0
  lastDistanceReceivedMs := 0
  lastResetMs := 0
  samples := SampleState.initial

/-- The seven descriptor bytes. -/
def Decoder.descriptorBytes (s : Decoder) : List UInt8 := (List.range 7).map s.descriptor

/-- The payload bytes up to {lit}`_payload_length`. -/
def Decoder.payloadBytes (s : Decoder) : List UInt8 := (List.range s.payloadLength).map s.payload

/-- A write at {lit}`index` of a buffer is an overrun past its declared size. -/
def Buffer.check (b : Buffer) (index : Nat) : List Call :=
  if index < b.size then [] else [.overrun b index]

/-! ## Commands and parsers -/

/-- {lit}`reset_rplidar`. -/
def resetRplidar (now : Nat) (s : Decoder) : Decoder × List Call :=
  ({ s with lastResetMs := now, rpState := .rpResetted }, [.write rplidarCmdReset])

/-- {lit}`set_scan_mode`. -/
def setScanMode (s : Decoder) : Decoder × List Call :=
  ({ s with rpState := .rpResponding }, [.write rplidarCmdScan])

/-- {lit}`parse_response_descriptor`. -/
def parseResponseDescriptor (now : Nat) (s : Decoder) : Decoder :=
  if s.descriptor 0 = rplidarPreamble ∧ s.descriptor 1 = 0x5A then
    let s := if s.descriptor 2 = 0x05 ∧ s.descriptor 3 = 0x00 ∧ s.descriptor 4 = 0x00 ∧
        s.descriptor 5 = 0x40 ∧ s.descriptor 6 = 0x81 then
      { s with payloadLength := 5, responseType := .scan, lastDistanceReceivedMs := now,
               rpState := .rpMeasurements }
      else s
    if s.descriptor 2 = 0x03 ∧ s.descriptor 3 = 0x00 ∧ s.descriptor 4 = 0x00 ∧
        s.descriptor 5 = 0x00 ∧ s.descriptor 6 = 0x06 then
      { s with payloadLength := 3, responseType := .health, lastDistanceReceivedMs := now,
               rpState := .rpHealth }
    else s
  else { s with rpState := .rpUnknown }

/-- {lit}`parse_response_data`: a scan payload that passes the start/check-bit test
is a sample, one that fails raises the sync error; health payloads are only
logged. -/
def parseResponseData (P : Params) (now : Nat) (s : Decoder) : Decoder × List Call :=
  match s.responseType with
  | .scan =>
    if (SensorScan.ofBytes s.payload).valid then
      let r := s.samples.sample P (SensorScan.ofBytes s.payload)
      ({ s with lastDistanceReceivedMs := now, samples := r.1 }, r.2)
    else ({ s with syncError := (s.syncError + 1) % 256 }, [])
  | _ => (s, [])

/-! ## The byte switch of get_readings -/

/-- {lit}`case rp_resetted`: absorb up to 62 bytes of device information that start
with {lit}`0x52`, then request scan mode; without information, give up after more
than five stray bytes. -/
def onResetted (s : Decoder) (c : UInt8) : Decoder × List Call :=
  if (c = 0x52 ∨ s.informationData = true) ∧ s.byteCount < 62 then
    ({ s with informationData := if c = 0x52 then true else s.informationData
              byteCount := (s.byteCount + 1) % 65536 }, Buffer.rpSysteminfo.check s.byteCount)
  else if s.informationData then
    setScanMode { s with informationData := false, byteCount := 0 }
  else if s.cnt > 5 then ({ s with rpState := .rpUnknown, cnt := 0 }, [])
  else ({ s with cnt := (s.cnt + 1) % 256 }, [])

/-- {lit}`case rp_responding`: from the preamble on, collect seven descriptor bytes
and hand them to {lit}`parse_response_descriptor`; any other byte before a
descriptor started sends the decoder to {lit}`rp_unknown`. -/
def onResponding (now : Nat) (s : Decoder) (c : UInt8) : Decoder × List Call :=
  if c = rplidarPreamble ∨ s.descriptorData = true then
    let calls := Buffer.descriptor.check s.byteCount
    let s := { s with descriptorData := true
                      descriptor := Function.update s.descriptor s.byteCount c
                      byteCount := (s.byteCount + 1) % 65536 }
    if s.byteCount = 7 then
      ({ parseResponseDescriptor now { s with responseType := .descriptor } with byteCount := 0 },
        calls ++ [.parseDescriptor s.descriptorBytes])
    else (s, calls)
  else ({ s with rpState := .rpUnknown }, [])

/-- The payload half of {lit}`case rp_measurements`: store the byte and hand a
complete payload to {lit}`parse_response_data`. -/
def storePayload (P : Params) (now : Nat) (s : Decoder) (c : UInt8) : Decoder × List Call :=
  let calls := Buffer.payload.check s.byteCount
  let s := { s with payload := Function.update s.payload s.byteCount c
                    byteCount := (s.byteCount + 1) % 65536 }
  if s.byteCount = s.payloadLength then
    let parsed := parseResponseData P now s
    ({ parsed.1 with byteCount := 0 }, calls ++ .parseData s.payloadBytes :: parsed.2)
  else (s, calls)

/-- {lit}`case rp_measurements`: after a sync error, wait for a byte whose low two
bits are {lit}`01`, resetting the lidar on a later byte once {lit}`RESYNC_TIMEOUT`
has passed since the last distance. -/
def onMeasurements (P : Params) (now : Nat) (s : Decoder) (c : UInt8) : Decoder × List Call :=
  if s.syncError ≠ 0 then
    if isResyncByte c then storePayload P now { s with syncError := 0 } c
    else if millisSince now s.lastDistanceReceivedMs > resyncTimeout then resetRplidar now s
    else (s, [])
  else storePayload P now s c

/-- {lit}`case rp_unknown`: a preamble is re-dispatched as the first descriptor
byte; more than ten other bytes reset the lidar. -/
def onUnknown (now : Nat) (s : Decoder) (c : UInt8) : Decoder × List Call :=
  if c = rplidarPreamble then onResponding now { s with rpState := .rpResponding } c
  else if (s.cnt + 1) % 256 > 10 then
    let reset := resetRplidar now { s with cnt := (s.cnt + 1) % 256 }
    ({ reset.1 with rpState := .rpResetted, cnt := 0 }, reset.2)
  else ({ s with cnt := (s.cnt + 1) % 256 }, [])

/-- One byte through the {lit}`switch(_rp_state)` of {lit}`get_readings`. -/
def stepByte (P : Params) (now : Nat) (s : Decoder) (c : UInt8) : Decoder × List Call :=
  match s.rpState with
  | .rpResetted => onResetted s c
  | .rpResponding => onResponding now s c
  | .rpMeasurements => onMeasurements P now s c
  | .rpHealth => (s, [])
  | .rpUnknown => onUnknown now s c

/-- A stream of bytes, each read at its clock reading. -/
def feed (P : Params) : Decoder → List (Nat × UInt8) → Decoder × List Call
  | s, [] => (s, [])
  | s, (now, c) :: bs =>
    let step := stepByte P now s c
    let rest := feed P step.1 bs
    (rest.1, step.2 ++ rest.2)

/-- The decoder state after each byte of a stream. -/
def trail (P : Params) : Decoder → List (Nat × UInt8) → List RpState
  | _, [] => []
  | s, (now, c) :: bs => (stepByte P now s c).1.rpState :: trail P (stepByte P now s c).1 bs

/-! ## Initialisation and update -/

/-- The whole driver: the decoder, the members only {lit}`update` and
{lit}`initialise` use, the status reported to the frontend, and the bytes
waiting in the UART. -/
structure Driver where
  decoder : Decoder
  initialised : Bool
  sectorInitialised : Bool
  status : Status
  rx : List UInt8

/-- The driver as the constructor leaves it. -/
def Driver.construct : Driver := ⟨Decoder.construct, false, false, .notConnected, []⟩

/-- {lit}`get_readings`: drain the bytes waiting in the UART. -/
def getReadings (P : Params) (now : Nat) (s : Driver) : Driver × List Call :=
  let r := feed P s.decoder (s.rx.map fun c => (now, c))
  ({ s with decoder := r.1, rx := [] }, r.2)

/-- {lit}`initialise`: the first call sets up the sectors (the sector table itself
is the backend's) and reports failure; the next one resets the lidar. -/
def initialise (now : Nat) (s : Driver) : Driver × Bool × List Call :=
  if ¬s.sectorInitialised then ({ s with sectorInitialised := true }, false, [])
  else if ¬s.initialised then
    let reset := resetRplidar now s.decoder
    ({ s with decoder := reset.1 }, true, reset.2)
  else (s, true, [])

/-- The status check at the end of {lit}`update`. -/
def statusAt (now lastDistanceReceivedMs : Nat) : Status :=
  if lastDistanceReceivedMs = 0 ∨ millisSince now lastDistanceReceivedMs > commActivityTimeoutMs
  then .noData else .good

/-- {lit}`update`. -/
def update (P : Params) (now : Nat) (s : Driver) : Driver × List Call :=
  let init : Driver × List Call :=
    if s.initialised then (s, [])
    else
      let r := initialise now s
      ({ r.1 with initialised := r.2.1 }, r.2.2)
  let read : Driver × List Call :=
    if init.1.initialised then getReadings P now init.1 else (init.1, [])
  ({ read.1 with status := statusAt now read.1.decoder.lastDistanceReceivedMs }, init.2 ++ read.2)

/-- Bytes arrive in the UART, then the scheduler calls {lit}`update` at a clock
reading. -/
def tick (P : Params) (s : Driver) (t : Nat × List UInt8) : Driver × List Call :=
  update P t.1 { s with rx := s.rx ++ t.2 }

/-- A run of {lit}`update` calls; every call is tagged with its clock reading. -/
def run (P : Params) : Driver → List (Nat × List UInt8) → Driver × List (Nat × Call)
  | s, [] => (s, [])
  | s, t :: ts =>
    let step := tick P s t
    let rest := run P step.1 ts
    (rest.1, step.2.map (t.1, ·) ++ rest.2)

/-! ## Basic facts -/

/-- A write inside its buffer is no overrun. -/
theorem Buffer.check_of_lt {b : Buffer} {i : Nat} (h : i < b.size) : b.check i = [] := by
  simp [Buffer.check, h]

/-- A buffer write makes no UART write. -/
theorem Buffer.check_no_write (buffer : Buffer) (i : Nat) (b : UInt8) :
    Call.write b ∉ buffer.check i := by
  unfold Buffer.check
  split <;> simp

/-- {lit}`parse_response_data` writes nothing to the UART. -/
theorem parseResponseData_no_write (P : Params) (now : Nat) (s : Decoder) (b : UInt8) :
    Call.write b ∉ (parseResponseData P now s).2 := by
  unfold parseResponseData
  split
  · split_ifs
    · simp only [SampleState.sample, SectorWrite.calls]
      split <;> simp
    · simp
  · simp

/-- Storing a payload byte writes nothing to the UART. -/
theorem storePayload_no_write (P : Params) (now : Nat) (s : Decoder) (c : UInt8) (b : UInt8) :
    Call.write b ∉ (storePayload P now s c).2 := by
  unfold storePayload
  dsimp only
  split <;> simp [Buffer.check_no_write, parseResponseData_no_write]

/-- The empty stream leaves the decoder and makes no call. -/
@[simp]
theorem feed_nil (P : Params) (s : Decoder) : feed P s [] = (s, []) := rfl

/-- A stream is read one byte after the other. -/
theorem feed_cons (P : Params) (s : Decoder) (now : Nat) (c : UInt8) (bs : List (Nat × UInt8)) :
    feed P s ((now, c) :: bs) =
      ((feed P (stepByte P now s c).1 bs).1,
        (stepByte P now s c).2 ++ (feed P (stepByte P now s c).1 bs).2) := rfl

/-- A byte stream may be split anywhere. -/
theorem feed_append (P : Params) (s : Decoder) (as bs : List (Nat × UInt8)) :
    feed P s (as ++ bs) =
      ((feed P (feed P s as).1 bs).1, (feed P s as).2 ++ (feed P (feed P s as).1 bs).2) := by
  induction as generalizing s with
  | nil => rfl
  | cons x as ih =>
    obtain ⟨now, c⟩ := x
    simp [feed_cons, ih]

/-- A stream followed by one more byte. -/
theorem feed_concat (P : Params) (s : Decoder) (bs : List (Nat × UInt8)) (now : Nat) (c : UInt8) :
    feed P s (bs ++ [(now, c)]) =
      ((stepByte P now (feed P s bs).1 c).1, (feed P s bs).2 ++ (stepByte P now (feed P s bs).1 c).2) := by
  rw [feed_append, feed_cons, feed_nil, List.append_nil]

/-- The states after each byte, for a stream split anywhere. -/
theorem trail_append (P : Params) (s : Decoder) (as bs : List (Nat × UInt8)) :
    trail P s (as ++ bs) = trail P s as ++ trail P (feed P s as).1 bs := by
  induction as generalizing s with
  | nil => rfl
  | cons x as ih => exact congrArg _ (ih _)

/-! ## What one byte does, branch by branch

Each lemma below is one branch of a handler, with the {lit}`uint8_t` and
{lit}`uint16_t` wrap-arounds discharged where the branch keeps the counters
small. -/

section Branches

variable {P : Params} {now : Nat} {s : Decoder} {c : UInt8}

/-- In {lit}`rp_resetted`, a byte that starts or continues the device information is
stored while fewer than 62 are. -/
theorem onResetted_store (h : (c = 0x52 ∨ s.informationData = true) ∧ s.byteCount < 62) :
    onResetted s c = ({ s with informationData := true, byteCount := s.byteCount + 1 }, []) := by
  have hc : Buffer.rpSysteminfo.check s.byteCount = [] :=
    Buffer.check_of_lt (by simp [Buffer.size]; omega)
  rcases h with ⟨h | h, hbc⟩ <;>
    simp [onResetted, h, hbc, hc, Nat.mod_eq_of_lt (show s.byteCount + 1 < 65536 by omega)]

/-- In {lit}`rp_resetted`, the byte after 62 bytes of device information calls
{lit}`set_scan_mode`. -/
theorem onResetted_scanMode (h : ¬((c = 0x52 ∨ s.informationData = true) ∧ s.byteCount < 62))
    (hinfo : s.informationData = true) :
    onResetted s c =
      ({ s with informationData := false, byteCount := 0, rpState := .rpResponding },
        [.write rplidarCmdScan]) := by
  rw [onResetted, if_neg h, if_pos hinfo]
  rfl

/-- In {lit}`rp_resetted` without device information, a stray byte after more than
five gives up to {lit}`rp_unknown`. -/
theorem onResetted_giveUp (h : ¬((c = 0x52 ∨ s.informationData = true) ∧ s.byteCount < 62))
    (hinfo : s.informationData = false) (hcnt : 5 < s.cnt) :
    onResetted s c = ({ s with rpState := .rpUnknown, cnt := 0 }, []) := by
  rw [onResetted, if_neg h, if_neg (by simp [hinfo]), if_pos hcnt]

/-- In {lit}`rp_resetted` without device information, the first six stray bytes are
counted in {lit}`_cnt`. -/
theorem onResetted_stray (h : ¬((c = 0x52 ∨ s.informationData = true) ∧ s.byteCount < 62))
    (hinfo : s.informationData = false) (hcnt : s.cnt ≤ 5) :
    onResetted s c = ({ s with cnt := s.cnt + 1 }, []) := by
  rw [onResetted, if_neg h, if_neg (by simp [hinfo]), if_neg (by omega),
    Nat.mod_eq_of_lt (show s.cnt + 1 < 256 by omega)]

/-- In {lit}`rp_responding`, a byte other than the preamble before a descriptor has
started sends the decoder to {lit}`rp_unknown`. -/
theorem onResponding_reject (h : ¬(c = rplidarPreamble ∨ s.descriptorData = true)) :
    onResponding now s c = ({ s with rpState := .rpUnknown }, []) := by
  simp only [onResponding, if_neg h]

/-- In {lit}`rp_responding`, a descriptor byte before the seventh is stored. -/
theorem onResponding_collect (h : c = rplidarPreamble ∨ s.descriptorData = true)
    (hbc : s.byteCount + 1 < 7) :
    onResponding now s c =
      ({ s with descriptorData := true, descriptor := Function.update s.descriptor s.byteCount c
                byteCount := s.byteCount + 1 }, []) := by
  simp [onResponding, h, Nat.mod_eq_of_lt (show s.byteCount + 1 < 65536 by omega),
    Buffer.check_of_lt (show s.byteCount < Buffer.descriptor.size by simp [Buffer.size]; omega),
    show s.byteCount + 1 ≠ 7 by omega]

/-- In {lit}`rp_responding`, the seventh descriptor byte hands the descriptor to
{lit}`parse_response_descriptor` and clears {lit}`_byte_count`. -/
theorem onResponding_complete (h : c = rplidarPreamble ∨ s.descriptorData = true)
    (hbc : s.byteCount = 6) :
    onResponding now s c =
      ({ parseResponseDescriptor now
            { s with descriptorData := true, descriptor := Function.update s.descriptor 6 c
                     byteCount := 7, responseType := .descriptor } with byteCount := 0 },
        [.parseDescriptor (Decoder.descriptorBytes
          { s with descriptorData := true, descriptor := Function.update s.descriptor 6 c
                   byteCount := 7 })]) := by
  simp [onResponding, h, hbc, Buffer.check, Buffer.size]

/-- A payload byte that does not complete the payload is stored. -/
theorem storePayload_incomplete (hbc : s.byteCount < 5) (hlen : s.byteCount + 1 ≠ s.payloadLength) :
    storePayload P now s c =
      ({ s with payload := Function.update s.payload s.byteCount c
                byteCount := s.byteCount + 1 }, []) := by
  simp [storePayload, hlen, Nat.mod_eq_of_lt (show s.byteCount + 1 < 65536 by omega),
    Buffer.check_of_lt (show s.byteCount < Buffer.payload.size by simp [Buffer.size]; omega)]

/-- The byte that completes the payload hands it to {lit}`parse_response_data` and
clears {lit}`_byte_count`. -/
theorem storePayload_full (hbc : s.byteCount < 5) (hlen : s.byteCount + 1 = s.payloadLength) :
    storePayload P now s c =
      let t := { s with payload := Function.update s.payload s.byteCount c
                        byteCount := s.byteCount + 1 }
      ({ (parseResponseData P now t).1 with byteCount := 0 },
        .parseData t.payloadBytes :: (parseResponseData P now t).2) := by
  have hmod : (s.byteCount + 1) % 65536 = s.byteCount + 1 := Nat.mod_eq_of_lt (by omega)
  rw [storePayload]
  simp only [hmod]
  rw [if_pos hlen, Buffer.check_of_lt (show s.byteCount < Buffer.payload.size by
    simp [Buffer.size]; omega), List.nil_append]

/-- In {lit}`rp_measurements` without a sync error, every byte is a payload byte. -/
theorem onMeasurements_store (hse : s.syncError = 0) :
    onMeasurements P now s c = storePayload P now s c := by
  simp [onMeasurements, hse]

/-- After a sync error, a byte whose low two bits are {lit}`01` clears the error and
starts a payload. -/
theorem onMeasurements_resync (hse : s.syncError ≠ 0) (hc : isResyncByte c = true) :
    onMeasurements P now s c = storePayload P now { s with syncError := 0 } c := by
  simp [onMeasurements, hse, hc]

/-- After a sync error, any other byte resets the lidar once {lit}`RESYNC_TIMEOUT`
has passed since the last distance. -/
theorem onMeasurements_timeout (hse : s.syncError ≠ 0) (hc : isResyncByte c = false)
    (ht : millisSince now s.lastDistanceReceivedMs > resyncTimeout) :
    onMeasurements P now s c = resetRplidar now s := by
  simp [onMeasurements, hse, hc, ht]

/-- After a sync error, any other byte is dropped before {lit}`RESYNC_TIMEOUT` has
passed since the last distance. -/
theorem onMeasurements_wait (hse : s.syncError ≠ 0) (hc : isResyncByte c = false)
    (ht : ¬millisSince now s.lastDistanceReceivedMs > resyncTimeout) :
    onMeasurements P now s c = (s, []) := by
  simp [onMeasurements, hse, hc, ht]

/-- In {lit}`rp_unknown`, the preamble goes to the {lit}`rp_responding` handler. -/
theorem onUnknown_preamble (hc : c = rplidarPreamble) :
    onUnknown now s c = onResponding now { s with rpState := .rpResponding } c := by
  simp [onUnknown, hc]

/-- In {lit}`rp_unknown`, the eleventh byte other than the preamble resets the lidar
and clears {lit}`_cnt`. -/
theorem onUnknown_reset (hc : c ≠ rplidarPreamble) (hcnt : s.cnt = 10) :
    onUnknown now s c =
      ({ s with cnt := 0, lastResetMs := now, rpState := .rpResetted }, [.write rplidarCmdReset]) := by
  simp [onUnknown, hc, hcnt, resetRplidar]

/-- In {lit}`rp_unknown`, the first ten bytes other than the preamble are counted. -/
theorem onUnknown_count (hc : c ≠ rplidarPreamble) (hcnt : s.cnt < 10) :
    onUnknown now s c = ({ s with cnt := s.cnt + 1 }, []) := by
  simp [onUnknown, hc, Nat.mod_eq_of_lt (show s.cnt + 1 < 256 by omega),
    show ¬10 < s.cnt + 1 by omega]

/-- A byte in {lit}`rp_resetted` goes to its handler. -/
theorem stepByte_resetted (hs : s.rpState = .rpResetted) : stepByte P now s c = onResetted s c := by
  simp [stepByte, hs]

/-- A byte in {lit}`rp_responding` goes to its handler. -/
theorem stepByte_responding (hs : s.rpState = .rpResponding) :
    stepByte P now s c = onResponding now s c := by
  simp [stepByte, hs]

/-- A byte in {lit}`rp_measurements` goes to its handler. -/
theorem stepByte_measurements (hs : s.rpState = .rpMeasurements) :
    stepByte P now s c = onMeasurements P now s c := by
  simp [stepByte, hs]

/-- A byte in {lit}`rp_health` is dropped. -/
theorem stepByte_health (hs : s.rpState = .rpHealth) : stepByte P now s c = (s, []) := by
  simp [stepByte, hs]

/-- A byte in {lit}`rp_unknown` goes to its handler. -/
theorem stepByte_unknown (hs : s.rpState = .rpUnknown) : stepByte P now s c = onUnknown now s c := by
  simp [stepByte, hs]

end Branches

/-! ## The three shapes of an update call -/

section Update

variable {P : Params} {now : Nat} {s : Driver}

/-- An initialised driver drains the UART and reports its status. -/
theorem update_of_initialised (h : s.initialised = true) :
    update P now s =
      ({ (getReadings P now s).1 with
          status := statusAt now (getReadings P now s).1.decoder.lastDistanceReceivedMs },
        (getReadings P now s).2) := by
  simp [update, h]

/-- The first update of a constructed driver sets up the sectors and reads nothing. -/
theorem update_first (hi : s.initialised = false) (hsec : s.sectorInitialised = false) :
    update P now s =
      ({ s with sectorInitialised := true, initialised := false
                status := statusAt now s.decoder.lastDistanceReceivedMs }, []) := by
  simp [update, initialise, hi, hsec]

/-- The update after it resets the lidar, then drains the UART. -/
theorem update_reset (hi : s.initialised = false) (hsec : s.sectorInitialised = true) :
    update P now s =
      let t : Driver := { s with decoder := (resetRplidar now s.decoder).1, initialised := true }
      ({ (getReadings P now t).1 with
          status := statusAt now (getReadings P now t).1.decoder.lastDistanceReceivedMs },
        .write rplidarCmdReset :: (getReadings P now t).2) := by
  simp [update, initialise, hi, hsec, resetRplidar]

end Update

end RPLidarA2
