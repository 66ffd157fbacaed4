import Mathlib.Algebra.Order.Field.Rat
import Mathlib.Tactic.NormNum

/-!
# RPLIDAR A2 driver - Protocol constants, payload layout and driver calls

This module fixes the vocabulary shared by every later file: the command bytes
and timeouts of the driver, the decoder states {lit}`rp_state`, the two response
descriptors the driver recognises, the bit layout of a five-byte scan sample,
and the calls a run of the driver makes.

Floating-point values are carried as rationals.  The angle
{lit}`angle_q6/64.0f` of a 15-bit field is exact in single precision.  The
distance {lit}`distance_q2/4000.0f` is rounded, but rounding is monotone and
separates distinct 16-bit fields, so every comparison the driver makes on
distances (against {lit}`0.5`, against {lit}`distance_min()` and against
another distance) agrees with the exact quotient used here.

Clock readings are the {lit}`uint32_t` values of {lit}`AP_HAL::millis()`;
{lit}`millisSince` is the wrapping {lit}`uint32_t` difference of the source.
-/

namespace RPLidarA2

/-! ## Commands, timeouts and range -/

/-- {lit}`RPLIDAR_PREAMBLE`: first byte of every command and response descriptor. -/
def rplidarPreamble : UInt8 := 0xA5

/-- {lit}`RPLIDAR_CMD_SCAN`: request to enter scan mode. -/
def rplidarCmdScan : UInt8 := 0x20

/-- {lit}`RPLIDAR_CMD_RESET`: request a soft reset of the range core. -/
def rplidarCmdReset : UInt8 := 0x40

/-- {lit}`COMM_ACTIVITY_TIMEOUT_MS`. -/
def commActivityTimeoutMs : Nat := 200

/-- {lit}`RESYNC_TIMEOUT`. -/
def resyncTimeout : Nat := 5000

/-- {lit}`distance_min()`: 20 cm. -/
def distanceMin : ℚ := 1 / 5

/-- {lit}`AP_HAL::millis() - since`, computed in {lit}`uint32_t`. -/
def millisSince (now since : Nat) : Nat :=
  (now + 4294967296 - since) % 4294967296

/-- On clock readings that have not wrapped, the elapsed time is the plain difference. -/
theorem millisSince_of_le {now since : Nat} (h : since ≤ now) (hnow : now < 4294967296) :
    millisSince now since = now - since := by
  unfold millisSince
  omega

/-- No time passes between a clock reading and itself, wrapped or not. -/
@[simp]
theorem millisSince_self (now : Nat) : millisSince now now = 0 := by
  simp [millisSince]

/-! ## Decoder states and response types -/

/-- {lit}`enum rp_state`. -/
inductive RpState
  | rpUnknown
  | rpResetted
  | rpResponding
  | rpMeasurements
  | rpHealth
deriving DecidableEq, Repr

/-- {lit}`enum ResponseType`. -/
inductive ResponseType
  | descriptor
  | scan
  | express
  | health
deriving DecidableEq, Repr

/-- The descriptor of a scan response: {lit}`A5 5A 05 00 00 40 81`. -/
def scanDescriptor : List UInt8 := [0xA5, 0x5A, 0x05, 0x00, 0x00, 0x40, 0x81]

/-- The descriptor of a health response: {lit}`A5 5A 03 00 00 00 06`. -/
def healthDescriptor : List UInt8 := [0xA5, 0x5A, 0x03, 0x00, 0x00, 0x00, 0x06]

/-! ## The scan sample layout -/

/-- The fields of the packed {lit}`_sensor_scan` read by the driver, taken from the
five payload bytes: start bit and its complement in bits 0 and 1 of byte 0, the
check bit in bit 0 of byte 1, the 15-bit angle in the rest of bytes 1 and 2, and
the 16-bit distance in bytes 3 and 4. -/
structure SensorScan where
  startbit : Bool
  notStartbit : Bool
  checkbit : Bool
  angleQ6 : Nat
  distanceQ2 : Nat
deriving DecidableEq, Repr

/-- Read {lit}`payload.sensor_scan` from the payload bytes. -/
def SensorScan.ofBytes (b : Nat → UInt8) : SensorScan where
  startbit := (b 0).toNat % 2 = 1
  notStartbit := (b 0).toNat / 2 % 2 = 1
  checkbit := (b 1).toNat % 2 = 1
  angleQ6 := (b 1).toNat / 2 + (b 2).toNat * 128
  distanceQ2 := (b 3).toNat + (b 4).toNat * 256

/-- The validity test of {lit}`parse_response_data`:
{lit}`startbit == !not_startbit && checkbit`. -/
def SensorScan.valid (p : SensorScan) : Bool :=
  (p.startbit == !p.notStartbit) && p.checkbit

/-- {lit}`angle_deg = angle_q6/64.0f`. -/
def SensorScan.angleDeg (p : SensorScan) : ℚ := p.angleQ6 / 64

/-- {lit}`distance_m = distance_q2/4000.0f`. -/
def SensorScan.distanceM (p : SensorScan) : ℚ := p.distanceQ2 / 4000

/-- The bytes of a frame, indexed as the payload buffer is. -/
def bytesAt (bs : List UInt8) : Nat → UInt8 := fun i => bs.getD i 0

/-- Whether a five-byte chunk passes the start/check-bit test. -/
def chunkValid (chunk : List UInt8) : Bool := (SensorScan.ofBytes (bytesAt chunk)).valid

/-- The resync test of {lit}`rp_measurements`: {lit}`(c & 0x03) == 0x01`. -/
def isResyncByte (c : UInt8) : Bool := c.toNat % 4 = 1

/-! ## What a run of the driver does -/

/-- The three arrays the decoder writes at {lit}`_byte_count`. -/
inductive Buffer
  | rpSysteminfo
  | descriptor
  | payload
deriving DecidableEq, Repr

/-- Declared sizes: {lit}`_rp_systeminfo[63]`, {lit}`_descriptor[7]`, and the
five-byte {lit}`payload` union. -/
def Buffer.size : Buffer → Nat
  | .rpSysteminfo => 63
  | .descriptor => 7
  | .payload => 5

/-- The calls a run of the driver makes, in order.  Commands go to the UART;
{lit}`parseDescriptor` and {lit}`parseData` record the bytes handed to
{lit}`parse_response_descriptor` and {lit}`parse_response_data`;
{lit}`updateBoundary` is the backend's {lit}`update_boundary_for_sector`;
{lit}`overrun` marks a write outside its array, which the source would perform
as undefined behaviour and which the model performs nowhere. -/
inductive Call
  | write (cmd : UInt8)
  | parseDescriptor (d : List UInt8)
  | parseData (p : List UInt8)
  | updateBoundary (sector : Nat)
  | overrun (buffer : Buffer) (index : Nat)
deriving DecidableEq, Repr

/-- A call that is not an out-of-bounds write. -/
def Call.inBounds : Call → Prop
  | .overrun _ _ => False
  | _ => True

end RPLidarA2
