import InvertedPendulum.Link.Service
import InvertedPendulum.Wire.LittleEndian

namespace InvertedPendulum.Link
open Balance Safety Telemetry Wire

/-- `std::bit_cast` is a bijection between the values of `float` and their 32 bits. -/
class BitCast (F : Type) [FloatBits F] [FloatImage F] : Prop where
  ofBits_toBits : ∀ value : F, FloatBits.ofBits (FloatImage.toBits value) = value
  toBits_ofBits : ∀ bits, FloatImage.toBits (FloatBits.ofBits bits : F) = bits

/-- A `float` that is known by its bits alone tells all NaNs and both zeros apart. -/
structure FloatPattern where
  bits : UInt32
  deriving DecidableEq

instance : FloatBits FloatPattern where
  ofBits := .mk

instance : FloatImage FloatPattern where
  toBits := FloatPattern.bits

instance : BitCast FloatPattern where
  ofBits_toBits _ := rfl
  toBits_ofBits _ := rfl

section Floats
variable {F : Type} [FloatBits F] [FloatImage F]

omit [FloatBits F] in
/-- The bytes of a value are those of its bits. -/
theorem floatBytes_eq (value : F) : floatBytes value = littleEndian (FloatImage.toBits value) := rfl

omit [FloatImage F] in
theorem getFloat_eq {source : List UInt8} {offset : Nat} (room : offset + 4 ≤ source.length) :
    (getFloat source offset : Option F) = some (FloatBits.ofBits (fromLittleEndian source offset)) :=
  if_pos room

variable [BitCast F]

theorem floatBytes_injective : Function.Injective (floatBytes : F → List UInt8) := by
  intro first second same
  have bits : FloatImage.toBits first = FloatImage.toBits second := littleEndian_injective same
  calc first = FloatBits.ofBits (FloatImage.toBits first) := (BitCast.ofBits_toBits first).symm
    _ = FloatBits.ofBits (FloatImage.toBits second) := by rw [bits]
    _ = second := BitCast.ofBits_toBits second

/-- A value is read back from wherever its bytes stand. -/
theorem getFloat_append (front back : List UInt8) (value : F) :
    getFloat (front ++ floatBytes value ++ back) front.length = some value := by
  have room : front.length + 4 ≤ (front ++ floatBytes value ++ back).length := by
    rw [List.length_append, List.length_append, floatBytes_length]
    omega
  rw [getFloat_eq room, floatBytes_eq, fromLittleEndian_append, BitCast.ofBits_toBits]

/-- The bytes of a value that was read are the bytes that were read. -/
theorem floatBytes_of_getFloat {source : List UInt8} {offset : Nat} {value : F}
    (read : getFloat source offset = some value) :
    floatBytes value = (source.drop offset).take 4 ∧ offset + 4 ≤ source.length := by
  by_cases room : offset + 4 ≤ source.length
  · rw [getFloat_eq room] at read
    obtain rfl := Option.some.inj read
    rw [floatBytes_eq, BitCast.toBits_ofBits]
    exact ⟨littleEndian_fromLittleEndian room, room⟩
  · have unread : (getFloat source offset : Option F) = none := if_neg room
    rw [unread] at read
    cases read

variable {size : Nat}

omit [FloatBits F] [BitCast F] in
/-- A write within a buffer replaces four bytes by those of the value, and leaves the others. -/
theorem putFloat_toList (buffer : Vector UInt8 size) {offset : Nat} (room : offset + 4 ≤ size)
    (value : F) :
    ∃ after, putFloat buffer offset value = some after ∧
      after.toList = buffer.toList.take offset ++ floatBytes value ++
        buffer.toList.drop (offset + 4) := by
  unfold putFloat
  rw [if_pos room]
  exact putAll_toList buffer offset (floatBytes value) room

/-- A value that is written is read back, and no byte outside of its four changes. -/
theorem getFloat_putFloat (buffer : Vector UInt8 size) {offset : Nat} (room : offset + 4 ≤ size)
    (value : F) :
    ∃ after, putFloat buffer offset value = some after ∧
      getFloat after.toList offset = some value ∧
      ∀ index (inside : index < size), index < offset ∨ offset + 4 ≤ index →
        after[index] = buffer[index] := by
  obtain ⟨after, wrote, replaced⟩ := putFloat_toList buffer room value
  have placed : (buffer.toList.take offset).length = offset := by
    rw [List.length_take, Vector.length_toList]
    omega
  refine ⟨after, wrote, ?_, ?_⟩
  · rw [replaced]
    have read := getFloat_append (buffer.toList.take offset) (buffer.toList.drop (offset + 4)) value
    rwa [placed] at read
  · intro index inside outside
    have entries : after.toList[index]? = buffer.toList[index]? := by
      rw [replaced, List.append_assoc]
      rcases outside with before | behind
      · rw [List.getElem?_append_left (by omega), List.getElem?_take_of_lt before]
      · rw [List.getElem?_append_right (by omega), placed,
          List.getElem?_append_right (by rw [floatBytes_length]; omega), floatBytes_length,
          List.getElem?_drop]
        congr 1
        omega
    simpa [inside] using entries

/-- Writing back the value that stands in a buffer leaves the buffer as it is. -/
theorem putFloat_getFloat (buffer : Vector UInt8 size) {offset : Nat} {value : F}
    (read : getFloat buffer.toList offset = some value) :
    putFloat buffer offset value = some buffer := by
  obtain ⟨bytes, room⟩ := floatBytes_of_getFloat read
  rw [Vector.length_toList] at room
  obtain ⟨after, wrote, replaced⟩ := putFloat_toList buffer room value
  have same : after = buffer := by
    apply Vector.toList_inj.mp
    rw [replaced, bytes, List.append_assoc, ← List.drop_drop, List.take_append_drop,
      List.take_append_drop]
  rw [wrote, same]

end Floats

section Enumerations
variable {α : Type} [EnumCast α] [DecidableEq α]

/-- A client knows an enumerator by its byte. -/
def enumerator (values : List α) (byte : UInt8) : Option α :=
  values.find? fun value => EnumCast.enumCast value = byte

end Enumerations

def modes : List Mode := [.init, .calibrating, .idle, .armed, .fault]

def causes : List FaultCause :=
  [.none, .fall, .driverFault, .estimateInvalid, .loopStalled, .selfTestFailed, .calibrationFailed]

theorem enumerator_mode (mode : Mode) : enumerator modes (EnumCast.enumCast mode) = some mode := by
  cases mode <;> rfl

theorem enumerator_cause (cause : FaultCause) :
    enumerator causes (EnumCast.enumCast cause) = some cause := by
  cases cause <;> rfl

namespace RobotControlService
variable {F : Type} [FloatBits F] [FloatImage F]

omit [FloatBits F] in
/-- The frame of a sample holds its six floats, its mode and its cause. -/
def frame (sample : Sample F) : List UInt8 :=
  floatBytes sample.pitch ++ floatBytes sample.pitchRate ++ floatBytes sample.forwardVelocity ++
    floatBytes sample.yawRate ++ floatBytes sample.effortLeft ++ floatBytes sample.effortRight ++
    [EnumCast.enumCast sample.mode, EnumCast.enumCast sample.cause]

omit [FloatImage F] in
/-- A client reads each field of a frame at its documented offset. -/
def decodeFrame (bytes : List UInt8) : Option (Sample F) := do
  let pitch ← getFloat bytes 0
  let pitchRate ← getFloat bytes 4
  let forwardVelocity ← getFloat bytes 8
  let yawRate ← getFloat bytes 12
  let effortLeft ← getFloat bytes 16
  let effortRight ← getFloat bytes 20
  let mode ← bytes[24]? >>= enumerator modes
  let cause ← bytes[25]? >>= enumerator causes
  some ⟨pitch, pitchRate, forwardVelocity, yawRate, effortLeft, effortRight, mode, cause⟩

omit [FloatBits F] in
@[simp] theorem frame_length (sample : Sample F) : (frame sample).length = telemetrySize := rfl

/-- A frame decodes to its sample. -/
theorem decodeFrame_frame [BitCast F] (sample : Sample F) :
    decodeFrame (frame sample) = some sample := by
  have pitch : getFloat (frame sample) 0 = some sample.pitch :=
    getFloat_append [] _ sample.pitch
  have pitchRate : getFloat (frame sample) 4 = some sample.pitchRate :=
    getFloat_append (floatBytes sample.pitch) _ sample.pitchRate
  have forwardVelocity : getFloat (frame sample) 8 = some sample.forwardVelocity :=
    getFloat_append (floatBytes sample.pitch ++ floatBytes sample.pitchRate) _
      sample.forwardVelocity
  have yawRate : getFloat (frame sample) 12 = some sample.yawRate :=
    getFloat_append (floatBytes sample.pitch ++ floatBytes sample.pitchRate ++
      floatBytes sample.forwardVelocity) _ sample.yawRate
  have effortLeft : getFloat (frame sample) 16 = some sample.effortLeft :=
    getFloat_append (floatBytes sample.pitch ++ floatBytes sample.pitchRate ++
      floatBytes sample.forwardVelocity ++ floatBytes sample.yawRate) _ sample.effortLeft
  have effortRight : getFloat (frame sample) 20 = some sample.effortRight :=
    getFloat_append (floatBytes sample.pitch ++ floatBytes sample.pitchRate ++
      floatBytes sample.forwardVelocity ++ floatBytes sample.yawRate ++
      floatBytes sample.effortLeft) _ sample.effortRight
  have mode : (frame sample)[24]? >>= enumerator modes = some sample.mode :=
    enumerator_mode sample.mode
  have cause : (frame sample)[25]? >>= enumerator causes = some sample.cause :=
    enumerator_cause sample.cause
  unfold decodeFrame
  rw [pitch, pitchRate, forwardVelocity, yawRate, effortLeft, effortRight, mode, cause]
  rfl

/-- Samples that differ in a bit have different frames. -/
theorem frame_injective [BitCast F] : Function.Injective (frame : Sample F → List UInt8) := by
  intro first second same
  have decoded := decodeFrame_frame first
  rw [same, decodeFrame_frame second] at decoded
  exact (Option.some.inj decoded).symm

section Telemetry
variable {σ : Type} [TelemetrySource σ F]

omit [FloatBits F] in
/-- Telemetry that is published fills the whole buffer with the frame of the latest sample. -/
theorem publishTelemetry_frame {service : RobotControlService F σ}
    (free : service.telemetryValue.inFlight = false) (fit : service.fits telemetrySize = true) :
    ∃ buffer, buffer.toList = frame (TelemetrySource.latest service.peers) ∧
      service.publishTelemetry = some { service with
        telemetryValue := { service.telemetryValue with buffer }.hand telemetrySize } := by
  have publishes : ¬ (service.telemetryValue.inFlight = true ∨
      (! service.fits telemetrySize) = true) := by
    simp [free, fit]
  let sample := TelemetrySource.latest service.peers
  have first := begins_nil service.telemetryValue.buffer
  obtain ⟨pitched, pitch, second⟩ := putFloat_begins first sample.pitch (by decide)
  obtain ⟨turning, pitchRate, third⟩ := putFloat_begins second sample.pitchRate
    (by decide : 4 + 4 ≤ telemetrySize)
  obtain ⟨driven, forwardVelocity, fourth⟩ := putFloat_begins third sample.forwardVelocity
    (by decide : 8 + 4 ≤ telemetrySize)
  obtain ⟨yawing, yawRate, fifth⟩ := putFloat_begins fourth sample.yawRate
    (by decide : 12 + 4 ≤ telemetrySize)
  obtain ⟨lefted, effortLeft, sixth⟩ := putFloat_begins fifth sample.effortLeft
    (by decide : 16 + 4 ≤ telemetrySize)
  obtain ⟨righted, effortRight, seventh⟩ := putFloat_begins sixth sample.effortRight
    (by decide : 20 + 4 ≤ telemetrySize)
  obtain ⟨buffer, states, last⟩ := seventh.putAll
    [EnumCast.enumCast sample.mode, EnumCast.enumCast sample.cause]
    (by decide : 24 + 2 ≤ telemetrySize)
  refine ⟨buffer, ?_, ?_⟩
  · have whole : buffer.toList.take telemetrySize = frame sample := last
    rwa [List.take_of_length_le (by rw [Vector.length_toList])] at whole
  · change putFloat pitched 4 sample.pitchRate = some turning at pitchRate
    change putFloat turning 8 sample.forwardVelocity = some driven at forwardVelocity
    change putFloat driven 12 sample.yawRate = some yawing at yawRate
    change putFloat yawing 16 sample.effortLeft = some lefted at effortLeft
    change putFloat lefted 20 sample.effortRight = some righted at effortRight
    change putAll righted 24 [EnumCast.enumCast sample.mode, EnumCast.enumCast sample.cause] =
      some buffer at states
    change putFloat service.telemetryValue.buffer 0 sample.pitch = some pitched at pitch
    unfold publishTelemetry
    rw [if_neg publishes]
    simp only [sample] at *
    simp only [pitch, pitchRate, forwardVelocity, yawRate, effortLeft, effortRight, states,
      Option.bind_eq_bind, Option.bind_some]

end Telemetry

section Motion
variable {σ : Type} [OperatedControl σ F]

omit [FloatBits F] in
/-- The bytes of a motion write hold the velocity and the yaw rate. -/
def motionBytes (setpoints : Setpoints F) : List UInt8 :=
  floatBytes setpoints.velocity ++ floatBytes setpoints.yawRate

/-- A motion write of the right size moves to the only setpoints that it encodes. -/
theorem motionWrites_encoded [BitCast F] (service : RobotControlService F σ) {data : List UInt8}
    (sized : data.length = motionSize) :
    ∃ setpoints : Setpoints F, motionBytes setpoints = data ∧
      (∀ other : Setpoints F, motionBytes other = data → other = setpoints) ∧
      service.motionWrites data =
        some (service.calling (.move setpoints (OperatedControl.move service.peers setpoints).1)
          (OperatedControl.move service.peers setpoints).2) := by
  have long : data.length = 8 := sized
  obtain ⟨velocity, forward⟩ : ∃ velocity : F, getFloat data 0 = some velocity :=
    ⟨_, getFloat_eq (by omega)⟩
  obtain ⟨yawRate, turn⟩ : ∃ yawRate : F, getFloat data 4 = some yawRate :=
    ⟨_, getFloat_eq (by omega)⟩
  have encoded : motionBytes ⟨velocity, yawRate⟩ = data := by
    have back : (data.drop 4).take 4 = data.drop 4 := by
      apply List.take_of_length_le
      rw [List.length_drop, long]
    unfold motionBytes
    rw [(floatBytes_of_getFloat forward).1, (floatBytes_of_getFloat turn).1, back]
    exact List.take_append_drop 4 data
  refine ⟨⟨velocity, yawRate⟩, encoded, ?_, ?_⟩
  · intro other same
    obtain ⟨first, second⟩ := List.append_inj (same.trans encoded.symm) rfl
    obtain ⟨otherVelocity, otherYawRate⟩ := other
    rw [Setpoints.mk.injEq]
    exact ⟨floatBytes_injective first, floatBytes_injective second⟩
  · unfold motionWrites
    rw [if_pos sized]
    simp only [forward, turn, Option.bind_eq_bind, Option.bind_some]

omit [FloatImage F] in
/-- A motion write of another size leaves the service alone. -/
theorem motionWrites_other (service : RobotControlService F σ) {data : List UInt8}
    (sized : data.length ≠ motionSize) : service.motionWrites data = some service := if_neg sized

end Motion

/-- Floats are put into and got from a buffer without loss and without touching another byte. The
frame of a sample decodes to that sample alone, and a motion write moves to the only setpoints that
it encodes, if it has the size of two floats. -/
theorem wire_format_is_faithful [BitCast F] :
    (∀ (size : Nat) (buffer : Vector UInt8 size) (offset : Nat), offset + 4 ≤ size →
      (∀ value : F, ∃ after, putFloat buffer offset value = some after ∧
        getFloat after.toList offset = some value ∧
        ∀ index (inside : index < size), index < offset ∨ offset + 4 ≤ index →
          after[index] = buffer[index]) ∧
      ∃ value : F, getFloat buffer.toList offset = some value ∧
        putFloat buffer offset value = some buffer) ∧
    (∀ (σ : Type) [TelemetrySource σ F] (service : RobotControlService F σ),
      service.telemetryValue.inFlight = false → service.fits telemetrySize = true →
      ∃ after bytes, service.publishTelemetry = some after ∧
        after.telemetryValue.outstanding =
          service.telemetryValue.outstanding ++ [⟨service.telemetryValue.handed, bytes⟩] ∧
        bytes = frame (TelemetrySource.latest service.peers) ∧ bytes.length = 26 ∧
        decodeFrame bytes = some (TelemetrySource.latest service.peers)) ∧
    (∀ first second : Sample F, first ≠ second → frame first ≠ frame second) ∧
    (∀ (σ : Type) [OperatedControl σ F] (service : RobotControlService F σ) (data : List UInt8),
      (data.length = 8 → ∃ setpoints : Setpoints F, motionBytes setpoints = data ∧
        (∀ other : Setpoints F, motionBytes other = data → other = setpoints) ∧
        service.motionWrites data =
          some (service.calling (.move setpoints (OperatedControl.move service.peers setpoints).1)
            (OperatedControl.move service.peers setpoints).2)) ∧
      (data.length ≠ 8 → service.motionWrites data = some service)) := by
  refine ⟨?_, ?_, ?_, ?_⟩
  · intro size buffer offset room
    refine ⟨getFloat_putFloat buffer room, ?_⟩
    have read : (getFloat buffer.toList offset : Option F) =
        some (FloatBits.ofBits (fromLittleEndian buffer.toList offset)) :=
      getFloat_eq (by rwa [Vector.length_toList])
    exact ⟨_, read, putFloat_getFloat buffer read⟩
  · intro σ source service free fit
    obtain ⟨buffer, framed, published⟩ := publishTelemetry_frame free fit
    have handed : buffer.toList.take telemetrySize = buffer.toList :=
      List.take_of_length_le (by rw [Vector.length_toList])
    refine ⟨_, buffer.toList, published, ?_, framed, Vector.length_toList, ?_⟩
    · simp only [Channel.hand, Channel.front, handed]
    · rw [framed, decodeFrame_frame]
  · intro first second distinct same
    exact distinct (frame_injective same)
  · intro σ control service data
    exact ⟨motionWrites_encoded service, motionWrites_other service⟩

/-- A signalling NaN keeps its payload through a buffer. -/
theorem wire_format_is_faithful_on_payloads :
    ∃ after, putFloat (Vector.replicate 26 0) 4 (FloatPattern.mk 0x7f800001) = some after ∧
      getFloat after.toList 4 = some (FloatPattern.mk 0x7f800001) := by
  obtain ⟨floats, -⟩ := wire_format_is_faithful (F := FloatPattern)
  obtain ⟨written, -⟩ := floats 26 (Vector.replicate 26 0) 4 (by decide)
  obtain ⟨after, wrote, read, -⟩ := written ⟨0x7f800001⟩
  exact ⟨after, wrote, read⟩

end RobotControlService
end InvertedPendulum.Link
