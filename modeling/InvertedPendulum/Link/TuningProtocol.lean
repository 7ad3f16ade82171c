import InvertedPendulum.Link.Effects
import InvertedPendulum.Link.FirmwarePeers

namespace InvertedPendulum.Link
open Balance Safety Telemetry Wire Reactive

namespace RobotControlService
variable {F σ : Type}

@[simp] theorem assembling_self (service : RobotControlService F σ) :
    service.assembling service.tuning.buffer = service := rfl

@[simp] theorem assembling_assembling (service : RobotControlService F σ)
    (first second : Vector UInt8 tuningSize) :
    (service.assembling first).assembling second = service.assembling second := rfl

/-- A result answers with some bytes when the tuning buffer begins with them. -/
def Answers (result : Option (Nat × RobotControlService F σ)) (acted : RobotControlService F σ)
    (bytes : List UInt8) : Prop :=
  ∃ buffer, result = some (bytes.length, acted.assembling buffer) ∧ Begins buffer bytes

section Assembly
variable {buffer : Vector UInt8 tuningSize} {front : List UInt8}

/-- A write right after the beginning of the tuning buffer appends to it. -/
theorem write_begins (service : RobotControlService F σ) (begins : Begins buffer front)
    (offset : Nat) (placed : front.length = offset) (more : List UInt8)
    (room : offset + more.length ≤ tuningSize) :
    ∃ next, (service.assembling buffer).write offset more = some (service.assembling next) ∧
      Begins next (front ++ more) := by
  subst placed
  obtain ⟨next, wrote, begins⟩ := begins.putAll more room
  exact ⟨next, by rw [write, assembling_tuning_buffer, wrote, Option.map_some,
    assembling_assembling], begins⟩

theorem writeFloat_begins [FloatImage F] (service : RobotControlService F σ)
    (begins : Begins buffer front) (offset : Nat) (placed : front.length = offset) (value : F)
    (room : offset + 4 ≤ tuningSize) :
    ∃ next, (service.assembling buffer).writeFloat offset value = some (service.assembling next) ∧
      Begins next (front ++ floatBytes value) := by
  subst placed
  obtain ⟨next, wrote, begins⟩ := putFloat_begins begins value room
  exact ⟨next, by rw [writeFloat, assembling_tuning_buffer, wrote, Option.map_some,
    assembling_assembling], begins⟩

/-- These bytes carry a name: its length, and as many characters. -/
def nameBytes (name : String) : List UInt8 :=
  let length := min (characters name).length maximumNameLength
  UInt8.ofNat length :: (characters name).take length

theorem nameBytes_length (name : String) :
    (nameBytes name).length = 1 + min (characters name).length maximumNameLength := by
  simp only [nameBytes, List.length_cons, List.length_take]
  omega

theorem nameBytes_length_le (name : String) : (nameBytes name).length ≤ 17 := by
  have short : min (characters name).length maximumNameLength ≤ 16 := Nat.min_le_right ..
  rw [nameBytes_length]
  omega

/-- A name is appended to what the tuning buffer begins with. -/
theorem appendName_answers (service : RobotControlService F σ) (begins : Begins buffer front)
    (offset : Nat) (placed : front.length = offset) (name : String)
    (room : offset + 17 ≤ tuningSize) :
    Answers ((service.assembling buffer).appendName offset name) service
      (front ++ nameBytes name) := by
  let length := min (characters name).length maximumNameLength
  have short : length ≤ 16 := Nat.min_le_right ..
  have taken : ((characters name).take length).length = length := by
    rw [List.length_take]
    omega
  have total : (front ++ nameBytes name).length = offset + 1 + length := by
    rw [List.length_append, placed, nameBytes_length]
    omega
  obtain ⟨counted, wrote, begins⟩ := write_begins service begins offset placed
    [UInt8.ofNat length]
    (by rw [List.length_singleton]; omega)
  obtain ⟨named, copied, begins⟩ := write_begins service begins (offset + 1)
    (by rw [List.length_append, placed, List.length_singleton]) ((characters name).take length)
    (by rw [taken]; omega)
  rw [List.append_assoc] at begins
  refine ⟨named, ?_, begins⟩
  rw [total]
  simp only [appendName, Option.bind_eq_bind, wrote, Option.bind_some, copied, length]

/-- A response starts with its status, right after the echo of the request. -/
theorem respond_answers (service : RobotControlService F σ) (begins : Begins buffer front)
    (two : front.length = 2) (status : Status) :
    Answers ((service.assembling buffer).respond status) service
      (front ++ [EnumCast.enumCast status]) := by
  have room : 2 + [(EnumCast.enumCast status : UInt8)].length ≤ tuningSize := by
    rw [List.length_singleton]
    decide
  obtain ⟨next, wrote, begins⟩ := write_begins service begins 2 two
    [EnumCast.enumCast status] room
  refine ⟨next, ?_, begins⟩
  simp only [respond, Option.bind_eq_bind, wrote, Option.bind_some, List.length_append, two,
    List.length_singleton, responseHeaderSize]

end Assembly

section Requests
variable [OperatedControl σ F]

/-- A request consists of an operation and an index, and a write also of a value. -/
def Operation.requestSize : Operation → Nat
  | .describeStrategy | .selectStrategy | .describeParameter => 2
  | .writeParameter => 6

/-- An operation indexes the strategies or the parameters of the active one. -/
def Operation.indexed (control : σ) : Operation → Nat
  | .describeStrategy | .selectStrategy => OperatedControl.strategyCount control
  | .describeParameter | .writeParameter => (OperatedControl.parameters control).length

/-- A request addresses an operation at an index when it is well formed and the index in range. -/
structure Addresses (control : σ) (data : List UInt8) (operation : Operation) (index : UInt8) :
    Prop where
  named : (data.head?).bind Operation.ofByte? = some operation
  indexed : data[1]? = some index
  sized : data.length = operation.requestSize
  inRange : index.toNat < operation.indexed control

/-- What a request of two bytes and more addresses is decided by its first two bytes and its size. -/
theorem addresses_iff {control : σ} {byte index other : UInt8} {rest : List UInt8}
    {operation : Operation} :
    Addresses control (byte :: index :: rest) operation other ↔
      Operation.ofByte? byte = some operation ∧ other = index ∧
        rest.length + 2 = operation.requestSize ∧ index.toNat < operation.indexed control := by
  constructor
  · intro addressed
    obtain ⟨named, indexed, sized, inRange⟩ := addressed
    obtain rfl : index = other := Option.some.inj indexed
    exact ⟨named, rfl, sized, inRange⟩
  · intro given
    obtain ⟨named, rfl, sized, inRange⟩ := given
    exact ⟨named, rfl, sized, inRange⟩

/-- A request addresses one operation at one index. -/
theorem Addresses.unique {control : σ} {data : List UInt8} {first second : Operation}
    {index other : UInt8} (one : Addresses control data first index)
    (another : Addresses control data second other) : first = second ∧ index = other :=
  ⟨Option.some.inj (one.named.symm.trans another.named),
    Option.some.inj (one.indexed.symm.trans another.indexed)⟩

/-- This is the status of an answered selection or write. -/
def Status.answer (accepted : Bool) : Status := if accepted then .accepted else .refused

theorem Status.answer_inj {first second : Bool} :
    Status.answer first = .answer second ↔ first = second := by
  cases first <;> cases second <;> decide

/-- An answer to a call is neither of the other statuses. -/
theorem Status.answer_ne (accepted : Bool) :
    Status.answer accepted ≠ .invalidRequest ∧ Status.answer accepted ≠ .mtuTooSmall := by
  cases accepted <;> decide

variable [FloatBits F] [FloatImage F]

/-- The tuning protocol replies to a request with a status and a body, and makes some calls. -/
inductive Reply (control : σ) (data : List UInt8) : Status → List UInt8 → List (Call F) → Prop
  | invalid (unaddressed : ∀ operation index, ¬ Addresses control data operation index) :
      Reply control data .invalidRequest [] []
  | strategy {index : UInt8} {name : String}
      (addressed : Addresses control data .describeStrategy index)
      (named : OperatedControl.strategyName control index.toNat = some name) :
      Reply control data .accepted
        (UInt8.ofNat (OperatedControl.strategyCount control) ::
          UInt8.ofNat (OperatedControl.activeStrategy control) :: nameBytes name) []
  | selected {index : UInt8} (addressed : Addresses control data .selectStrategy index) :
      Reply control data (.answer (OperatedControl.select control index.toNat).1) []
        [.select index.toNat (OperatedControl.select control index.toNat).1]
  | parameter {index : UInt8} {descriptor : ParameterDescriptor F} {value : F}
      (addressed : Addresses control data .describeParameter index)
      (described : (OperatedControl.parameters control)[index.toNat]? = some descriptor)
      (valued : OperatedControl.parameter control index.toNat = some value) :
      Reply control data .accepted
        (UInt8.ofNat (OperatedControl.parameters control).length :: (floatBytes value ++
          (floatBytes descriptor.minimum ++ (floatBytes descriptor.maximum ++
            nameBytes descriptor.name)))) []
  | written {index : UInt8} {value stored : F} {accepted : Bool} {after : σ}
      (addressed : Addresses control data .writeParameter index)
      (read : getFloat data 2 = some value)
      (answered : OperatedControl.setParameter control index.toNat value = some (accepted, after))
      (valued : OperatedControl.parameter after index.toNat = some stored) :
      Reply control data (.answer accepted) (floatBytes stored)
        [.setParameter index.toNat value accepted]

/-- The bodies leave the response within the tuning buffer. -/
theorem Reply.body_length_le {control : σ} {data : List UInt8} {status : Status}
    {body : List UInt8} {calls : List (Call F)} (reply : Reply control data status body calls) :
    body.length ≤ 30 := by
  cases reply with
  | invalid | selected | written => simp
  | strategy addressed named =>
      rename_i name
      have short := nameBytes_length_le name
      simp only [List.length_cons]
      omega
  | parameter addressed described valued =>
      rename_i descriptor _
      have short := nameBytes_length_le descriptor.name
      simp only [List.length_cons, List.length_append, floatBytes_length]
      omega

/-- A reply that reports a change fits every unit of transfer. -/
theorem Reply.body_length_of_calls {control : σ} {data : List UInt8} {status : Status}
    {body : List UInt8} {calls : List (Call F)} (reply : Reply control data status body calls)
    (long : 4 < body.length) :
    status = .accepted ∧ calls = [] ∧ ∃ index, Addresses control data .describeStrategy index ∨
      Addresses control data .describeParameter index := by
  cases reply with
  | invalid | selected | written => simp at long
  | strategy addressed named => exact ⟨rfl, rfl, _, .inl addressed⟩
  | parameter addressed described valued => exact ⟨rfl, rfl, _, .inr addressed⟩

/-- A result responds to a request when it answers with a reply, and the calls of the reply are all
that has changed besides the buffer. -/
def Responds (service : RobotControlService F σ) (data echo : List UInt8)
    (result : Option (Nat × RobotControlService F σ)) : Prop :=
  ∃ peers status body calls,
    Reply service.peers data status body calls ∧
    Answers result { service with peers, calls := service.calls ++ calls }
      (echo ++ EnumCast.enumCast status :: body)

section Responders
variable {service : RobotControlService F σ} {data echo : List UInt8}
  (begins : Begins service.tuning.buffer echo) (two : echo.length = 2)
include begins two

theorem invalid_responds
    (unaddressed : ∀ operation index, ¬ Addresses service.peers data operation index) :
    Responds service data echo (service.respond .invalidRequest) := by
  refine ⟨service.peers, .invalidRequest, [], [], .invalid unaddressed, ?_⟩
  rw [List.append_nil]
  exact respond_answers service begins two .invalidRequest

theorem selectStrategy_responds {index : UInt8}
    (addressed : Addresses service.peers data .selectStrategy index) :
    Responds service data echo (service.selectStrategy index) := by
  have inside : ¬ index.toNat ≥ OperatedControl.strategyCount service.peers :=
    Nat.not_le.mpr addressed.inRange
  refine ⟨(OperatedControl.select service.peers index.toNat).2, _, _, _, .selected addressed, ?_⟩
  rw [selectStrategy, if_neg inside]
  exact respond_answers (service.calling _ _) begins two _

variable [OperatedContract σ]

theorem describeStrategy_responds {index : UInt8}
    (addressed : Addresses service.peers data .describeStrategy index) :
    Responds service data echo (service.describeStrategy index) := by
  have inside : ¬ index.toNat ≥ OperatedControl.strategyCount service.peers :=
    Nat.not_le.mpr addressed.inRange
  obtain ⟨name, named⟩ := Option.isSome_iff_exists.mp
    (OperatedContract.named service.peers index.toNat addressed.inRange)
  refine ⟨service.peers, .accepted, _, [], .strategy addressed named, ?_⟩
  obtain ⟨answered, responded, begins⟩ := respond_answers service begins two .accepted
  obtain ⟨counted, wroteCount, begins⟩ := write_begins service begins 3 (by simp [two])
    [UInt8.ofNat (OperatedControl.strategyCount service.peers)] (by simp [tuningSize])
  obtain ⟨activated, wroteActive, begins⟩ := write_begins service begins 4
    (by simp [two]) [UInt8.ofNat (OperatedControl.activeStrategy service.peers)] (by simp [tuningSize])
  obtain ⟨last, appended, begins⟩ := appendName_answers service begins 5 (by simp [two])
    name (by decide)
  rw [assembling_self] at responded
  refine ⟨last, ?_, by simpa using begins⟩
  rw [describeStrategy, if_neg inside, List.append_nil]
  simp only [Option.bind_eq_bind, responded, Option.bind_some, wroteCount, wroteActive, named,
    appended]
  simp

theorem describeParameter_responds {index : UInt8}
    (addressed : Addresses service.peers data .describeParameter index) :
    Responds service data echo (service.describeParameter index) := by
  let descriptors := OperatedControl.parameters service.peers
  have inside : index.toNat < descriptors.length := addressed.inRange
  obtain ⟨value, valued⟩ := Option.isSome_iff_exists.mp
    (OperatedContract.valued service.peers index.toNat inside)
  let descriptor := descriptors[index.toNat]
  have described : descriptors[index.toNat]? = some descriptor := List.getElem?_eq_getElem inside
  refine ⟨service.peers, .accepted, _, [], .parameter addressed described valued, ?_⟩
  obtain ⟨answered, responded, begins⟩ := respond_answers service begins two .accepted
  obtain ⟨counted, wroteCount, begins⟩ := write_begins service begins 3 (by simp [two])
    [UInt8.ofNat descriptors.length] (by simp [tuningSize])
  obtain ⟨current, wroteValue, begins⟩ := writeFloat_begins service begins 4
    (by simp [two]) value (by decide)
  obtain ⟨bounded, wroteMinimum, begins⟩ := writeFloat_begins service begins 8
    (by simp [two]) descriptor.minimum (by decide)
  obtain ⟨ranged, wroteMaximum, begins⟩ := writeFloat_begins service begins 12
    (by simp [two]) descriptor.maximum (by decide)
  obtain ⟨last, appended, begins⟩ := appendName_answers service begins 16
    (by simp [two]) descriptor.name (by decide)
  rw [assembling_self] at responded
  refine ⟨last, ?_, by simpa using begins⟩
  unfold describeParameter
  dsimp only
  rw [described]
  simp only [Option.bind_eq_bind, responded, Option.bind_some, wroteCount, valued, wroteValue,
    wroteMinimum, wroteMaximum, appended, descriptors]
  simp

theorem writeParameter_responds {index : UInt8}
    (addressed : Addresses service.peers data .writeParameter index) :
    Responds service data echo (service.writeParameter index data) := by
  have allowed : ¬ (data.length ≠ 6 ∨
      index.toNat ≥ (OperatedControl.parameters service.peers).length) := by
    rw [not_or]
    exact ⟨not_not.mpr addressed.sized, Nat.not_le.mpr addressed.inRange⟩
  obtain ⟨value, read⟩ : ∃ value : F, getFloat data 2 = some value :=
    getFloat_answers (addressed.sized.symm.le)
  obtain ⟨⟨accepted, peers⟩, wrote⟩ := Option.isSome_iff_exists.mp
    (OperatedContract.answered service.peers index.toNat value addressed.inRange)
  have still : index.toNat < (OperatedControl.parameters peers).length := by
    rw [OperatedContract.kept _ _ _ _ _ wrote]
    exact addressed.inRange
  obtain ⟨stored, valued⟩ := Option.isSome_iff_exists.mp
    (OperatedContract.valued peers index.toNat still)
  refine ⟨peers, _, _, _, .written addressed read wrote valued, ?_⟩
  let called := service.calling (.setParameter index.toNat value accepted) peers
  obtain ⟨answered, responded, begins⟩ := respond_answers called begins two (.answer accepted)
  obtain ⟨last, wroteStored, begins⟩ := writeFloat_begins called begins
    responseHeaderSize (by simp [two, responseHeaderSize]) stored (by decide)
  change called.respond _ = _ at responded
  rw [Status.answer] at responded
  refine ⟨last, ?_, by simpa using begins⟩
  rw [writeParameter, if_neg allowed]
  simp only [Option.bind_eq_bind, read, Option.bind_some, wrote, called, responded, valued,
    wroteStored]
  simp [two, responseHeaderSize, calling]

omit [OperatedContract σ] begins two in
/-- A request that addresses an operation is answered by it. -/
theorem responseTo_addressed {operation : Operation} {index : UInt8}
    (addressed : Addresses service.peers data operation index) :
    service.responseTo data = match operation with
      | .describeStrategy => service.describeStrategy index
      | .selectStrategy => service.selectStrategy index
      | .describeParameter => service.describeParameter index
      | .writeParameter => service.writeParameter index data := by
  rcases data with _ | ⟨byte, _ | ⟨second, rest⟩⟩
  · cases addressed.indexed
  · cases addressed.indexed
  · obtain ⟨named, rfl, sized, -⟩ := addresses_iff.mp addressed
    have alone : operation.requestSize = 2 → rest.isEmpty = true := by
      intro short
      rw [List.isEmpty_iff_length_eq_zero]
      omega
    simp only [responseTo, named]
    cases operation with
    | describeStrategy | selectStrategy | describeParameter => exact if_pos (alone rfl)
    | writeParameter => rfl

omit [OperatedContract σ] begins two in
/-- A request that addresses nothing is invalid. -/
theorem responseTo_unaddressed
    (unaddressed : ∀ operation index, ¬ Addresses service.peers data operation index) :
    service.responseTo data = service.respond .invalidRequest := by
  rcases data with _ | ⟨byte, _ | ⟨index, rest⟩⟩
  · rfl
  · rfl
  · cases named : Operation.ofByte? byte with
    | none => simp only [responseTo, named]
    | some operation =>
        -- only the size or the range can be wrong
        have outside : rest.length + 2 = operation.requestSize →
            operation.indexed service.peers ≤ index.toNat := by
          intro sized
          by_contra inside
          exact unaddressed operation index
            (addresses_iff.mpr ⟨named, rfl, sized, Nat.lt_of_not_le inside⟩)
        have indexOnly : operation.requestSize = 2 → ∀ answer, (operation.indexed service.peers ≤
            index.toNat → answer = service.respond .invalidRequest) →
            (if rest.isEmpty = true then answer else service.respond .invalidRequest) =
              service.respond .invalidRequest := by
          intro short answer refused
          split
          · rename_i alone
            rw [List.isEmpty_iff.mp alone, short] at outside
            exact refused (outside rfl)
          · rfl
        simp only [responseTo, named]
        cases operation with
        | describeStrategy | selectStrategy => exact indexOnly rfl _ fun beyond => if_pos beyond
        | describeParameter =>
            refine indexOnly rfl _ fun beyond => ?_
            unfold describeParameter
            dsimp only
            rw [List.getElem?_eq_none beyond]
        | writeParameter =>
            refine if_pos ?_
            by_cases sized : rest.length + 2 = 6
            · exact .inr (outside sized)
            · exact .inl sized

/-- Every request gets a reply. -/
theorem responseTo_responds (data : List UInt8) :
    Responds service data echo (service.responseTo data) := by
  by_cases found : ∃ operation index, Addresses service.peers data operation index
  · obtain ⟨operation, index, addressed⟩ := found
    rw [responseTo_addressed addressed]
    cases operation with
    | describeStrategy => exact describeStrategy_responds begins two addressed
    | selectStrategy => exact selectStrategy_responds begins two addressed
    | describeParameter => exact describeParameter_responds begins two addressed
    | writeParameter => exact writeParameter_responds begins two addressed
  · have unaddressed : ∀ operation index, ¬ Addresses service.peers data operation index := by
      intro operation index addressed
      exact found ⟨operation, index, addressed⟩
    rw [responseTo_unaddressed unaddressed]
    exact invalid_responds begins two unaddressed

end Responders

omit [OperatedControl σ F] [FloatBits F] [FloatImage F] in
/-- A response is handed over as it is when it fits the unit of transfer, and as a short refusal
otherwise. -/
theorem sendResponse_hands (service : RobotControlService F σ) {buffer : Vector UInt8 tuningSize}
    {bytes : List UInt8} (begins : Begins buffer bytes) (headed : 3 ≤ bytes.length) :
    ∃ next response,
      (service.assembling buffer).sendResponse bytes.length = some
        { service with tuning := { service.tuning with buffer := next }.hand response.length } ∧
      Begins next response ∧
      ((service.fits bytes.length = true ∧ response = bytes) ∨
        (service.fits bytes.length = false ∧
          response = bytes.take 2 ++ [EnumCast.enumCast Status.mtuTooSmall])) := by
  have same : (service.assembling buffer).fits bytes.length = service.fits bytes.length := rfl
  cases fit : service.fits bytes.length with
  | true =>
      refine ⟨buffer, bytes, ?_, begins, .inl ⟨rfl, rfl⟩⟩
      have within : bytes.length ≤ tuningSize := begins.length_le
      simp only [sendResponse, same, fit, Bool.not_true, Bool.false_eq_true, if_false,
        Option.bind_some, if_pos within]
      rfl
  | false =>
      have two : (bytes.take 2).length = 2 := by
        rw [List.length_take]
        omega
      obtain ⟨next, responded, shortened⟩ :=
        respond_answers service (begins.take 2) two .mtuTooSmall
      refine ⟨next, _, ?_, shortened, .inr ⟨rfl, rfl⟩⟩
      have within := shortened.length_le
      simp only [sendResponse, same, fit, Bool.not_false, if_true, responded, Option.bind_some,
        if_pos within]
      rfl

/-- The verdict on a request is a status that tells the calls that the request has made. -/
structure Verdict (control : σ) (data : List UInt8) (status : Status) (calls : List (Call F)) :
    Prop where
  selected : ∀ accepted, (data.head?.bind Operation.ofByte? = some .selectStrategy ∧
      status = .answer accepted) ↔
    ∃ index, Addresses control data .selectStrategy index ∧
      (OperatedControl.select control index.toNat).1 = accepted ∧
      calls = [.select index.toNat accepted]
  written : ∀ accepted, (data.head?.bind Operation.ofByte? = some .writeParameter ∧
      status = .answer accepted) ↔
    ∃ index, Addresses control data .writeParameter index ∧ ∃ value after,
      getFloat data 2 = some value ∧
      OperatedControl.setParameter control index.toNat value = some (accepted, after) ∧
      calls = [.setParameter index.toNat value accepted]
  invalid : status = .invalidRequest ↔ ∀ operation index, ¬ Addresses control data operation index
  untouched : status = .invalidRequest → calls = []
  described : status = .mtuTooSmall → calls = [] ∧ ∃ index,
    Addresses control data .describeStrategy index ∨ Addresses control data .describeParameter index

/-- A response is sound for a request when it stays within the buffer and the unit of transfer,
starts with the echo of the request, and gives the verdict on it. -/
structure Sound (control : σ) (mtu : UInt16) (data response : List UInt8) (status : Status)
    (calls : List (Call F)) : Prop extends Verdict control data status calls where
  within : response.length ≤ tuningSize
  fits : response.length + attributeValueHeaderSize ≤ mtu.toNat
  header : response.take responseHeaderSize =
    [data.getD 0 0, data.getD 1 0, EnumCast.enumCast status]

section Verdicts
variable {control : σ} {data : List UInt8}
omit [FloatBits F] [FloatImage F]

/-- A request that addresses one operation is answered by no other. -/
theorem unanswered {operation other : Operation} {index : UInt8}
    (addressed : Addresses control data operation index) (different : operation ≠ other)
    (status : Status) (accepted : Bool) (effect : UInt8 → Prop) :
    (data.head?.bind Operation.ofByte? = some other ∧ status = .answer accepted) ↔
      ∃ index, Addresses control data other index ∧ effect index := by
  constructor
  · intro given
    exact absurd (Option.some.inj (addressed.named.symm.trans given.1)) different
  · intro given
    obtain ⟨index, again, -⟩ := given
    exact absurd (addressed.unique again).1 different

/-- A request that addresses an operation is not invalid. -/
theorem not_invalid {operation : Operation} {index : UInt8} {status : Status}
    (addressed : Addresses control data operation index) (valid : status ≠ .invalidRequest) :
    status = .invalidRequest ↔ ∀ operation index, ¬ Addresses control data operation index := by
  constructor
  · intro invalid
    exact absurd invalid valid
  · intro unaddressed
    exact absurd addressed (unaddressed operation index)

variable [FloatBits F]

/-- A description has the same verdict whether or not it is handed over. -/
theorem described_verdict {index : UInt8} {status : Status}
    (addressed : Addresses control data .describeStrategy index ∨
      Addresses control data .describeParameter index) (valid : status ≠ .invalidRequest) :
    Verdict control data status [] := by
  have described : status = .mtuTooSmall → ([] : List (Call F)) = [] ∧ ∃ index,
      Addresses control data .describeStrategy index ∨
        Addresses control data .describeParameter index := fun _ => ⟨rfl, index, addressed⟩
  rcases addressed with addressed | addressed
  · exact {
      selected := fun accepted => unanswered addressed (by nofun) status accepted _
      written := fun accepted => unanswered addressed (by nofun) status accepted _
      invalid := not_invalid addressed valid
      untouched := fun _ => rfl
      described }
  · exact {
      selected := fun accepted => unanswered addressed (by nofun) status accepted _
      written := fun accepted => unanswered addressed (by nofun) status accepted _
      invalid := not_invalid addressed valid
      untouched := fun _ => rfl
      described }

/-- A reply carries the verdict on its request. -/
theorem Reply.verdict [FloatImage F] {status : Status} {body : List UInt8} {calls : List (Call F)}
    (reply : Reply control data status body calls) : Verdict control data status calls := by
  cases reply with
  | invalid unaddressed =>
      exact {
        selected := fun accepted => by
          constructor
          · intro given
            exact absurd given.2.symm (Status.answer_ne accepted).1
          · intro given
            obtain ⟨index, addressed, -⟩ := given
            exact absurd addressed (unaddressed _ index)
        written := fun accepted => by
          constructor
          · intro given
            exact absurd given.2.symm (Status.answer_ne accepted).1
          · intro given
            obtain ⟨index, addressed, -⟩ := given
            exact absurd addressed (unaddressed _ index)
        invalid := ⟨fun _ => unaddressed, fun _ => rfl⟩
        untouched := fun _ => rfl
        described := fun tooSmall => by cases tooSmall }
  | strategy addressed named => exact described_verdict (.inl addressed) (by decide)
  | parameter addressed described valued => exact described_verdict (.inr addressed) (by decide)
  | selected addressed =>
      rename_i index
      exact {
        selected := fun accepted => by
          constructor
          · intro given
            obtain rfl := Status.answer_inj.mp given.2
            exact ⟨index, addressed, rfl, rfl⟩
          · intro given
            obtain ⟨other, again, answered, -⟩ := given
            obtain rfl := (addressed.unique again).2
            exact ⟨addressed.named, by rw [answered]⟩
        written := fun accepted => unanswered addressed (by nofun) _ accepted _
        invalid := not_invalid addressed (Status.answer_ne _).1
        untouched := fun invalid => absurd invalid (Status.answer_ne _).1
        described := fun tooSmall => absurd tooSmall (Status.answer_ne _).2 }
  | written addressed read answered valued =>
      rename_i index value stored answer after
      exact {
        selected := fun accepted => unanswered addressed (by nofun) _ accepted _
        written := fun accepted => by
          constructor
          · intro given
            obtain rfl := Status.answer_inj.mp given.2
            exact ⟨index, addressed, value, after, read, answered, rfl⟩
          · intro given
            obtain ⟨other, again, _, _, reread, reanswered, -⟩ := given
            obtain rfl := (addressed.unique again).2
            obtain rfl := Option.some.inj (read.symm.trans reread)
            obtain ⟨same, -⟩ := Prod.mk.inj (Option.some.inj (answered.symm.trans reanswered))
            exact ⟨addressed.named, by rw [same]⟩
        invalid := not_invalid addressed (Status.answer_ne _).1
        untouched := fun invalid => absurd invalid (Status.answer_ne _).1
        described := fun tooSmall => absurd tooSmall (Status.answer_ne _).2 }

end Verdicts

/-- A reply that fits the unit of transfer makes a sound response. -/
theorem Reply.sound_whole {control : σ} {mtu : UInt16} {data : List UInt8} {status : Status}
    {body : List UInt8} {calls : List (Call F)} (reply : Reply control data status body calls)
    (fit : body.length + 3 + attributeValueHeaderSize ≤ mtu.toNat) :
    Sound control mtu data (data.getD 0 0 :: data.getD 1 0 :: EnumCast.enumCast status :: body)
      status calls where
  toVerdict := reply.verdict
  within := by
    have short := reply.body_length_le
    simp only [List.length_cons, tuningSize]
    omega
  fits := fit
  header := rfl

/-- A reply that does not fit is a description, and its short refusal is a sound response. -/
theorem Reply.sound_short {control : σ} {mtu : UInt16} {data : List UInt8} {status : Status}
    {body : List UInt8} {calls : List (Call F)} (reply : Reply control data status body calls)
    (floor : attDefaultMaxMtuSize.toNat ≤ mtu.toNat)
    (unfit : ¬ body.length + 3 + attributeValueHeaderSize ≤ mtu.toNat) :
    Sound control mtu data [data.getD 0 0, data.getD 1 0, EnumCast.enumCast Status.mtuTooSmall]
      .mtuTooSmall calls := by
  have room : 23 ≤ mtu.toNat := floor
  have long : 4 < body.length := by
    rw [attributeValueHeaderSize] at unfit
    omega
  obtain ⟨-, rfl, index, addressed⟩ := reply.body_length_of_calls long
  exact {
    toVerdict := described_verdict addressed (by decide)
    within := by simp [tuningSize]
    fits := by
      simp only [List.length_cons, List.length_nil, attributeValueHeaderSize]
      omega
    header := rfl }

variable [OperatedContract σ]

/-- A tuning write that finds no response in flight hands over one sound response. -/
theorem tuningWrites_sound (service : RobotControlService F σ)
    (free : service.tuning.inFlight = false)
    (floor : attDefaultMaxMtuSize.toNat ≤ service.mtu.toNat) (data : List UInt8) :
    ∃ peers status calls buffer response,
      service.tuningWrites data = some { service with
        peers
        calls := service.calls ++ calls
        tuning := { service.tuning with buffer }.hand response.length } ∧
      Begins buffer response ∧ Sound service.peers service.mtu data response status calls := by
  obtain ⟨operated, wroteFirst, begins⟩ := write_begins service (begins_nil service.tuning.buffer)
    0 rfl [data.getD 0 0] (by simp [tuningSize])
  obtain ⟨indexed, wroteSecond, begins⟩ := write_begins service begins 1 rfl
    [data.getD 1 0] (by simp [tuningSize])
  obtain ⟨peers, status, body, calls, reply, assembled, answered, begins⟩ :=
    @responseTo_responds _ _ _ _ _ (service.assembling indexed) _ begins rfl _ data
  let acted : RobotControlService F σ := { service with peers, calls := service.calls ++ calls }
  obtain ⟨next, response, sent, begins, answer⟩ :=
    sendResponse_hands acted begins (by simp)
  refine ⟨peers, ?_⟩
  have handed : service.tuningWrites data = some { service with
      peers
      calls := service.calls ++ calls
      tuning := { service.tuning with buffer := next }.hand response.length } := by
    rw [tuningWrites, free, if_neg Bool.false_ne_true]
    rw [assembling_self] at wroteFirst
    simp only [Option.bind_eq_bind, wroteFirst, Option.bind_some, wroteSecond, answered]
    exact sent
  rcases answer with ⟨fit, rfl⟩ | ⟨unfit, rfl⟩
  · refine ⟨status, calls, next, _, handed, begins, reply.sound_whole ?_⟩
    simpa [fits] using fit
  · refine ⟨.mtuTooSmall, calls, next, _, handed, begins, reply.sound_short floor ?_⟩
    simpa [fits] using unfit

omit [OperatedContract σ] [FloatImage F] in
/-- A request is answered once when the tuning characteristic is handed one sound response, and the
other characteristics nothing. -/
def AnsweredOnce (service : RobotControlService F σ) (control : σ) (data : List UInt8)
    (after : RobotControlService F σ) : Prop :=
  ∃ response status,
    after.tuning.inFlight = true ∧
    after.tuning.handed = service.tuning.handed + 1 ∧
    after.tuning.outstanding =
      service.tuning.outstanding ++ [⟨service.tuning.handed, response⟩] ∧
    after.mode = service.mode ∧
    after.telemetryValue = service.telemetryValue ∧
    Sound control service.mtu data response status after.calls

variable [SafetySupervisor σ] [TelemetrySource σ F]

/-- In every reachable state with no response in flight, every request is answered once, whatever
balance control holds. -/
theorem tuning_answered_once {initial : σ} {config : Config} {service : RobotControlService F σ}
    (reached : machine.Reachable (construct initial config) service)
    (free : service.tuning.inFlight = false) (control : σ) (data : List UInt8) :
    ∃ after, machine.step service (control, .tuningWritten data) = some after ∧
      service.AnsweredOnce control data after := by
  have floor := default_le_mtu reached
  obtain ⟨peers, status, calls, buffer, response, wrote, begins, sound⟩ :=
    (service.attend control).tuningWrites_sound free floor data
  refine ⟨_, wrote, response, status, rfl, rfl, ?_, rfl, rfl, sound⟩
  have front : ({ service.tuning with buffer }).front response.length = response := begins
  show _ ++ [Update.mk _ (({ service.tuning with buffer }).front response.length)] = _
  rw [front]
  rfl

end Requests

/-- A gain is written right after the firmware is powered. -/
theorem gain_write_answered_once : ∃ firmware after, Application.Firmware.powered = some firmware ∧
    machine.step (construct firmware .default) (firmware, .tuningWritten [4, 0, 0, 0, 128, 63]) =
      some after ∧
    (construct firmware .default).AnsweredOnce firmware [4, 0, 0, 0, 128, 63] after := by
  obtain ⟨firmware, powered⟩ := Option.isSome_iff_exists.mp
    (by decide +kernel : Application.Firmware.powered.isSome = true)
  have reached := Machine.Reachable.refl machine (construct firmware .default)
  obtain ⟨after, answered⟩ := tuning_answered_once reached rfl firmware [4, 0, 0, 0, 128, 63]
  exact ⟨firmware, after, powered, answered⟩

end RobotControlService
end InvertedPendulum.Link
