import InvertedPendulum.Application.Replies
import InvertedPendulum.Link.TuningProtocol
import InvertedPendulum.Storage.Bank

namespace InvertedPendulum.Application
open Platform Motion Odometry Estimation Sensing Control Balance Safety Telemetry Link Cli Reactive
  Machine Wire Storage

section Control
variable {F S σ : Type} [FloatArithmetic F] [ControlStrategy S F]

/-- The registers of the bank are the parameters, in a file for each strategy. -/
def bank (control : BalanceControlImpl F S σ) : Bank F := control.configuration

omit [FloatArithmetic F] in
/-- The bank reads the parameters of the active strategy. -/
theorem bank_read (control : BalanceControlImpl F S σ) (index : Nat) :
    (bank control).read index = ControlStrategy.parameter control.strategy index := by
  have active : (bank control).2[control.active]? =
      some (ControlStrategy.parameter control.strategy) := by
    show (control.strategies.map ControlStrategy.parameter)[control.active]? = _
    rw [List.getElem?_map, List.getElem?_eq_getElem control.activeInRange]
    rfl
  show ((bank control).2[control.active]?).bind _ = _
  rw [active, Option.bind_some]

omit [FloatArithmetic F] in
/-- The active file is one of the files. -/
theorem bank_inside (control : BalanceControlImpl F S σ) :
    (bank control).1 < (bank control).2.length := by
  show control.active < (control.strategies.map ControlStrategy.parameter).length
  rw [List.length_map]
  exact control.activeInRange

omit [FloatArithmetic F] in
theorem select_changes {control after : BalanceControlImpl F S σ} {index : Nat}
    (accepted : control.select index = (true, after)) :
    bank after = (bank control).change (.select index) := by
  obtain ⟨-, -, active, strategies⟩ := BalanceControlImpl.select_accepted accepted
  show (after.active, after.strategies.map ControlStrategy.parameter) = _
  rw [active, strategies]
  rfl

theorem setParameter_changes [StrategyContract S] {control after : BalanceControlImpl F S σ}
    {index : Nat} {value : F} (accepted : control.setParameter index value = some (true, after)) :
    bank after = (bank control).change (.write index value) := by
  obtain ⟨-, descriptor, written, -, -, -, wrote, rfl⟩ :=
    BalanceControlImpl.setParameter_accepted accepted
  have stored := (StrategyContract.addressed _ _ _ _ wrote).2
  refine Prod.ext rfl ?_
  show (control.update written).strategies.map ControlStrategy.parameter =
    (control.strategies.map ControlStrategy.parameter).modify control.active _
  rw [BalanceControlImpl.update_map, stored, List.modify_eq_set, List.getElem?_map,
    List.getElem?_eq_getElem control.activeInRange]
  rfl

end Control
section Link
variable {F σ : Type} [OperatedControl σ F]

open RobotControlService

/-- The calls that a tuning request has added tell what the peers have become. -/
theorem tunedBy_peers {service called : RobotControlService F σ} {request : Option (Tuning F)}
    (tuned : service.tunedBy request = some called) :
    (request = none ∧ called = service) ∨
      (∃ index, request = some (.select index) ∧
        called.peers = (OperatedControl.select service.peers index).2 ∧
        called.calls = service.calls ++
          [.select index (OperatedControl.select service.peers index).1]) ∨
      ∃ index value accepted, request = some (.setParameter index value) ∧
        OperatedControl.setParameter service.peers index value = some (accepted, called.peers) ∧
        called.calls = service.calls ++ [.setParameter index value accepted] := by
  cases request with
  | none => exact .inl ⟨rfl, (Option.some.inj tuned).symm⟩
  | some request =>
      cases request with
      | select index =>
          obtain rfl := Option.some.inj tuned
          exact .inr (.inl ⟨index, rfl, rfl, rfl⟩)
      | setParameter index value =>
          obtain ⟨⟨accepted, peers⟩, stored, rfl⟩ := Option.map_eq_some_iff.mp tuned
          exact .inr (.inr ⟨index, value, accepted, rfl, stored, rfl⟩)

/-- A call to select that was made has changed the peers. -/
theorem tunedBy_select {service called : RobotControlService F σ} {request : Option (Tuning F)}
    (tuned : service.tunedBy request = some called) {index : Nat} {accepted : Bool}
    (made : called.calls = service.calls ++ [.select index accepted]) :
    OperatedControl.select service.peers index = (accepted, called.peers) := by
  rcases tunedBy_peers tuned with ⟨-, rfl⟩ | ⟨other, -, peers, calls⟩ |
    ⟨other, value, answer, -, -, calls⟩
  · have longer := congrArg List.length made
    simp at longer
  · obtain ⟨call, -⟩ := List.cons.inj (List.append_cancel_left (calls.symm.trans made))
    obtain ⟨rfl, rfl⟩ := Call.select.inj call
    rw [peers]
  · obtain ⟨call, -⟩ := List.cons.inj (List.append_cancel_left (calls.symm.trans made))
    cases call

/-- A call to write that was made has changed the peers. -/
theorem tunedBy_write {service called : RobotControlService F σ} {request : Option (Tuning F)}
    (tuned : service.tunedBy request = some called) {index : Nat} {value : F} {accepted : Bool}
    (made : called.calls = service.calls ++ [.setParameter index value accepted]) :
    OperatedControl.setParameter service.peers index value = some (accepted, called.peers) := by
  rcases tunedBy_peers tuned with ⟨-, rfl⟩ | ⟨other, -, -, calls⟩ |
    ⟨other, float, answer, -, stored, calls⟩
  · have longer := congrArg List.length made
    simp at longer
  · obtain ⟨call, -⟩ := List.cons.inj (List.append_cancel_left (calls.symm.trans made))
    cases call
  · obtain ⟨call, -⟩ := List.cons.inj (List.append_cancel_left (calls.symm.trans made))
    obtain ⟨rfl, rfl, rfl⟩ := Call.setParameter.inj call
    exact stored

variable [FloatBits F]

/-- A selection that is requested is addressed. -/
theorem request_select {service : RobotControlService F σ} {data : List UInt8} {index : Nat}
    (requested : service.request data = some (.select index)) :
    ∃ addressed, Addresses service.peers data .selectStrategy addressed ∧
      addressed.toNat = index := by
  unfold RobotControlService.request tuningWritten at requested
  rw [if_neg Bool.false_ne_true] at requested
  rcases data with _ | ⟨operation, _ | ⟨addressed, rest⟩⟩
  · cases requested
  · cases requested
  · dsimp only at requested
    split at requested
    · rename_i named
      obtain ⟨⟨alone, inRange⟩, same⟩ := Option.ite_none_right_eq_some.mp requested
      obtain ⟨rfl⟩ := Option.some.inj same
      refine ⟨addressed, addresses_iff.mpr ⟨named, rfl, ?_, inRange⟩, rfl⟩
      rw [List.isEmpty_iff.mp alone]
      rfl
    · obtain ⟨-, mapped⟩ := Option.ite_none_right_eq_some.mp requested
      obtain ⟨value, -, same⟩ := Option.map_eq_some_iff.mp mapped
      cases same
    · cases requested

/-- A write that is requested is addressed, and its value is read. -/
theorem request_write {service : RobotControlService F σ} {data : List UInt8} {index : Nat}
    {value : F} (requested : service.request data = some (.setParameter index value)) :
    ∃ addressed, Addresses service.peers data .writeParameter addressed ∧
      addressed.toNat = index ∧ getFloat data 2 = some value := by
  unfold RobotControlService.request tuningWritten at requested
  rw [if_neg Bool.false_ne_true] at requested
  rcases data with _ | ⟨operation, _ | ⟨addressed, rest⟩⟩
  · cases requested
  · cases requested
  · dsimp only at requested
    split at requested
    · obtain ⟨-, same⟩ := Option.ite_none_right_eq_some.mp requested
      cases Option.some.inj same
    · rename_i named
      obtain ⟨⟨sized, inRange⟩, mapped⟩ := Option.ite_none_right_eq_some.mp requested
      obtain ⟨float, read, same⟩ := Option.map_eq_some_iff.mp mapped
      obtain ⟨rfl, rfl⟩ := Tuning.setParameter.inj same
      refine ⟨addressed, addresses_iff.mpr ⟨named, rfl, ?_, inRange⟩, rfl, read⟩
      rw [sized]
      rfl
    · cases requested

/-- A response promises the change that its request addresses. -/
inductive Promises (data response : List UInt8) : Change F → Prop
  | select {index : UInt8} (named : data.head?.bind Operation.ofByte? = some .selectStrategy)
      (indexed : data[1]? = some index)
      (accepted : response[2]? = some (EnumCast.enumCast Status.accepted)) :
      Promises data response (.select index.toNat)
  | write {index : UInt8} {value : F}
      (named : data.head?.bind Operation.ofByte? = some .writeParameter)
      (indexed : data[1]? = some index) (read : getFloat data 2 = some value)
      (accepted : response[2]? = some (EnumCast.enumCast Status.accepted)) :
      Promises data response (.write index.toNat value)

/-- The tuning characteristic is handed a response. -/
def Hands (before after : RobotControlService F σ) (response : List UInt8) : Prop :=
  after.tuning.outstanding = before.tuning.outstanding ++ [⟨before.tuning.handed, response⟩]

omit [OperatedControl σ F] [FloatBits F] in
theorem Hands.unique {before after : RobotControlService F σ} {first second : List UInt8}
    (one : Hands before after first) (other : Hands before after second) : first = second := by
  have same := List.append_cancel_left (one.symm.trans other)
  obtain ⟨update, -⟩ := List.cons.inj same
  exact (Update.mk.inj update).2

omit [OperatedControl σ F] [FloatBits F] in
/-- A status is known by its byte. -/
theorem status_injective {first second : Status}
    (same : (EnumCast.enumCast first : UInt8) = EnumCast.enumCast second) : first = second := by
  cases first <;> cases second <;> first | rfl | cases same

end Link

section Firmware
variable {F S τ : Type} [FloatArithmetic F] [ControlStrategy S F]

open RobotControlService

/-- A selection that was accepted changes the bank, and one that was refused leaves it. -/
theorem selected_follows {firmware after : Firmware F S τ} {index : Nat} {accepted : Bool}
    (selected : OperatedControl.select firmware index = (accepted, after)) :
    bank after.control = if accepted then (bank firmware.control).change (.select index)
      else bank firmware.control := by
  cases answer : firmware.control.select index with
  | mk verdict control =>
    have mapped : OperatedControl.select firmware index = (verdict, firmware.withControl control) :=
      congrArg (Prod.map id firmware.withControl) answer
    obtain ⟨rfl, rfl⟩ := Prod.mk.inj (mapped.symm.trans selected)
    cases verdict with
    | true => exact select_changes answer
    | false => exact congrArg bank (BalanceControlImpl.select_refused answer)

variable [StrategyContract S]

/-- A write that was accepted changes the bank, and one that was refused leaves it. -/
theorem written_follows {firmware after : Firmware F S τ} {index : Nat} {value : F} {accepted : Bool}
    (stored : OperatedControl.setParameter firmware index value = some (accepted, after)) :
    bank after.control = if accepted then (bank firmware.control).change (.write index value)
      else bank firmware.control := by
  obtain ⟨⟨verdict, control⟩, answer, same⟩ := Option.map_eq_some_iff.mp stored
  obtain ⟨rfl, rfl⟩ := Prod.mk.inj same
  cases verdict with
  | true => exact setParameter_changes answer
  | false => exact congrArg bank (BalanceControlImpl.setParameter_refused answer)

variable [FloatBits F] [FloatImage F] {service after : RobotControlService F (Firmware F S τ)}
  {data : List UInt8}

/-- A tuning write that finds no response in flight makes the call that it requests, and its response
gives the verdict on it. -/
theorem tuningWrites_decides (floor : attDefaultMaxMtuSize.toNat ≤ service.mtu.toNat)
    (free : service.tuning.inFlight = false) (wrote : service.tuningWrites data = some after) :
    ∃ status calls called response,
      Hands service after response ∧ response[2]? = some (EnumCast.enumCast status) ∧
      Verdict service.peers data status calls ∧
      service.tunedBy (service.request data) = some called ∧ after.peers = called.peers ∧
      called.calls = service.calls ++ calls := by
  obtain ⟨peers, status, calls, buffer, response, answered, begins, sound⟩ :=
    service.tuningWrites_sound free floor data
  have told : response[2]? = some (EnumCast.enumCast status) := by
    have third := congrArg (·[2]?) sound.header
    simpa [responseHeaderSize] using third
  have front : ({ service.tuning with buffer }).front response.length = response := begins
  have handed : Hands service { service with
      peers
      calls := service.calls ++ calls
      tuning := { service.tuning with buffer }.hand response.length } response := by
    show _ ++ [Update.mk _ (({ service.tuning with buffer }).front response.length)] = _
    rw [front]
  rcases tuningWrites_decoded wrote with ⟨flying, -⟩ | ⟨-, called, filled, length, tuned, same⟩
  · rw [free] at flying
    cases flying
  have made : called.calls = after.calls := by rw [same]
  have peers : after.peers = called.peers := by rw [same]
  obtain rfl := Option.some.inj (answered.symm.trans wrote)
  exact ⟨status, calls, called, response, handed, told, sound.toVerdict, tuned, peers, made⟩

omit [StrategyContract S] in
/-- A tuning write that is ignored is handed no response. -/
theorem hands_free (wrote : service.tuningWrites data = some after) {response : List UInt8}
    (handed : Hands service after response) : service.tuning.inFlight = false := by
  rcases tuningWrites_decoded wrote with ⟨-, rfl⟩ | ⟨free, -⟩
  · have longer := congrArg List.length handed
    simp at longer
  · exact free

/-- A tuning write changes the bank as its response promises. -/
theorem tuningWrites_promised (floor : attDefaultMaxMtuSize.toNat ≤ service.mtu.toNat)
    (wrote : service.tuningWrites data = some after) {response : List UInt8} {change : Change F}
    (handed : Hands service after response) (promised : Promises data response change) :
    bank after.peers.control = (bank service.peers.control).change change := by
  obtain ⟨status, calls, called, sent, hands, told, verdict, tuned, peers, made⟩ :=
    tuningWrites_decides floor (hands_free wrote handed) wrote
  obtain rfl := handed.unique hands
  rw [peers]
  cases promised with
  | select named indexed accepted =>
      have answered : status = .answer true :=
        status_injective (Option.some.inj (told.symm.trans accepted))
      obtain ⟨addressed, addresses, -, rfl⟩ := (verdict.selected true).mp ⟨named, answered⟩
      obtain rfl := Option.some.inj (indexed.symm.trans addresses.indexed)
      exact selected_follows (tunedBy_select tuned made)
  | write named indexed read accepted =>
      have answered : status = .answer true :=
        status_injective (Option.some.inj (told.symm.trans accepted))
      obtain ⟨addressed, addresses, value, written, reread, -, rfl⟩ :=
        (verdict.written true).mp ⟨named, answered⟩
      obtain rfl := Option.some.inj (indexed.symm.trans addresses.indexed)
      obtain rfl := Option.some.inj (reread.symm.trans read)
      exact written_follows (tunedBy_write tuned made)

/-- A tuning write whose response promises nothing leaves the bank. -/
theorem tuningWrites_silent (floor : attDefaultMaxMtuSize.toNat ≤ service.mtu.toNat)
    (wrote : service.tuningWrites data = some after)
    (silent : ∀ response (change : Change F), Hands service after response →
      ¬ Promises data response change) :
    bank after.peers.control = bank service.peers.control := by
  cases busy : service.tuning.inFlight with
  | true =>
      have ignored : service.tuningWrites data = some service := if_pos busy
      obtain rfl := Option.some.inj (ignored.symm.trans wrote)
      rfl
  | false =>
      obtain ⟨status, calls, called, response, handed, told, verdict, tuned, peers, made⟩ :=
        tuningWrites_decides floor busy wrote
      rw [peers]
      rcases tunedBy_peers tuned with ⟨-, rfl⟩ | ⟨index, requested, -, called⟩ |
        ⟨index, value, accepted, requested, stored, called⟩
      · rfl
      · obtain ⟨addressed, addresses, rfl⟩ := request_select requested
        have follows := selected_follows (tunedBy_select tuned called)
        have calls := List.append_cancel_left (made.symm.trans called)
        cases answer : (OperatedControl.select service.peers addressed.toNat).1 with
        | false =>
            rw [answer] at follows
            exact follows
        | true =>
            rw [answer] at calls
            obtain ⟨named, rfl⟩ := (verdict.selected true).mpr ⟨addressed, addresses, answer, calls⟩
            exact absurd (.select named addresses.indexed told) (silent response _ handed)
      · obtain ⟨addressed, addresses, rfl, read⟩ := request_write requested
        have follows := written_follows stored
        have calls := List.append_cancel_left (made.symm.trans called)
        cases accepted with
        | false => exact follows
        | true =>
            obtain ⟨named, rfl⟩ :=
              (verdict.written true).mpr ⟨addressed, addresses, value, _, read, stored, calls⟩
            exact absurd (.write named addresses.indexed read told) (silent response _ handed)

/-- A tuning write that finds no response in flight is handed a reply, or a refusal if it does not
fit. -/
theorem tuningWrites_replies (free : service.tuning.inFlight = false)
    (wrote : service.tuningWrites data = some after) :
    ∃ status body calls response, RobotControlService.Reply service.peers data status body calls ∧
      Hands service after response ∧
      (response = data.getD 0 0 :: data.getD 1 0 :: EnumCast.enumCast status :: body ∨
        response[2]? = some (EnumCast.enumCast Status.mtuTooSmall)) := by
  obtain ⟨operated, wroteFirst, begins⟩ := write_begins service (begins_nil service.tuning.buffer)
    0 rfl [data.getD 0 0] (by simp [tuningSize])
  obtain ⟨indexed, wroteSecond, begins⟩ := write_begins service begins 1 rfl
    [data.getD 1 0] (by simp [tuningSize])
  obtain ⟨peers, status, body, calls, reply, assembled, answered, begins⟩ :=
    @responseTo_responds _ _ _ _ _ (service.assembling indexed) _ begins rfl _ data
  let acted : RobotControlService F (Firmware F S τ) :=
    { service with peers, calls := service.calls ++ calls }
  obtain ⟨next, response, sent, begins, answer⟩ :=
    sendResponse_hands acted begins (by simp)
  have handed : service.tuningWrites data = some { service with
      peers
      calls := service.calls ++ calls
      tuning := { service.tuning with buffer := next }.hand response.length } := by
    rw [tuningWrites, free, if_neg Bool.false_ne_true]
    rw [assembling_self] at wroteFirst
    simp only [Option.bind_eq_bind, wroteFirst, Option.bind_some, wroteSecond, answered]
    exact sent
  obtain rfl := Option.some.inj (handed.symm.trans wrote)
  refine ⟨status, body, calls, response, reply, ?_, ?_⟩
  · have front : ({ service.tuning with buffer := next }).front response.length = response := begins
    show _ ++ [Update.mk _ (({ service.tuning with buffer := next }).front response.length)] = _
    rw [front]
  · rcases answer with ⟨-, rfl⟩ | ⟨-, rfl⟩
    · exact .inl rfl
    · exact .inr rfl

/-- A description of a parameter that is accepted carries what the bank reads. -/
theorem tuningWrites_reads {index : UInt8} (wrote : service.tuningWrites [3, index] = some after) {response : List UInt8}
    (handed : Hands service after response)
    (accepted : response[2]? = some (EnumCast.enumCast Status.accepted)) :
    ∃ value, (bank service.peers.control).read index.toNat = some value ∧
      (response.drop 4).take 4 = floatBytes value := by
  obtain ⟨status, body, calls, answer, reply, answered, shape⟩ :=
    tuningWrites_replies (hands_free wrote handed) wrote
  obtain rfl := handed.unique answered
  rcases shape with rfl | small
  · cases reply with
    | parameter addressed described valued =>
        obtain rfl := Option.some.inj (addressed.indexed : some index = some _)
        refine ⟨_, (bank_read _ _).trans valued, ?_⟩
        exact List.take_left' (floatBytes_length _)
    | invalid => cases status_injective (Option.some.inj accepted)
    | strategy addressed | selected addressed | written addressed => cases addressed.named
  · cases status_injective (Option.some.inj (small.symm.trans accepted))

end Firmware

namespace Main
variable {F S C K : Type} [ControlStrategy S F] [TextInput F]

/-- The reply of the terminal tells the change that its line names. -/
inductive Tells (main : Main F S C K) (params : String) (reply : Reply F) : Command → Change F → Prop
  | select {index : Nat} (named : params ≠ "")
      (known : main.balanceControl.strategies.findIdx?
        (fun strategy => params = ControlStrategy.name strategy) = some index)
      (obeyed : ¬ Says (refusal .strategy) reply) : Tells main params reply .strategy (.select index)
  | write {index : UInt32} {value : F} (named : params ≠ "")
      (read : readParameter params = some (index, value))
      (obeyed : ¬ Says (refusal .param) reply) :
      Tells main params reply .param (.write index.toNat value)

/-- The line of a strategy changes the bank exactly as its reply tells. -/
theorem strategy_follows {main next : Main F S C K} {params : String} {reply : Reply F}
    (ran : Cli.strategy main params = (reply, next)) :
    (∀ change, main.Tells params reply .strategy change →
      bank next.balanceControl = (bank main.balanceControl).change change) ∧
    ((∀ change, ¬ main.Tells params reply .strategy change) →
      bank next.balanceControl = bank main.balanceControl) := by
  unfold Cli.strategy at ran
  split at ran
  · rename_i bare
    obtain ⟨rfl, rfl⟩ := Prod.mk.inj ran
    refine ⟨?_, fun _ => rfl⟩
    rintro change ⟨named, -⟩
    exact absurd (String.isEmpty_iff.mp bare) named
  · rename_i named
    have filled : params ≠ "" := mt String.isEmpty_iff.mpr named
    split at ran
    · rename_i unknown
      obtain ⟨rfl, rfl⟩ := Prod.mk.inj ran
      refine ⟨?_, fun _ => rfl⟩
      rintro change ⟨-, known, -⟩
      rw [unknown] at known
      cases known
    · rename_i index known
      cases selected : main.balanceControl.select index with
      | mk accepted control =>
        rw [selected] at ran
        obtain ⟨rfl, rfl⟩ := Prod.mk.inj ran
        cases accepted with
        | true =>
            constructor
            · rintro change ⟨-, again, -⟩
              obtain rfl := Option.some.inj (known.symm.trans again)
              exact select_changes selected
            · intro silent
              exact absurd (.select filled known (unsaid_several _ (by simp))) (silent _)
        | false =>
            obtain rfl := BalanceControlImpl.select_refused selected
            refine ⟨?_, fun _ => rfl⟩
            rintro change ⟨-, -, obeyed⟩
            exact absurd ⟨_, rfl, rfl⟩ obeyed

/-- The line of a parameter changes the bank exactly as its reply tells. -/
theorem param_follows [FloatArithmetic F] [StrategyContract S] {main next : Main F S C K} {params : String}
    {reply : Reply F} (ran : Cli.param main params = some (reply, next)) :
    (∀ change, main.Tells params reply .param change →
      bank next.balanceControl = (bank main.balanceControl).change change) ∧
    ((∀ change, ¬ main.Tells params reply .param change) →
      bank next.balanceControl = bank main.balanceControl) := by
  unfold Cli.param at ran
  split at ran
  · rename_i bare
    obtain ⟨listed, -, both⟩ := Option.map_eq_some_iff.mp ran
    obtain ⟨rfl, rfl⟩ := Prod.mk.inj both
    refine ⟨?_, fun _ => rfl⟩
    intro change told
    cases told with
    | write named => exact absurd (String.isEmpty_iff.mp bare) named
  · rename_i named
    have filled : params ≠ "" := mt String.isEmpty_iff.mpr named
    split at ran
    · rename_i unread
      obtain ⟨rfl, rfl⟩ := Prod.mk.inj (Option.some.inj ran)
      refine ⟨?_, fun _ => rfl⟩
      intro change told
      cases told with
      | write _ read =>
          rw [unread] at read
          cases read
    · rename_i index value read
      obtain ⟨⟨accepted, control⟩, stored, answered⟩ := Option.bind_eq_some_iff.mp ran
      cases accepted with
      | true =>
          obtain ⟨descriptor, -, both⟩ := Option.bind_eq_some_iff.mp answered
          obtain ⟨rfl, rfl⟩ := Prod.mk.inj (Option.some.inj both)
          constructor
          · intro change told
            cases told with
            | write _ again =>
                obtain ⟨rfl, rfl⟩ := Prod.mk.inj (Option.some.inj (read.symm.trans again))
                exact setParameter_changes stored
          · intro silent
            exact absurd (.write filled read (unsaid_several _ (by simp))) (silent _)
      | false =>
          obtain ⟨rfl, rfl⟩ := Prod.mk.inj (Option.some.inj answered)
          obtain rfl := BalanceControlImpl.setParameter_refused stored
          refine ⟨?_, fun _ => rfl⟩
          intro change told
          cases told with
          | write _ _ obeyed => exact absurd ⟨_, rfl, rfl⟩ obeyed

omit [TextInput F] in
/-- A register that the bank reads stands in the list of the terminal with its value. -/
theorem listParameters_reads [StrategyContract S] {control : BalanceControlImpl F S (Hardware F)}
    {reply : Reply F} (listed : Cli.listParameters control = some reply) {index : Nat} {value : F}
    (read : (bank control).read index = some value) :
    ∃ entry, reply[index]? = some entry ∧ entry[0]? = some (.integer index) ∧
      entry[4]? = some (.float value) := by
  rw [bank_read] at read
  have published : index < (ControlStrategy.parameters control.strategy).length := by
    rw [← StrategyContract.stored, read]
    rfl
  have found := mapM_getElem? listed index
  rw [List.getElem?_zipIdx, List.getElem?_eq_getElem published] at found
  simp only [Option.map_some, Option.bind_some, Nat.zero_add, read] at found
  exact ⟨_, found, rfl, rfl⟩

variable [FloatArithmetic F] [FloatRounding F] [FloatGeometry F] [FloatPi F] [FloatBits F]
  [FloatImage F] [PitchFilter C F] [PitchFilter K F] {start main next : Main F S C K}
  {now : TimePoint} {event : Event F}

/-- The radio hands a response of the tuning over in a step. -/
def Responds (main next : Main F S C K) (response : List UInt8) : Prop :=
  ∃ link later, main.bleEndpoint.link = some link ∧ next.bleEndpoint.link = some later ∧
    Hands link.service later.service response

/-- The operator or the client is told of a change by the reply to a step. -/
inductive Told (main next : Main F S C K) (now : TimePoint) : Event F → Change F → Prop
  | typed {command : Command} {params : String} {reply : Reply F} {change : Change F}
      (ran : command.run (main.begin now) params = some (reply, next))
      (tells : (main.begin now).Tells params reply command change) :
      Told main next now (.typed command params) change
  | written {data response : List UInt8} {remote : BleLink.Remote (.tuningWritten data)}
      {change : Change F} (responds : main.Responds next response)
      (promises : Promises data response change) :
      Told main next now (.radio (.served (.tuningWritten data) remote)) change

omit [FloatGeometry F] [FloatPi F] [FloatImage F] [PitchFilter C F] [PitchFilter K F] in
/-- A change is told only for a tuning event. -/
theorem Told.tunes {change : Change F} (told : main.Told next now event change) : event.Tunes := by
  cases told with
  | typed _ tells => cases tells <;> trivial
  | written => trivial

/-- The unit of transfer of the link is at its default or above it. -/
def Floored (main : Main F S C K) : Prop :=
  ∀ link, main.bleEndpoint.link = some link →
    RobotControlService.attDefaultMaxMtuSize.toNat ≤ link.service.mtu.toNat

omit [TextInput F] [FloatGeometry F] [FloatPi F] in
/-- The link keeps the unit of transfer at its default or above it. -/
theorem link_floored {link after : BleLink F (Firmware F S (Gyroscope F))} {event : BleLink.Event}
    (performed : link.perform event = some after)
    (floor : RobotControlService.attDefaultMaxMtuSize.toNat ≤ link.service.mtu.toNat) :
    RobotControlService.attDefaultMaxMtuSize.toNat ≤ after.service.mtu.toNat := by
  cases event with
  | stateChanged newState =>
      obtain rfl := Option.some.inj performed
      cases newState with
      | connected =>
          have answered : link.service.perform .connected = some link.service.connected := rfl
          exact RobotControlService.perform_floor answered floor
      | advertising => exact floor
      | standby =>
          simp only [BleLink.stateChanged]
          cases link.connected with
          | false => exact floor
          | true => exact Nat.le_refl _
  | maxAttMtuSizeChanged maxAttMtuSize =>
      obtain rfl := Option.some.inj performed
      exact RobotControlService.default_le_attMtuChanged link.service maxAttMtuSize
  | served event remote =>
      obtain ⟨service, answered, rfl⟩ := Option.map_eq_some_iff.mp performed
      exact RobotControlService.perform_floor answered floor

/-- Every step keeps the unit of transfer at its default or above it. -/
theorem floored_kept (main : Main F S C K) (event : TimePoint × Event F) (next : Main F S C K)
    (floored : main.Floored) (stepped : machine.step main event = some next) : next.Floored := by
  obtain ⟨now, event⟩ := event
  intro later linked
  cases event with
  | sample | wheels | supervise | driverFault | configured | typed =>
      rw [step_endpoint (by simp) (by simp) stepped] at linked
      exact floored later linked
  | radioReady =>
      obtain rfl := Option.some.inj stepped
      obtain rfl := Option.some.inj linked
      exact Nat.le_refl _
  | radio heard =>
      obtain ⟨link, before, mapped⟩ := Option.bind_eq_some_iff.mp stepped
      obtain ⟨after, answered, rfl⟩ := Option.map_eq_some_iff.mp mapped
      obtain rfl := Option.some.inj linked
      exact link_floored answered (floored link before)

variable [StrategyContract S]

/-- A step changes the bank exactly as its reply tells. -/
theorem step_follows (floored : main.Floored) (stepped : machine.step main (now, event) = some next) :
    (∀ change, main.Told next now event change →
      bank next.balanceControl = (bank main.balanceControl).change change) ∧
    ((∀ change, ¬ main.Told next now event change) →
      bank next.balanceControl = bank main.balanceControl) := by
  by_cases tunes : event.Tunes
  · cases event with
    | sample | wheels | supervise | driverFault | configured | radioReady => exact tunes.elim
    | typed command params =>
        obtain ⟨⟨reply, after⟩, ran, rfl⟩ := Option.map_eq_some_iff.mp stepped
        have follows : (∀ change, (main.begin now).Tells params reply command change →
              bank after.balanceControl = (bank main.balanceControl).change change) ∧
            ((∀ change, ¬ (main.begin now).Tells params reply command change) →
              bank after.balanceControl = bank main.balanceControl) := by
          cases command with
          | strategy => exact strategy_follows (Option.some.inj ran)
          | param => exact param_follows ran
          | _ => exact tunes.elim
        constructor
        · intro change told
          cases told with
          | typed again tells =>
              obtain ⟨rfl, -⟩ := Prod.mk.inj (Option.some.inj (again.symm.trans ran))
              exact follows.1 change tells
        · intro silent
          exact follows.2 fun change tells => silent change (.typed ran tells)
    | radio heard =>
        obtain ⟨link, linked, mapped⟩ := Option.bind_eq_some_iff.mp stepped
        obtain ⟨after, answered, rfl⟩ := Option.map_eq_some_iff.mp mapped
        have linked : main.bleEndpoint.link = some link := linked
        cases heard with
        | stateChanged | maxAttMtuSizeChanged => exact tunes.elim
        | served event remote =>
            cases event with
            | tuningWritten data =>
                obtain ⟨service, wrote, rfl⟩ := Option.map_eq_some_iff.mp answered
                let heard := link.service.attend (main.begin now).firmware
                have floor : RobotControlService.attDefaultMaxMtuSize.toNat ≤ heard.mtu.toNat :=
                  floored link linked
                have wrote : heard.tuningWrites data = some service := wrote
                constructor
                · intro change told
                  cases told with
                  | written responds promises =>
                      obtain ⟨before, later, same, known, handed⟩ := responds
                      obtain rfl := Option.some.inj (linked.symm.trans same)
                      obtain rfl := Option.some.inj known
                      exact tuningWrites_promised floor wrote handed promises
                · intro silent
                  refine tuningWrites_silent floor wrote fun response change handed promises => ?_
                  exact silent change (.written ⟨link, _, linked, rfl, handed⟩ promises)
            | _ => exact tunes.elim
  · constructor
    · intro change told
      exact absurd told.tunes tunes
    · intro _
      by_contra changed
      exact tunes (configuration_changed stepped changed).1

/-- The parameters are registers in every run from here: they change exactly as the terminal and the
link tell, both read them, and a value that was told stays until another change is told. -/
structure Remembers (start : Main F S C K) : Prop where
  told : ∀ main now event next, machine.Reachable start main →
    machine.step main (now, event) = some next →
    (∀ change, main.Told next now event change →
      bank next.balanceControl = (bank main.balanceControl).change change) ∧
    ((∀ change, ¬ main.Told next now event change) →
      bank next.balanceControl = bank main.balanceControl)
  listed : ∀ main now, machine.Reachable start main → ∃ reply,
    Command.param.run (main.begin now) "" = some (reply, main.begin now) ∧
    ∀ index value, (bank main.balanceControl).read index = some value →
      ∃ entry, reply[index]? = some entry ∧ entry[0]? = some (.integer index) ∧
        entry[4]? = some (.float value)
  described : ∀ main now index remote next response, machine.Reachable start main →
    machine.step main (now, .radio (.served (.tuningWritten [3, index]) remote)) = some next →
    main.Responds next response →
    response[2]? = some (EnumCast.enumCast RobotControlService.Status.accepted) →
    ∃ value, (bank main.balanceControl).read index.toNat = some value ∧
      (response.drop 4).take 4 = floatBytes value
  remembered : ∀ main now event next index value events final, machine.Reachable start main →
    machine.step main (now, event) = some next → main.Told next now event (.write index value) →
    machine.run next events = some final →
    machine.Along (fun state event => ∀ after, machine.step state event = some after →
      ∀ change, state.Told after event.1 event.2 change → ¬ Bank.Overwrites index change) next events →
    (bank final.balanceControl).read index = some value

/-- A register keeps its value over steps that tell of no change to it. -/
theorem read_kept {index : Nat} {value : F} (state : Main F S C K) (event : TimePoint × Event F)
    (after : Main F S C K)
    (holds : state.Floored ∧ (bank state.balanceControl).read index = some value)
    (quiet : ∀ after, machine.step state event = some after →
      ∀ change, state.Told after event.1 event.2 change → ¬ Bank.Overwrites index change)
    (stepped : machine.step state event = some after) :
    after.Floored ∧ (bank after.balanceControl).read index = some value := by
  obtain ⟨floored, read⟩ := holds
  refine ⟨floored_kept state event after floored stepped, ?_⟩
  obtain ⟨follows, rests⟩ := step_follows floored stepped
  by_cases told : ∃ change, state.Told after event.1 event.2 change
  · obtain ⟨change, told⟩ := told
    rw [follows change told, Bank.read_kept (quiet after stepped change told), read]
  · rw [not_exists] at told
    rw [rests told, read]

/-- The application remembers its parameters. -/
theorem parameters_are_remembered {fullScale : DutyCycle} {decay : Decay}
    {sensingConfig : InertialSensingImpl.Config F} {estimationConfig : AttitudeEstimationImpl.Config F}
    {complementary : C} {kalman : K} {strategies : List S}
    {odometryConfig : WheelOdometryImpl.Config F} {balanceConfig : BalanceControlImpl.Config F}
    {safetyConfig : SafetySupervisorImpl.Config F} {identityAddress : MacAddress} {now : TimePoint}
    {start : Main F S C K}
    (constructed : construct fullScale decay sensingConfig estimationConfig complementary kalman
      strategies odometryConfig balanceConfig safetyConfig identityAddress now = some start) :
    start.Remembers := by
  have floored {main : Main F S C K} (reached : machine.Reachable start main) : main.Floored := by
    refine reached.invariant floored_kept ?_
    obtain ⟨wheelOdometry, -, mapped⟩ := Option.bind_eq_some_iff.mp constructed
    obtain ⟨robot, -, rfl⟩ := Option.map_eq_some_iff.mp mapped
    intro link linked
    cases linked
  refine ⟨?_, ?_, ?_, ?_⟩
  · intro main now event next reached stepped
    exact step_follows (floored reached) stepped
  · intro main now reached
    obtain ⟨reply, listed⟩ := Option.isSome_iff_exists.mp
      (listParameters_answers (main.begin now).balanceControl)
    refine ⟨reply, ?_, ?_⟩
    · exact congrArg (Option.map fun reply => (reply, main.begin now)) listed
    · intro index value read
      exact listParameters_reads listed read
  · intro main now index remote next response reached stepped responds accepted
    obtain ⟨link, linked, mapped⟩ := Option.bind_eq_some_iff.mp stepped
    obtain ⟨after, answered, rfl⟩ := Option.map_eq_some_iff.mp mapped
    obtain ⟨service, wrote, rfl⟩ := Option.map_eq_some_iff.mp answered
    obtain ⟨before, later, same, known, handed⟩ := responds
    obtain rfl := Option.some.inj ((linked : main.bleEndpoint.link = some link).symm.trans same)
    obtain rfl := Option.some.inj known
    exact tuningWrites_reads wrote handed accepted
  · intro main now event next index value events final reached stepped told ran quiet
    have written : (bank next.balanceControl).read index = some value := by
      rw [(step_follows (floored reached) stepped).1 _ told]
      exact Bank.read_written (bank_inside _) index value
    have after := floored (reached.trans (.single stepped))
    exact (run_invariant_along read_kept ⟨after, written⟩ quiet ran).2

section Bench
open Bench

/-- The powered application remembers its parameters. -/
theorem powered_parameters_are_remembered : ∃ start, powered = some start ∧ start.Remembers := by
  obtain ⟨start, constructed⟩ := powered_starts
  exact ⟨start, constructed, parameters_are_remembered constructed⟩

end Bench
end Main
end InvertedPendulum.Application
