import InvertedPendulum.Reactive.Bisimulation
import Mathlib.Data.Nat.Bitwise
import Mathlib.Data.UInt
import Mathlib.Data.Vector.Defs
import Mathlib.Tactic.FinCases

namespace InvertedPendulum.Motion
open Reactive

/-- A master sends bytes and hands a buffer over for those that it receives. -/
structure SpiTransfer where
  sendData : List UInt8
  receiveData : List UInt8

structure Drv8711Emulator where
  registers : Vector UInt16 8

namespace Drv8711Emulator

def frameSize : Nat := 2
def readRequest : UInt16 := 0x8000
def dataMask : UInt16 := 0x0fff

def construct : Drv8711Emulator := ⟨Vector.replicate 8 0⟩

def address (frame : UInt16) : Nat := ((frame >>> 12) &&& 0x7).toNat

theorem address_lt (frame : UInt16) : address frame < 8 := by
  unfold address
  rw [UInt16.toNat_and]
  exact Nat.lt_succ_of_le Nat.and_le_right

/-- The received bytes replace those of the buffer. -/
def transfer (emulator : Drv8711Emulator) (frame : UInt16) (receiveData : List UInt8) :
    List UInt8 × Drv8711Emulator :=
  if frame &&& readRequest = 0 then
    (receiveData, ⟨emulator.registers.set (address frame) (frame &&& dataMask) (address_lt frame)⟩)
  else if receiveData.length = frameSize then
    let held := emulator.registers.get ⟨address frame, address_lt frame⟩
    ([(held >>> 8).toUInt8, (held &&& 0xff).toUInt8], emulator)
  else (receiveData, emulator)

/-- `SendAndReceive` -/
def sendAndReceive (emulator : Drv8711Emulator) (spi : SpiTransfer) :
    List UInt8 × Drv8711Emulator :=
  match spi.sendData with
  | [first, second] =>
      emulator.transfer ((first.toUInt16 <<< 8) ||| second.toUInt16) spi.receiveData
  | _ => (spi.receiveData, emulator)

/-- A frame asks to read a register, or writes a value to it. -/
inductive Access where
  | read (register : Fin 8)
  | write (register : Fin 8) (value : Nat)

/-- The first bit of a frame tells a read, the next three its register and the other twelve a value. -/
def access? : List UInt8 → Option Access
  | [first, second] =>
      let register : Fin 8 := ⟨first.toNat / 16 % 8, Nat.mod_lt _ (by decide)⟩
      if first.toNat < 128 then some (.write register (first.toNat % 16 * 256 + second.toNat))
      else some (.read register)
  | _ => none

/-- A register holds what was last written to it, and nothing at first. -/
def lastWritten (history : List SpiTransfer) (register : Fin 8) : Nat :=
  history.foldl (fun held past =>
    match access? past.sendData with
    | some (.write written value) => if written = register then value else held
    | _ => held) 0

/-- A read of two bytes answers the value that was last written to its register, most significant
byte first, and every other transfer leaves its buffer as it is. -/
def respond (history : List SpiTransfer) (spi : SpiTransfer) : List UInt8 × List SpiTransfer :=
  let answered := match access? spi.sendData with
    | some (.read register) =>
        if spi.receiveData.length = 2 then
          [UInt8.ofNat (lastWritten history register / 256), UInt8.ofNat (lastWritten history register)]
        else spi.receiveData
    | _ => spi.receiveData
  (answered, history ++ [spi])

section Frames
variable (first second : UInt8)

theorem frame_toNat : ((first.toUInt16 <<< 8) ||| second.toUInt16).toNat =
    first.toNat * 256 + second.toNat := by
  have low := second.toNat_lt
  have high := first.toNat_lt
  have fits : first.toNat * 2 ^ 8 < 2 ^ 16 := by omega
  rw [UInt16.toNat_or, UInt16.toNat_shiftLeft, UInt8.toNat_toUInt16, UInt8.toNat_toUInt16]
  show (first.toNat <<< 8) % 2 ^ 16 ||| second.toNat = _
  rw [Nat.shiftLeft_eq, Nat.mod_eq_of_lt fits, ← Nat.shiftLeft_eq,
    ← Nat.shiftLeft_add_eq_or_of_lt low, Nat.shiftLeft_eq]

theorem address_frame :
    address ((first.toUInt16 <<< 8) ||| second.toUInt16) = first.toNat / 16 % 8 := by
  have low := second.toNat_lt
  have three : (0x7 : UInt16).toNat = 2 ^ 3 - 1 := rfl
  unfold address
  rw [UInt16.toNat_and, three, Nat.and_two_pow_sub_one_eq_mod, UInt16.toNat_shiftRight, frame_toNat]
  show (first.toNat * 256 + second.toNat) >>> 12 % 2 ^ 3 = _
  rw [Nat.shiftRight_eq_div_pow]
  omega

theorem value_frame :
    (((first.toUInt16 <<< 8) ||| second.toUInt16) &&& dataMask).toNat =
      first.toNat % 16 * 256 + second.toNat := by
  have low := second.toNat_lt
  have twelve : dataMask.toNat = 2 ^ 12 - 1 := rfl
  rw [UInt16.toNat_and, twelve, Nat.and_two_pow_sub_one_eq_mod, frame_toNat]
  omega

/-- A frame is a write when its first bit is clear. -/
theorem write_frame_iff :
    ((first.toUInt16 <<< 8) ||| second.toUInt16) &&& readRequest = 0 ↔ first.toNat < 128 := by
  have low := second.toNat_lt
  have high := first.toNat_lt
  rw [← UInt16.toNat_inj, UInt16.toNat_and, frame_toNat]
  show (first.toNat * 256 + second.toNat) &&& 2 ^ 15 = 0 ↔ _
  rw [Nat.and_two_pow, Nat.testBit_eq_decide_div_mod_eq]
  by_cases below : first.toNat < 128
  · have clear : ¬ (first.toNat * 256 + second.toNat) / 2 ^ 15 % 2 = 1 := by omega
    simp only [clear, below, decide_false, Bool.toNat_false, zero_mul]
  · have set : (first.toNat * 256 + second.toNat) / 2 ^ 15 % 2 = 1 := by omega
    simp only [set, below, decide_true, Bool.toNat_true, one_mul, iff_false]
    decide

end Frames

section Bytes
variable (held : UInt16)

theorem high_byte : (held >>> 8).toUInt8 = UInt8.ofNat (held.toNat / 256) := by
  apply UInt8.toNat_inj.mp
  rw [UInt16.toNat_toUInt8, UInt16.toNat_shiftRight, UInt8.toNat_ofNat']
  show held.toNat >>> 8 % 2 ^ 8 = _
  rw [Nat.shiftRight_eq_div_pow]

theorem low_byte : (held &&& 0xff).toUInt8 = UInt8.ofNat held.toNat := by
  have eight : (0xff : UInt16).toNat = 2 ^ 8 - 1 := rfl
  apply UInt8.toNat_inj.mp
  rw [UInt16.toNat_toUInt8, UInt16.toNat_and, eight, Nat.and_two_pow_sub_one_eq_mod,
    UInt8.toNat_ofNat', Nat.mod_mod]

end Bytes

/-- The registers hold what was last written to them. -/
def Recalls (emulator : Drv8711Emulator) (history : List SpiTransfer) : Prop :=
  ∀ register : Fin 8, (emulator.registers.get register).toNat = lastWritten history register

theorem construct_recalls : construct.Recalls [] := by
  intro register
  fin_cases register <;> rfl

theorem lastWritten_snoc (history : List SpiTransfer) (spi : SpiTransfer) (register : Fin 8) :
    lastWritten (history ++ [spi]) register =
      match access? spi.sendData with
      | some (.write written value) =>
          if written = register then value else lastWritten history register
      | _ => lastWritten history register := by
  unfold lastWritten
  rw [List.foldl_append]
  rfl

/-- Every transfer keeps the registers as the history has them and is answered from it. -/
theorem recalls_step {emulator : Drv8711Emulator} {history : List SpiTransfer}
    (recalls : emulator.Recalls history) (spi : SpiTransfer) :
    (emulator.sendAndReceive spi).1 = (respond history spi).1 ∧
      (emulator.sendAndReceive spi).2.Recalls (respond history spi).2 := by
  obtain ⟨sendData, receiveData⟩ := spi
  have ignored : access? sendData = none → emulator.Recalls (history ++ [⟨sendData, receiveData⟩]) := by
    intro malformed register
    rw [recalls, lastWritten_snoc, malformed]
  match sendData with
  | [first, second] =>
      let register : Fin 8 := ⟨first.toNat / 16 % 8, Nat.mod_lt _ (by decide)⟩
      let frame := (first.toUInt16 <<< 8) ||| second.toUInt16
      have addressed : address frame = register.val := address_frame first second
      by_cases writes : first.toNat < 128
      · have accessed : access? [first, second] =
            some (.write register (first.toNat % 16 * 256 + second.toNat)) := if_pos writes
        have performed : emulator.sendAndReceive ⟨[first, second], receiveData⟩ =
            (receiveData, ⟨emulator.registers.set (address frame) (frame &&& dataMask)
              (address_lt frame)⟩) := if_pos ((write_frame_iff first second).mpr writes)
        rw [performed]
        constructor
        · simp only [respond, accessed]
        · intro other
          show (emulator.registers.set (address frame) (frame &&& dataMask)
            (address_lt frame))[other.val].toNat =
            lastWritten (history ++ [_]) other
          rw [lastWritten_snoc, Vector.getElem_set]
          simp only [accessed, addressed, Fin.ext_iff]
          split
          · exact value_frame first second
          · exact recalls other
      · have accessed : access? [first, second] = some (.read register) := if_neg writes
        have reads : ¬ frame &&& readRequest = 0 := fun written =>
          writes ((write_frame_iff first second).mp written)
        have kept : emulator.Recalls (history ++ [⟨[first, second], receiveData⟩]) := by
          intro other
          rw [recalls, lastWritten_snoc, accessed]
        have performed : emulator.sendAndReceive ⟨[first, second], receiveData⟩ =
            if receiveData.length = frameSize then
              let held := emulator.registers.get ⟨address frame, address_lt frame⟩
              ([(held >>> 8).toUInt8, (held &&& 0xff).toUInt8], emulator)
            else (receiveData, emulator) := if_neg reads
        have held : emulator.registers.get ⟨address frame, address_lt frame⟩ =
            emulator.registers.get register := congrArg emulator.registers.get (Fin.ext addressed)
        rw [performed]
        by_cases sized : receiveData.length = frameSize
        · rw [if_pos sized]
          refine ⟨?_, kept⟩
          have two : receiveData.length = 2 := sized
          simp only [respond, accessed, two, if_true, held, high_byte, low_byte, recalls register]
        · rw [if_neg sized]
          refine ⟨?_, kept⟩
          have other : ¬ receiveData.length = 2 := sized
          simp only [respond, accessed, other, if_false]
  | [] => exact ⟨rfl, ignored rfl⟩
  | [_] => exact ⟨rfl, ignored rfl⟩
  | _ :: _ :: _ :: _ => exact ⟨rfl, ignored rfl⟩

theorem emulator_bisimulates : Bisimulation sendAndReceive respond Recalls where
  same recalls spi := (recalls_step recalls spi).1
  kept recalls spi := (recalls_step recalls spi).2

/-- Over any sequence of transfers, well formed or not, the emulator answers each as the history of
the transfers before it has it. -/
theorem emulator_recalls (transfers : List SpiTransfer) :
    responses sendAndReceive construct transfers = responses respond [] transfers :=
  emulator_bisimulates.responses_eq construct_recalls transfers

end Drv8711Emulator
end InvertedPendulum.Motion
