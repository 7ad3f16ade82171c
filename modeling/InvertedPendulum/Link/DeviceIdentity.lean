import InvertedPendulum.Wire.LittleEndian

namespace InvertedPendulum.Link

structure FactoryIdentity where
  uniqueDeviceNumber : UInt32
  deviceId : UInt8
  companyId : UInt32
  uniqueId : Vector UInt32 3

abbrev RootKey := Vector UInt8 16

structure DeviceIdentity where
  address : Vector UInt8 6
  identityRoot : RootKey
  encryptionRoot : RootKey
  deriving DecidableEq

namespace DeviceIdentity

def unprogrammedDeviceNumber : UInt32 := 0xffffffff

def identityRootDomain : UInt32 := 0x49524b00

def encryptionRootDomain : UInt32 := 0x45524b00

def addressDomain : UInt32 := 0x41445200

def mix (value : UInt32) : UInt32 :=
  let value := value ^^^ (value >>> 16)
  let value := value * 0x7feb352d
  let value := value ^^^ (value >>> 15)
  let value := value * 0x846ca68b
  value ^^^ (value >>> 16)

/-- The words of the unique identifier are mixed in one after the other. -/
def fold (uniqueId : Vector UInt32 3) (seed : UInt32) : UInt32 :=
  uniqueId.toList.foldl (fun value word => mix (value ^^^ word)) (mix seed)

def addressLowBytes (factory : FactoryIdentity) : UInt32 :=
  if factory.uniqueDeviceNumber ≠ unprogrammedDeviceNumber then factory.uniqueDeviceNumber
  else fold factory.uniqueId addressDomain

def byteOf (value : UInt32) (index : Nat) : UInt8 := (value >>> UInt32.ofNat (8 * index)).toUInt8

/-- Every aligned word of a root key is a fold of its own, least significant byte first. -/
def deriveRootKey (uniqueId : Vector UInt32 3) (domain : UInt32) : RootKey :=
  Vector.ofFn fun index =>
    byteOf (fold uniqueId (domain + UInt32.ofNat (index.val / 4))) (index.val % 4)

def deriveDeviceIdentity (factory : FactoryIdentity) : DeviceIdentity :=
  let lowBytes := addressLowBytes factory
  { address := #v[byteOf lowBytes 0, byteOf lowBytes 1, factory.deviceId,
      byteOf factory.companyId 0, byteOf factory.companyId 1, byteOf factory.companyId 2]
    identityRoot := deriveRootKey factory.uniqueId identityRootDomain
    encryptionRoot := deriveRootKey factory.uniqueId encryptionRootDomain }

/-- The address carries the device number, the device identifier and the company identifier. -/
example : (deriveDeviceIdentity ⟨0xa1b21234, 0x26, 0x0080e1, #v[1, 2, 3]⟩).address =
    #v[0x34, 0x12, 0x26, 0xe1, 0x80, 0x00] := by decide +kernel

end DeviceIdentity
end InvertedPendulum.Link
