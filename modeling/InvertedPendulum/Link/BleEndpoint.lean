import InvertedPendulum.Link.BleLink

namespace InvertedPendulum.Link

/-- `hal::MacAddress` lists its bytes with the least significant first. -/
abbrev MacAddress := Vector UInt8 6

structure LinkReport where
  state : GapPeripheralState
  address : MacAddress
  mtu : UInt16
  deriving DecidableEq

/-- The address is the one under which the peripheral identifies itself. -/
def BleLink.report {F σ : Type} (link : BleLink F σ) (identityAddress : MacAddress) : LinkReport :=
  ⟨link.state, identityAddress, link.service.mtu⟩

/-- The endpoint has no link until the radio is ready. -/
structure BleEndpoint (F σ : Type) where
  link : Option (BleLink F σ)

namespace BleEndpoint
variable {F σ : Type}

def construct : BleEndpoint F σ := ⟨none⟩

def radioReady (_ : BleEndpoint F σ) (peers : σ) : BleEndpoint F σ := ⟨some (.construct peers)⟩

def report (endpoint : BleEndpoint F σ) (identityAddress : MacAddress) : Option LinkReport :=
  endpoint.link.map fun link => link.report identityAddress

end BleEndpoint
end InvertedPendulum.Link
