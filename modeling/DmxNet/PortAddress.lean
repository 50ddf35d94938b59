/-!
# Port-Addresses

The 15-bit address of a universe: bits 14 to 8 are its Net, bits 7 to 4 its Sub-Net and bits 3 to
0 its universe within that. A `PortAddress` is in range by construction.
-/

namespace DmxNet

/-- A Port-Address, 0 to 32767. -/
structure PortAddress where
  value : Nat
  value_le : value ≤ 0x7FFF
  deriving DecidableEq, Repr

namespace PortAddress

/-- The largest Port-Address. -/
def limit : Nat := 0x7FFF

/-- The largest Net. -/
def netLimit : Nat := 0x7F

/-- The largest Sub-Net, and the largest Universe. -/
def nibbleLimit : Nat := 0x0F

/-- The Port-Address of a number, if it is in range. -/
def ofInt? (n : Int) : Option PortAddress :=
  if h : 0 ≤ n ∧ n ≤ 0x7FFF then some ⟨n.toNat, by omega⟩ else none

/-- The number that the three parts make when laid side by side. -/
def pack (net subNet universeId : Nat) : Nat := net <<< 8 ||| subNet <<< 4 ||| universeId

/-- Bits 14 to 8. -/
def net (p : PortAddress) : Nat := (p.value >>> 8) &&& 0x7F

/-- Bits 7 to 4. -/
def subNet (p : PortAddress) : Nat := (p.value >>> 4) &&& 0x0F

/-- Bits 3 to 0. -/
def universeId (p : PortAddress) : Nat := p.value &&& 0x0F

example : (⟨0x7FA5, by decide⟩ : PortAddress).net = 0x7F := by decide

end PortAddress

end DmxNet
