import SnpGuest.Bytes.LittleEndian

namespace SnpGuest

/-!
# Report request

The message by which a guest asks for a report.
-/

/-- A request for a report over data of the guest's choice. -/
structure RequestMessage where
  reportData : Block 64
  vmpl : UInt32
  reserved : Block 28
deriving DecidableEq

namespace RequestMessage

/-- The request with a zero reserved rest. -/
def new (reportData : Block 64) (vmpl : UInt32) : RequestMessage where
  reportData := reportData
  vmpl := vmpl
  reserved := .zero 28

def toBlock (request : RequestMessage) : Block 96 :=
  (request.reportData.append (.ofUInt32 request.vmpl)).append request.reserved

end RequestMessage

end SnpGuest
