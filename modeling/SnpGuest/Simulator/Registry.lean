import SnpGuest.Message.Response
import SnpGuest.OrderedMap

namespace SnpGuest

/-!
# Prepared responses

What a simulated device answers, chosen by the data that the guest wants in its report.  Responses
are kept under the hexadecimal text of that data; no two blocks have the same text.
-/

structure PreparedResponse where
  /-- The response before signing. -/
  response : ResponseMessage
  exitResult : ExitResult
  /-- The error word to answer with.  A clear one means that the firmware accepts the request. -/
  errorWord : ErrorWord
deriving DecidableEq

namespace PreparedResponse

/-- A report that the firmware hands out without complaint. -/
def ofReport (report : Report) : PreparedResponse where
  response := .ofReport report
  exitResult := .ok
  errorWord := .clear

/-- The report that current firmware makes over the given data. -/
def currentReport (reportData : Block 64) : Report :=
  let blank := Report.ofReportData reportData
  let report : Report :=
    { blank with
      body := {
        blank.body with
        version := Report.currentVersion
        signatureAlgo := SigningAlgorithm.ecdsaP384Sha384.code } }
  report.withSigningKey .vcek

/-- A successful answer with a current report over the given data. -/
def accepted (reportData : Block 64) : PreparedResponse :=
  ofReport (currentReport reportData)

/-- An answer in which the firmware refuses the request. -/
def refused (reportData : Block 64) (word : ErrorWord) : PreparedResponse :=
  { accepted reportData with errorWord := word }

/-- The same answer with another outcome of the exit to the hypervisor. -/
def withExitResult (prepared : PreparedResponse) (result : ExitResult) : PreparedResponse :=
  { prepared with exitResult := result }

end PreparedResponse

structure Registry where
  responses : OrderedMap String PreparedResponse
deriving DecidableEq

namespace Registry

def empty : Registry := ⟨.empty⟩

/-- The text under which the response for some report data is kept. -/
def key (reportData : Block 64) : String :=
  Hex.encode reportData.toList

theorem key_injective {left right : Block 64} (hSame : key left = key right) : left = right :=
  Block.ext (Hex.encode_injective hSame)

def get? (registry : Registry) (reportData : Block 64) : Option PreparedResponse :=
  registry.responses.get? (key reportData)

/-- Sets the response for some report data and gives back the one it replaces. -/
def insert (registry : Registry) (reportData : Block 64) (prepared : PreparedResponse) :
    Option PreparedResponse × Registry :=
  let (previous, responses) := registry.responses.exchange (key reportData) prepared
  (previous, ⟨responses⟩)

def size (registry : Registry) : Nat :=
  registry.responses.size

def isEmpty (registry : Registry) : Bool :=
  registry.responses.isEmpty

end Registry

end SnpGuest
