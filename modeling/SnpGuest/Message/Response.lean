import SnpGuest.Message.Status
import SnpGuest.Report.Layout

namespace SnpGuest

/-!
# Report response

The message that carries a report back, in the buffer of 4000 bytes that a caller lends for it:
a status, the size of the report, a reserved area, the report, and zeros or whatever else up to the
end of the buffer.
-/

structure ResponseMessage where
  status : UInt32
  reportSize : UInt32
  reserved : Block 24
  report : Report
  padding : Block 2784
deriving DecidableEq

namespace ResponseMessage

abbrev size : Nat := 4000

/-- The bytes before the report. -/
abbrev reportOffset : Nat := 32

def zero : ResponseMessage where
  status := 0
  reportSize := 0
  reserved := .zero 24
  report := .zero
  padding := .zero 2784

instance : Inhabited ResponseMessage := ⟨zero⟩

/-- A successful response around a report. -/
def ofReport (report : Report) : ResponseMessage :=
  { zero with reportSize := UInt32.ofNat Report.size, report := report }

/-- The status, if its number is known. -/
def status? (response : ResponseMessage) : Option ResponseStatus :=
  ResponseStatus.ofCode? response.status

def toBlock (response : ResponseMessage) : Block size :=
  ((((Block.ofUInt32 response.status).append (.ofUInt32 response.reportSize)).append
    response.reserved).append response.report.toBlock).append response.padding

theorem toBlock_zero : zero.toBlock = .zero size := by
  have hWord : (Block.ofUInt32 0).toList = List.replicate 4 0 := rfl
  have hTotal : 4 + 4 + 24 + Report.size + 2784 = size := rfl
  apply Block.ext
  simp only [toBlock, zero, Report.toBlock_zero, Block.toList_append, Block.toList_zero, hWord,
    List.replicate_append_replicate, hTotal]

/-- The report stands behind the first 32 bytes. -/
theorem slice_toBlock (response : ResponseMessage) :
    response.toBlock.slice reportOffset Report.size (by decide) = response.report.toBlock := by
  let front : Block reportOffset :=
    ((Block.ofUInt32 response.status).append (.ofUInt32 response.reportSize)).append
      response.reserved
  have hSplit : response.toBlock.toList =
      front.toList ++ (response.report.toBlock.toList ++ response.padding.toList) :=
    List.append_assoc _ _ _
  apply Block.ext
  show (response.toBlock.toList.drop reportOffset).take Report.size = _
  rw [hSplit, List.drop_left' front.length_toList,
    List.take_left' response.report.toBlock.length_toList]

def ofBlock (block : Block size) : ResponseMessage where
  status := (block.slice 0 4 (by decide)).toUInt32
  reportSize := (block.slice 4 4 (by decide)).toUInt32
  reserved := block.slice 8 24 (by decide)
  report := .ofBlock (block.slice reportOffset Report.size (by decide))
  padding := block.slice 1216 2784 (by decide)

/-- The response with the given bytes, if their number is right. -/
def ofBytes? (bytes : Bytes) : Option ResponseMessage :=
  (Block.ofList? size bytes).map ofBlock

end ResponseMessage

end SnpGuest
