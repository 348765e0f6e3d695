import Mathlib.Logic.ExistsUnique
import SnpGuest.Message.Response
import SnpGuest.Proofs.Report.Fields

namespace SnpGuest

/-!
# The packed layout

A report is laid out the same way wherever its bytes stand: alone, or inside the response that
brings it.  `ReportCarrier` names such a record and the place of the report in it, and
`ReportCarrier.Packed` says what the layout promises there.  The promises need nothing of the record
but that the report's bytes stand between some others that do not depend on it
(`ReportCarrier.packed_of_frame`).
-/

/-! ## Records with a report in them -/

/-- A record of `n` bytes that carries a report. -/
structure ReportCarrier (α : Type) (n : Nat) where
  toBlock : α → Block n
  ofBlock : Block n → α
  report : α → Report
  withReport : α → Report → α
  /-- The place of the report. -/
  base : Nat

namespace ReportCarrier

variable {α : Type} {n : Nat}

/-- The record after an assignment to a field of its report. -/
def assign (carrier : ReportCarrier α n) (whole : α) (field : Report.Field)
    (value : Block field.width) : α :=
  carrier.withReport whole ((carrier.report whole).set field value)

/-- What the layout of a report promises for a record with a report in it. -/
structure Packed (carrier : ReportCarrier α n) : Prop where
  /-- The report lies inside the record. -/
  fits : carrier.base + Report.size ≤ n
  toBlock_ofBlock : ∀ block, carrier.toBlock (carrier.ofBlock block) = block
  ofBlock_toBlock : ∀ whole, carrier.ofBlock (carrier.toBlock whole) = whole
  /-- Every field has its bytes at its place. -/
  place : ∀ whole (field : Report.Field),
    ((carrier.toBlock whole).toList.drop (carrier.base + field.offset)).take field.width =
      ((carrier.report whole).get field).toList
  /-- A number has its low byte first. -/
  number : ∀ whole field value, (carrier.report whole).number? field = some value →
    ((carrier.report whole).get field).toList = LittleEndian.encode field.width value
  /-- An assignment writes the bytes at the place of the field and no others. -/
  assign : ∀ whole field value,
    (carrier.toBlock (carrier.assign whole field value)).toList =
      (carrier.toBlock whole).toList.overwrite (carrier.base + field.offset) value.toList
  get_assign : ∀ whole field value,
    (carrier.report (carrier.assign whole field value)).get field = value
  get_assign_of_ne : ∀ whole field value other, other ≠ field →
    (carrier.report (carrier.assign whole field value)).get other =
      (carrier.report whole).get other
  /-- A field that holds a number takes every number of its width. -/
  number_assign : ∀ whole (field : Report.Field) value, field.isNumber = true →
    value < LittleEndian.bound field.width →
    (carrier.report (carrier.assign whole field (.ofNat field.width value))).number? field =
      some value
  /-- No assignment to a field of the body reaches the signature or what is behind it. -/
  drop_assign : ∀ whole field value, field ∈ Report.Field.body →
    (carrier.toBlock (carrier.assign whole field value)).toList.drop (carrier.base + 0x2A0) =
      (carrier.toBlock whole).toList.drop (carrier.base + 0x2A0)
  /-- The signature covers the first `0x2A0` bytes of the report. -/
  signedBytes : ∀ whole, (carrier.report whole).signedBytes.toList =
    ((carrier.toBlock whole).toList.drop carrier.base).take 0x2A0
  /-- No other signature changes what is covered. -/
  signedBytes_withSignature : ∀ whole signature,
    (carrier.report (carrier.withReport whole
      { carrier.report whole with signature := signature })).signedBytes =
        (carrier.report whole).signedBytes

/-- The bytes of a record whose report stands between others. -/
structure Frame (carrier : ReportCarrier α n) (whole : α) where
  front : Bytes
  back : Bytes
  length_front : front.length = carrier.base
  toBlock_withReport : ∀ report,
    (carrier.toBlock (carrier.withReport whole report)).toList =
      front ++ (report.toBlock.toList ++ back)

theorem packed_of_frame {carrier : ReportCarrier α n}
    (hBlock : ∀ block, carrier.toBlock (carrier.ofBlock block) = block)
    (hWhole : ∀ whole, carrier.ofBlock (carrier.toBlock whole) = whole)
    (hReport : ∀ whole report, carrier.report (carrier.withReport whole report) = report)
    (hSame : ∀ whole, carrier.withReport whole (carrier.report whole) = whole)
    (hFits : carrier.base + Report.size ≤ n)
    (frame : ∀ whole, carrier.Frame whole) : carrier.Packed := by
  have hBytes : ∀ whole, (carrier.toBlock whole).toList = (frame whole).front ++
      ((carrier.report whole).toBlock.toList ++ (frame whole).back) := by
    intro whole
    rw [← (frame whole).toBlock_withReport, hSame]
  -- Everything behind the front is found by dropping the base first.
  have hDrop : ∀ whole, (carrier.toBlock whole).toList.drop carrier.base =
      (carrier.report whole).toBlock.toList ++ (frame whole).back := by
    intro whole
    rw [hBytes, List.drop_left' (frame whole).length_front]
  have hAssign : ∀ whole (field : Report.Field) (value : Block field.width),
      (carrier.toBlock (carrier.assign whole field value)).toList =
        (carrier.toBlock whole).toList.overwrite (carrier.base + field.offset) value.toList := by
    intro whole field value
    have hInside : field.offset + value.toList.length ≤
        (carrier.report whole).toBlock.toList.length := by
      rw [Block.length_toList, Block.length_toList]
      exact field.offset_add_width_le
    rw [hBytes whole, ← (frame whole).length_front, Bytes.overwrite_append _ hInside, assign,
      (frame whole).toBlock_withReport, Report.toBlock_set]
    rfl
  exact {
    fits := hFits
    toBlock_ofBlock := hBlock
    ofBlock_toBlock := hWhole
    place := fun whole field => by
      have hInside : field.offset + field.width ≤
          (carrier.report whole).toBlock.toList.length := by
        rw [Block.length_toList]
        exact field.offset_add_width_le
      rw [← List.drop_drop, hDrop, Bytes.take_drop_append hInside,
        ← Report.read_toBlock (carrier.report whole) field]
      rfl
    number := fun whole field value hNumber => by
      rw [Report.number?_eq] at hNumber
      split at hNumber
      case isTrue =>
        rw [← Option.some.inj hNumber]
        exact (congrArg Block.toList (Block.ofNat_toNat _)).symm
      case isFalse => cases hNumber
    assign := hAssign
    get_assign := fun whole field value => by
      rw [ReportCarrier.assign, hReport, Report.get_set_self]
    get_assign_of_ne := fun whole field value other hOther => by
      rw [ReportCarrier.assign, hReport, Report.get_set_of_ne _ hOther]
    number_assign := fun whole field value hNumber hSmall => by
      rw [ReportCarrier.assign, hReport, Report.number?_eq, if_pos hNumber, Report.get_set_self,
        Block.toNat_ofNat, Nat.mod_eq_of_lt hSmall]
    drop_assign := fun whole field value hBody => by
      have hEnd := Report.Field.end_le_of_mem_body field hBody
      rw [hAssign]
      apply Bytes.drop_overwrite <;> simp only [Block.length_toList]
      · have hPlace := field.offset_add_width_le
        omega
      · omega
    signedBytes := fun whole => by
      have hInside : 0x2A0 ≤ (carrier.report whole).toBlock.toList.length := by
        rw [Block.length_toList]
        decide
      rw [Report.toList_signedBytes, hDrop, List.take_append_of_le_length hInside]
    signedBytes_withSignature := fun whole signature => by
      rw [hReport]
      rfl }

end ReportCarrier

/-! ## The report alone and in a response -/

/-- A report on its own. -/
def Report.alone : ReportCarrier Report Report.size where
  toBlock := toBlock
  ofBlock := ofBlock
  report := id
  withReport _ report := report
  base := 0

theorem Report.alone_packed : alone.Packed :=
  ReportCarrier.packed_of_frame toBlock_ofBlock ofBlock_toBlock (fun _ _ => rfl) (fun _ => rfl)
    (Nat.le_refl _) fun _ =>
      { front := []
        back := []
        length_front := rfl
        toBlock_withReport := fun _ => (List.append_nil _).symm }

namespace ResponseMessage

theorem ofBlock_toBlock (response : ResponseMessage) : ofBlock response.toBlock = response := by
  have hStatus : response.toBlock.slice 0 4 (by decide) = .ofUInt32 response.status := by
    rw [toBlock, Block.slice_append_of_le _ _ (by decide), Block.slice_append_of_le _ _ (by decide),
      Block.slice_append_of_le _ _ (by decide), Block.slice_append_of_le _ _ (by decide),
      Block.slice_all]
  have hSize : response.toBlock.slice 4 4 (by decide) = .ofUInt32 response.reportSize := by
    rw [toBlock, Block.slice_append_of_le _ _ (by decide), Block.slice_append_of_le _ _ (by decide),
      Block.slice_append_of_le _ _ (by decide), Block.slice_append_right]
  have hReserved : response.toBlock.slice 8 24 (by decide) = response.reserved := by
    rw [toBlock, Block.slice_append_of_le _ _ (by decide), Block.slice_append_of_le _ _ (by decide)]
    exact Block.slice_append_right _ _
  have hPadding : response.toBlock.slice 1216 2784 (by decide) = response.padding :=
    Block.slice_append_right _ _
  rw [ofBlock, hStatus, hSize, hReserved, slice_toBlock, hPadding, Block.toUInt32_ofUInt32,
    Block.toUInt32_ofUInt32, Report.ofBlock_toBlock]

theorem toBlock_ofBlock (block : Block size) : (ofBlock block).toBlock = block := by
  have hWords : (block.slice 0 4 (by decide)).append (block.slice 4 4 (by decide)) =
      block.slice 0 8 (by decide) := block.append_slice (by decide)
  have hFront : (block.slice 0 8 (by decide)).append (block.slice 8 24 (by decide)) =
      block.slice 0 32 (by decide) := block.append_slice (by decide)
  have hReport : (block.slice 0 32 (by decide)).append (block.slice 32 1184 (by decide)) =
      block.slice 0 1216 (by decide) := block.append_slice (by decide)
  have hAll : (block.slice 0 1216 (by decide)).append (block.slice 1216 2784 (by decide)) =
      block.slice 0 4000 (by decide) := block.append_slice (by decide)
  calc (ofBlock block).toBlock
      = ((((block.slice 0 4 (by decide)).append (block.slice 4 4 (by decide))).append
          (block.slice 8 24 (by decide))).append (block.slice 32 1184 (by decide))).append
            (block.slice 1216 2784 (by decide)) := by
        simp only [toBlock, ofBlock, Block.ofUInt32_toUInt32, Report.toBlock_ofBlock]
    _ = (((block.slice 0 8 (by decide)).append (block.slice 8 24 (by decide))).append
          (block.slice 32 1184 (by decide))).append (block.slice 1216 2784 (by decide)) :=
        congrArg (fun front : Block 8 => ((front.append (block.slice 8 24 _)).append
          (block.slice 32 1184 _)).append (block.slice 1216 2784 _)) hWords
    _ = ((block.slice 0 32 (by decide)).append (block.slice 32 1184 (by decide))).append
          (block.slice 1216 2784 (by decide)) :=
        congrArg (fun front : Block 32 =>
          (front.append (block.slice 32 1184 _)).append (block.slice 1216 2784 _)) hFront
    _ = (block.slice 0 1216 (by decide)).append (block.slice 1216 2784 (by decide)) :=
        congrArg (fun front : Block 1216 => front.append (block.slice 1216 2784 _)) hReport
    _ = block.slice 0 4000 (by decide) := hAll
    _ = block := block.slice_all

/-- The report in the buffer of a response. -/
def carrier : ReportCarrier ResponseMessage size where
  toBlock := toBlock
  ofBlock := ofBlock
  report response := response.report
  withReport response report := { response with report := report }
  base := reportOffset

/-- The bytes of a response in front of the report. -/
def front (response : ResponseMessage) : Block reportOffset :=
  ((Block.ofUInt32 response.status).append (.ofUInt32 response.reportSize)).append
    response.reserved

theorem toList_toBlock (response : ResponseMessage) :
    response.toBlock.toList =
      response.front.toList ++ (response.report.toBlock.toList ++ response.padding.toList) :=
  List.append_assoc _ _ _

theorem carrier_packed : carrier.Packed :=
  ReportCarrier.packed_of_frame toBlock_ofBlock ofBlock_toBlock (fun _ _ => rfl) (fun _ => rfl)
    (by decide) fun response =>
      { front := response.front.toList
        back := response.padding.toList
        length_front := response.front.length_toList
        toBlock_withReport := fun report => toList_toBlock { response with report := report } }

end ResponseMessage

/-- The fields of a report stand in declaration order, each behind the end of the one before, and
every byte belongs to exactly one of them.  The bytes and the report are the same thing: one is read
from the other and written back without a change.  An assignment to a field, public or not, writes
the bytes of its place and nothing else, and is read back; the other fields, the covered bytes and
the signature keep apart accordingly.  All this holds of the bytes of a report alone and, behind the
first 32 bytes, of the buffer of a response. -/
theorem packed_layout :
    Report.Field.all.Pairwise (fun earlier later =>
      earlier.offset + earlier.width ≤ later.offset) ∧
    (∀ position < Report.size, ∃! field : Report.Field, field.Covers position) ∧
    (Report.alone.base = 0 ∧ Report.alone.Packed) ∧
    (ResponseMessage.carrier.base = 32 ∧ ResponseMessage.carrier.Packed) := by
  refine ⟨Report.Field.pairwise_all, fun position hInside => ?_, ⟨rfl, Report.alone_packed⟩,
    rfl, ResponseMessage.carrier_packed⟩
  obtain ⟨field, hCovers⟩ := Report.Field.exists_covers hInside
  exact ⟨field, hCovers, fun other hOther => Report.Field.eq_of_covers hOther hCovers⟩

end SnpGuest
