import Mathlib.Data.Nat.Notation
import Mathlib.Tactic.Common
import Mathlib.Algebra.Group.Nat.Defs
import Mathlib.Algebra.Group.Int.Defs

/-!
# Result codes and diagnostics

The codes the driver's functions pass to each other and the diagnostic records they leave behind.
Every model function that reports something returns the records it added, in the order in which
it added them; the handle that collects them is modelled where a claim needs it.
-/

namespace TimestreamOdbc

/-- `SqlResult::Type`: the result of a driver operation. -/
inductive SqlResult where
  | aiSuccess
  | aiSuccessWithInfo
  | aiError
  | aiNoData
  | aiNeedData
  deriving DecidableEq, Repr

/-- `ConversionResult::Type`: the result of writing one value to an application buffer. -/
inductive ConversionResult where
  | aiSuccess
  | aiFractionalTruncated
  | aiVarlenDataTruncated
  | aiUnsupportedConversion
  | aiIndicatorNeeded
  | aiNoData
  | aiFailure
  deriving DecidableEq, Repr

/-- `SqlState::Type`, restricted to the states that the modelled functions report. -/
inductive SqlState where
  | s01000GeneralWarning
  | s01004DataTruncated
  | s01S00InvalidConnectionStringAttribute
  | s01S01ErrorInRow
  | s01S02OptionValueChanged
  | s01S07FractionalTruncation
  | s07009InvalidDescriptorIndex
  | s22002IndicatorNeeded
  | s24000InvalidCursorState
  | s34000InvalidCursorName
  | s3C000DuplicateCursorName
  | s08001CannotConnect
  | s08002AlreadyConnected
  | s08003NotConnected
  | sHY000GeneralError
  | sHY003InvalidApplicationBufferType
  | sHY009InvalidUseOfNullPointer
  | sHY010SequenceError
  | sHY016ModifyIrd
  | sHY024InvalidAttributeValue
  | sHY090InvalidStringOrBufferLength
  | sHY091InvalidDescrFieldId
  | sHY092OptionTypeOutOfRange
  | sHY097ColumnTypeOutOfRange
  | sHY105InvalidParameterType
  | sHYC00OptionalFeatureNotImplemented
  deriving DecidableEq, Repr

/-- A diagnostic status record: the state, the message and the row and column it is about (both 0
when it is about neither). -/
structure DiagnosticRecord where
  sqlState : SqlState
  message : String
  rowNum : ℕ
  columnNum : ℕ
  deriving DecidableEq, Repr

/-- The record `AddStatusRecord(sqlState, message)` adds. -/
def statusRecord (sqlState : SqlState) (message : String) : DiagnosticRecord :=
  { sqlState, message, rowNum := 0, columnNum := 0 }

end TimestreamOdbc
