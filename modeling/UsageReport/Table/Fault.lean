import UsageReport.Time.Reader

/-! What can be wrong with the parts of a table. -/

namespace UsageReport.Table

open UsageReport.Time (Unreadable)

/-- Why parts do not fit together as a table. -/
inductive ShapeFault where
  | tooFewColumns (columns : Nat)
  | firstColumn (name : String)
  | unitCount (units columns : Nat)
  | rowWidth (cells columns : Nat)
  | noColumns
  | unequalVectors
deriving DecidableEq, Repr

def timestampName : String := "Timestamp"

def ShapeFault.message : ShapeFault → String
  | .tooFewColumns columns =>
    "a time-series table needs a timestamp and at least one series, got "
      ++ toString columns ++ " columns"
  | .firstColumn name => "first column must be '" ++ timestampName ++ "', got '" ++ name ++ "'"
  | .unitCount units columns =>
    toString units ++ " units given for " ++ toString columns ++ " columns"
  | .rowWidth cells columns =>
    "row has " ++ toString cells ++ " cells, table has " ++ toString columns ++ " columns"
  | .noColumns => "a categorical table needs at least one column"
  | .unequalVectors => "columnar vectors have different lengths"

/-- Why a table or a row is refused. -/
inductive Fault where
  | shape (fault : ShapeFault)
  | timestamp (text : Unreadable)
deriving DecidableEq, Repr

def Fault.message : Fault → String
  | .shape fault => "shape error: " ++ fault.message
  | .timestamp text => text.message

end UsageReport.Table
