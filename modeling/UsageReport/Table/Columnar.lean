import UsageReport.Codec.Base64
import UsageReport.Codec.Wire
import UsageReport.Table.TimeSeries
import UsageReport.Text.Blank

/-! The compact form of a table of series over time: its columns as vectors, the vectors as bytes
behind a version, and the bytes compressed and as text. Reading the form gives the table back. -/

namespace UsageReport.Table

open UsageReport.Time (Instant)
open UsageReport.Codec (Format)

/-- A table column by column. Timestamps are split into seconds from 1970-01-01 and nanoseconds. -/
structure Columnar where
  columnNames : List String
  columnUnits : List String
  seconds : List Int64
  nanos : List UInt32
  series : List (List Number)
deriving BEq

/-- Why a compact form holds no table. -/
inductive CompactFault where
  | base64 (fault : Codec.Base64.Fault)
  | compression
  | version (n : UInt8)
  | payload
  | timestamp (seconds : Int64) (nanos : UInt32)
  | table (fault : Fault)
deriving DecidableEq

def CompactFault.message : CompactFault → String
  | .base64 fault => "base64: " ++ fault.message
  | .compression => "deflate: corrupt stream"
  | .version n => "unsupported columnar format version " ++ toString n.toNat
  | .payload => "the payload does not fit its format"
  | .timestamp seconds nanos =>
    "timestamp " ++ toString seconds.toInt ++ "." ++ toString nanos.toNat ++ " out of range"
  | .table fault => fault.message

namespace Columnar

/-- The vectors in the order in which they are written. -/
def format : Format Columnar :=
  (Format.text.list.pair (Format.text.list.pair
    (Format.int64.list.pair (Format.word32.list.pair Format.real.list.list)))).map
    (fun (names, units, seconds, nanos, series) => ⟨names, units, seconds, nanos, series⟩)
    (fun c => (c.columnNames, c.columnUnits, c.seconds, c.nanos, c.series))

def formatVersion : UInt8 := 1

def blob (c : Columnar) : List UInt8 := formatVersion :: format.put c

/-- Reads the bytes of a table. Bytes behind the vectors are ignored; no bytes at all count as
version zero. -/
def ofBlob : List UInt8 → Except CompactFault Columnar
  | [] => .error (.version 0)
  | version :: payload =>
    if version ≠ formatVersion then .error (.version version)
    else
      match format.get? payload with
      | some (c, _) => .ok c
      | none => .error .payload

def encode (c : Columnar) : String :=
  String.ofList ((Codec.Base64.encode (Codec.Zlib.compress c.blob)).map fun b => Char.ofNat b.toNat)

/-- Reads a text between blanks. -/
def decode (text : String) : Except CompactFault Columnar := do
  let symbols := Codec.textBytes (String.ofList (Text.trim text.toList))
  let compressed ← (Codec.Base64.decode symbols).mapError .base64
  match Codec.Zlib.decompress? compressed with
  | some bytes => ofBlob bytes
  | none => throw .compression

/-- The timestamps, of which the first that does not exist is reported. -/
def instants : List (Int64 × UInt32) → Except CompactFault (List Instant)
  | [] => .ok []
  | (seconds, nanos) :: rest =>
    match Instant.ofEpoch? seconds.toInt nanos.toNat with
    | none => .error (.timestamp seconds nanos)
    | some t => (instants rest).map (t :: ·)

/-- The rows at the given instants: the first values of all vectors, then the second ones. -/
def rowsOf : List Instant → List (List Number) → List Row
  | [], _ => []
  | t :: rest, vectors => ⟨t, vectors.filterMap List.head?⟩ :: rowsOf rest (vectors.map List.tail)

/-- The table of the vectors, where they fit together. -/
def table (c : Columnar) : Except CompactFault TimeSeries := do
  let count := c.seconds.length
  if c.nanos.length ≠ count ∨ c.series.any (·.length ≠ count) then
    throw (.table (.shape .unequalVectors))
  let times ← instants (c.seconds.zip c.nanos)
  let empty ← (TimeSeries.create c.columnNames (some c.columnUnits)).mapError .table
  (empty.extend (rowsOf times c.series)).mapError .table

end Columnar

namespace TimeSeries

/-- The table column by column. -/
def columnar (t : TimeSeries) : Columnar where
  columnNames := t.columnNames
  columnUnits := t.columnUnits
  seconds := t.rows.map fun row => Int64.ofInt row.time.epochSeconds
  nanos := t.rows.map fun row => UInt32.ofNat row.time.nanos
  series := (List.range t.series.length).map t.column

def encodeCompact (t : TimeSeries) : String := t.columnar.encode

def decodeCompact (text : String) : Except CompactFault TimeSeries := do
  (← Columnar.decode text).table

end TimeSeries

end UsageReport.Table
