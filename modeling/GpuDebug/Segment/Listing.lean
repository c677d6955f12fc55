import GpuDebug.Segment
import GpuDebug.Text.Numeral

/-!
# Listing the load map

* `SegmentTable.listing`: a table of the loaded segments, one on each line.
-/

namespace GpuDebug

/-- The columns of a line, each filled up to its width. -/
def Segment.columns (index base size codeBase executed : String) : String :=
  " ".intercalate
    [Numeral.padRight 4 index, Numeral.padRight 18 base, Numeral.padRight 10 size,
      Numeral.padRight 18 codeBase, Numeral.padRight 5 executed]

/-- The line of a segment. Addresses have all their digits. -/
def Segment.line (s : Segment) (index : Nat) : String :=
  let address (n : UInt64) := "0x" ++ Numeral.padLeft '0' 16 (Numeral.hex n.toNat)
  Segment.columns (toString index) (address s.base) ("0x" ++ Numeral.hex s.size.toNat)
    (address s.codeBase) (toString s.isExecuted)

/-- The lines of the loaded segments below a heading. -/
def SegmentTable.listing (t : SegmentTable) : List String :=
  if t.segments.isEmpty then ["No segments loaded"]
  else
    Segment.columns "#" "process base" "size" "elf base" "exec" ::
      t.segments.zipIdx.map fun (s, index) => s.line index

end GpuDebug
