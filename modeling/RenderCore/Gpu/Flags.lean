import RenderCore.Text.Hex
namespace RenderCore

structure Stage where
  bits : UInt32
deriving DecidableEq, Inhabited

namespace Stage

def vertex : Stage := ⟨0x1⟩
def tessellationControl : Stage := ⟨0x2⟩
def tessellationEvaluation : Stage := ⟨0x4⟩
def geometry : Stage := ⟨0x8⟩
def fragment : Stage := ⟨0x10⟩
def compute : Stage := ⟨0x20⟩

instance : OrOp Stage := ⟨fun a b => ⟨a.bits ||| b.bits⟩⟩

def names : List (UInt32 × String) :=
  [(0x1, "Vertex"), (0x2, "TessellationControl"), (0x4, "TessellationEvaluation"),
   (0x8, "Geometry"), (0x10, "Fragment"), (0x20, "Compute")]

-- `None` for the empty set, otherwise the names of the known stages joined by `|`. Unknown bits are
-- not written, so a set of unknown bits alone is written as nothing.
def display (s : Stage) : String :=
  if s.bits = 0 then "None"
  else "|".intercalate ((names.filter (fun n => s.bits &&& n.1 ≠ 0)).map (·.2))

end Stage

structure PipelineStage where
  bits : UInt64
deriving DecidableEq, Inhabited

structure BufferUsage where
  bits : UInt32
deriving DecidableEq, Inhabited

namespace BufferUsage

def names : List (UInt32 × String) :=
  [(0x1, "TRANSFER_SRC"), (0x2, "TRANSFER_DST"), (0x4, "UNIFORM_TEXEL"),
   (0x8, "STORAGE_TEXEL"), (0x10, "UNIFORM"), (0x20, "STORAGE"), (0x40, "INDEX"),
   (0x80, "VERTEX"), (0x100, "INDIRECT")]

def known : UInt32 := 0x1FF

-- `BufferUsage(...)` around the set flag names joined by ` | `, then the unknown bits as one
-- lowercase hexadecimal word; `BufferUsage(0x0)` when no bit is set.
def debugText (u : BufferUsage) : String :=
  if u.bits = 0 then "BufferUsage(0x0)"
  else
    let named := (names.filter (fun n => u.bits &&& n.1 ≠ 0)).map (·.2)
    let unknown := u.bits &&& ~~~known
    let parts := named ++ (if unknown = 0 then [] else ["0x" ++ Hex.lower unknown.toNat])
    "BufferUsage(" ++ " | ".intercalate parts ++ ")"

end BufferUsage

end RenderCore
