/-!
# Device targets

A target names the processor that generated programs run on. Generation reads it for
one thing, the statement that constructs the device.
-/

namespace RayShader

/-- The instruction set, or the vendor of a graphics processor. -/
inductive Architecture where
  /-- Scalar code for any processor. -/
  | generic
  /-- Vectors of four numbers. -/
  | sse42
  /-- Vectors of eight numbers. -/
  | avx
  /-- Vectors of eight numbers, with whole numbers. -/
  | avx2
  /-- Vectors of sixteen numbers. -/
  | avx512
  /-- Vectors of four numbers on another instruction set. -/
  | asimd
  /-- Graphics processors of one vendor. -/
  | nvidia
  /-- Graphics processors of another vendor. -/
  | amd
  deriving DecidableEq

namespace Architecture

/-- Every architecture. -/
def all : List Architecture := [generic, sse42, avx, avx2, avx512, asimd, nvidia, amd]

/-- The name in a serialised target. -/
def key : Architecture → String
  | generic => "generic"
  | sse42 => "sse42"
  | avx => "avx"
  | avx2 => "avx2"
  | avx512 => "avx512"
  | asimd => "asimd"
  | nvidia => "nvidia"
  | amd => "amd"

/-- The name in a diagnostic. -/
def title : Architecture → String
  | generic => "Generic"
  | sse42 => "Sse42"
  | avx => "Avx"
  | avx2 => "Avx2"
  | avx512 => "Avx512"
  | asimd => "Asimd"
  | nvidia => "Nvidia"
  | amd => "Amd"

/-- The architecture with the given key. -/
def ofKey? (key : String) : Option Architecture := all.find? (·.key = key)

/-- A graphics processor. -/
def isGpu : Architecture → Bool
  | nvidia | amd => true
  | _ => false

/-- No graphics processor. -/
def isCpu (a : Architecture) : Bool := !a.isGpu

/-- How many numbers the processor handles at once. -/
def vectorWidth : Architecture → UInt64
  | generic => 1
  | sse42 | asimd => 4
  | avx | avx2 => 8
  | avx512 => 16
  | nvidia | amd => 32

end Architecture

/-- The processor that programs are generated for. -/
structure Target where
  /-- Its architecture. -/
  architecture : Architecture
  /-- How many numbers are handled at once. -/
  vectorWidth : UInt64
  /-- The number of the graphics processor in a system with several. -/
  device : UInt64
  /-- The number of threads, or zero to leave the choice to the runtime. -/
  threadCount : UInt64
  deriving DecidableEq

namespace Target

/-- A target with the native width of a processor that is no graphics processor. -/
def cpu (architecture : Architecture) : Target := ⟨architecture, architecture.vectorWidth, 0, 0⟩

/-- A target with the native width of the graphics processor of the given number. -/
def gpu (architecture : Architecture) (device : UInt64) : Target :=
  ⟨architecture, architecture.vectorWidth, device, 0⟩

instance : Inhabited Target := ⟨cpu .generic⟩

/-- The target is a graphics processor. -/
def isGpu (t : Target) : Bool := t.architecture.isGpu

/-- The target is no graphics processor. -/
def isCpu (t : Target) : Bool := t.architecture.isCpu

end Target

end RayShader
