import RayShader.Text.Blank
import RayShader.Text.Hex
import RayShader.Text.Split

/-!
# Features of a technique variant

A set of features is a word of 32 bits. Five bits have names; the others mean nothing
here and are kept. A set is written as the names of its features and, in base sixteen,
the bits without a name, with bars between them.
-/

namespace RayShader.Technique

/-- A feature with a name. -/
inductive Feature where
  /-- Shaders read the table of lights. -/
  | usesLights
  /-- The miss shader reaches every light. -/
  | usesAllLightsInMiss
  /-- Shaders do not write pixels. -/
  | lockFramebuffer
  /-- A callback runs before each iteration. -/
  | beforeIterationCallback
  /-- A callback runs after each iteration. -/
  | afterIterationCallback
  deriving DecidableEq

namespace Feature

/-- Every feature, in the order of the bits. -/
def all : List Feature :=
  [usesLights, usesAllLightsInMiss, lockFramebuffer, beforeIterationCallback, afterIterationCallback]

/-- The position of the bit. -/
def index : Feature → Nat
  | usesLights => 0
  | usesAllLightsInMiss => 1
  | lockFramebuffer => 2
  | beforeIterationCallback => 3
  | afterIterationCallback => 4

/-- The name in a text. -/
def key : Feature → String
  | usesLights => "USES_LIGHTS"
  | usesAllLightsInMiss => "USES_ALL_LIGHTS_IN_MISS"
  | lockFramebuffer => "LOCK_FRAMEBUFFER"
  | beforeIterationCallback => "BEFORE_ITERATION_CALLBACK"
  | afterIterationCallback => "AFTER_ITERATION_CALLBACK"

end Feature

/-- A set of features. -/
structure Features where
  /-- The bits of the set. -/
  bits : BitVec 32
  deriving DecidableEq

namespace Features

/-- The set without features. -/
def none : Features := ⟨0⟩

instance : Inhabited Features := ⟨none⟩

/-- The feature is in the set. -/
def contains (s : Features) (f : Feature) : Bool := s.bits.getLsbD f.index

/-- The bits of either set. -/
def union (s t : Features) : Features := ⟨s.bits ||| t.bits⟩

/-- The set of one feature. -/
def single (f : Feature) : Features := ⟨BitVec.twoPow 32 f.index⟩

/-- The set of the features of a list. -/
def ofList (fs : List Feature) : Features := fs.foldl (fun s f => s.union (single f)) none

/-- The bits without a name, in place. -/
def unnamed (s : Features) : Nat := (s.bits >>> Feature.all.length <<< Feature.all.length).toNat

/-! ### As a text -/

/-- The parts of the text: the names, then the bits without one. -/
def parts (s : Features) : List String :=
  (Feature.all.filter s.contains).map Feature.key
    ++ (if s.unnamed = 0 then [] else ["0x" ++ .ofList (Nat.toDigits 16 s.unnamed)])

/-- The text of a set. -/
def text (s : Features) : String := String.intercalate " | " s.parts

/-- The digits of a word, behind an optional plus sign; at least one. -/
def word? (cs : List Char) : Option Features :=
  let digits := match cs with
    | '+' :: rest => rest
    | cs => cs
  if digits = [] then Option.none
  else (Text.hexNumber? 0 digits).bind fun n =>
    if n < 0x100000000 then some ⟨.ofNat 32 n⟩ else Option.none

/-- The set that one part names: bits in base sixteen, or a feature. -/
def part? (s : String) : Option Features :=
  match s.toList with
  | '0' :: 'x' :: digits => word? digits
  | _ => (Feature.all.find? (·.key = s)).map single

/-- The union of the sets that the parts name. -/
def union? : List (List Char) → Option Features
  | [] => some none
  | p :: rest => do
    let s ← part? (Text.trim (.ofList p))
    let t ← union? rest
    pure (s.union t)

/-- The set that a text names; a blank text names no features. -/
def ofText? (s : String) : Option Features :=
  if s.toList.all Text.isBlank then some none else union? (Text.splitAt '|' s.toList)

end Features

end RayShader.Technique
