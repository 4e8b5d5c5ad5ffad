import RayShader.Run
import RayShader.Variant

/-!
# Compiling programs once

A compiler turns the text of a program into a handle. The cache keeps the handle of
every text that was compiled and asks the compiler only for new ones, whatever the
kind of shader. A text that the compiler refuses is not kept. Texts are told apart by
their fingerprints.
-/

namespace RayShader

/-- A compiler with a state. -/
structure Compiler (σ : Type) where
  /-- Compiles the program of a shader. -/
  compile : ShaderKind → String → σ → σ × Except Error Nat
  /-- The fingerprint of a text: the text itself, unless the compiler comes with another. -/
  fingerprint : String → String := id

/-- A compiler's state together with what it has compiled. -/
structure Cache (σ : Type) where
  /-- The state of the compiler. -/
  state : σ
  /-- The handles by the fingerprint of their texts. -/
  modules : List (String × Nat)

namespace Cache

variable {σ : Type}

/-- Nothing is compiled. -/
def ofState (state : σ) : Cache σ := ⟨state, []⟩

/-- The number of texts that were compiled. -/
def moduleCount (c : Cache σ) : Nat := c.modules.length

/-- Asks the compiler. -/
def callCompiler (compiler : Compiler σ) (kind : ShaderKind) (source : String) :
    Stage (Cache σ) Nat :=
  Stage.ofStep fun c =>
    let (state, result) := compiler.compile kind source c.state
    ({ c with state := state }, result.mapError .error)

/-- The handle of a program, which is compiled unless its text was compiled before. -/
def compile (compiler : Compiler σ) (kind : ShaderKind) (source : String) :
    Stage (Cache σ) Nat := do
  let c ← Stage.get
  match c.modules.lookup (compiler.fingerprint source) with
  | some handle =>
    Stage.log .debug s!"Reusing compiled {kind.title} ({Event.fingerprint})"
    pure handle
  | none =>
    let handle ← callCompiler compiler kind source
    Stage.log .debug s!"Compiled {kind.title} ({Event.fingerprint}, {source.utf8ByteSize} bytes)"
    Stage.modify fun c => { c with modules := c.modules ++ [(compiler.fingerprint source, handle)] }
    pure handle

/-- The handles of a variant, slot by slot. -/
def compileVariant (compiler : Compiler σ) (v : Variant String) : Stage (Cache σ) (Variant Nat) :=
  v.mapM (compile compiler)

/-- The handles of several variants. -/
def compileAll (compiler : Compiler σ) : List (Variant String) → Stage (Cache σ) (List (Variant Nat))
  | [] => pure []
  | v :: rest => do
    let w ← compileVariant compiler v
    let more ← compileAll compiler rest
    pure (w :: more)

end Cache

end RayShader
