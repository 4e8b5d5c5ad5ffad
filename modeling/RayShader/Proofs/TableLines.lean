import RayShader.Proofs.Bindings

/-!
# Tables and blocks, line by line

A table of lights and the block of a material define each light and the bsdf on a line of
its own, which ends with the name in a comment. The names may be any texts, with breaks in
them as well: the lines of the whole are those of its parts, whatever the names are.
-/

namespace RayShader

open Stock (declarationContent lightContent lightName bsdfName lightTable materialBlock lightLine
  lightArm declarationText)
open Text (lines IsLine)

/-! ### Comments -/

namespace Text

/-- The characters in front of a comment. -/
def codeChars : List Char → List Char
  | [] => []
  | c :: rest => if c = '/' ∧ rest.head? = some '/' then [] else c :: codeChars rest

/-- The part of a line in front of the comment at its end. -/
def code (line : String) : String := .ofList (codeChars line.toList)

/-- What stands in a comment is no code. -/
theorem code_comment (front comment comment' : String) :
    code (front ++ ("//" ++ comment)) = code (front ++ ("//" ++ comment')) := by
  have chars (cs more more' : List Char) :
      codeChars (cs ++ '/' :: '/' :: more) = codeChars (cs ++ '/' :: '/' :: more') := by
    induction cs with
    | nil => rfl
    | cons c cs ih =>
      have next : (cs ++ '/' :: '/' :: more).head? = (cs ++ '/' :: '/' :: more').head? := by
        cases cs <;> rfl
      simp only [List.cons_append, codeChars, next, ih]
  simp only [code, String.toList_append]
  exact congrArg String.ofList (chars _ _ _)

/-- The code of a line with a comment stands in front of the comment. -/
theorem code_comment_infix (front comment : String) :
    (code (front ++ ("//" ++ comment))).toList <:+: front.toList := by
  have chars (cs more : List Char) : codeChars (cs ++ '/' :: '/' :: more) <+: cs := by
    induction cs with
    | nil => exact List.nil_prefix
    | cons c cs ih =>
      rw [List.cons_append, codeChars]
      split
      · exact List.nil_prefix
      · exact List.cons_prefix_cons.mpr ⟨rfl, ih⟩
  rw [code, String.toList_ofList, String.toList_append, String.toList_append]
  exact (chars _ _).isInfix

/-- The code of a line is nothing, or begins like the line. -/
theorem head?_code (line : String) :
    (code line).toList.head? = none ∨ (code line).toList.head? = line.toList.head? := by
  rw [code, String.toList_ofList]
  cases line.toList with
  | nil => exact .inl rfl
  | cons c cs =>
    rw [codeChars]
    split
    · exact .inl rfl
    · exact .inr rfl

/-- Texts with breaks behind them, whose lines come one text after the other. -/
theorem lines_join_flatMap {α : Type} {as : List α} {text line : α → String}
    (h : ∀ a ∈ as, text a = line a ++ "\n") (t : String) :
    lines (.join (as.map text) ++ t) = as.flatMap (fun a => lines (line a)) ++ lines t := by
  induction as with
  | nil => simp
  | cons a as ih =>
    obtain ⟨ends, others⟩ := List.forall_mem_cons.mp h
    rw [List.map_cons, String.join_cons, ends, String.append_assoc, String.append_assoc,
      lines_break, ih others, List.flatMap_cons, List.append_assoc]

end Text

namespace Stock

/-! ### Lines that define -/

/-- A line that binds a name to a function of the shading context. -/
def closureLine (name body : String) : String :=
  "  let " ++ (name ++ (" = @|ctx: ShadingContext| " ++ body))

/-- The line that defines a bsdf, without its end. -/
def bsdfContent (group : Nat) (name bsdf : String) : String :=
  closureLine (bsdfName group) ("-> Bsdf \x7b " ++ (bsdf ++ (" \x7d; // " ++ name)))

/-- The line that binds the shader of a hit group, without its end. -/
def shaderContent (group : Nat) : String :=
  closureLine "shader" ("make_material(bsdf_" ++ (toString group ++ "(ctx));"))

/-- The line of a light up to its name. -/
def lightCode (i : Nat) (expr : String) : String := "  let " ++ (lightName i ++ (" = " ++ (expr ++ "; ")))

/-- The line of a bsdf up to its name. -/
def bsdfCode (group : Nat) (bsdf : String) : String :=
  closureLine (bsdfName group) ("-> Bsdf \x7b " ++ (bsdf ++ " \x7d; "))

variable {name expr bsdf : String}

theorem lightContent_eq (i : Nat) :
    lightContent ((name, expr), i) = lightCode i expr ++ ("//" ++ (" " ++ name)) := by
  have behind : "; // " = "; " ++ ("//" ++ " ") := by decide
  simp only [lightContent, lightCode, behind, String.append_assoc]

theorem bsdfContent_eq (group : Nat) :
    bsdfContent group name bsdf = bsdfCode group bsdf ++ ("//" ++ (" " ++ name)) := by
  have behind : " \x7d; // " = " \x7d; " ++ ("//" ++ " ") := by decide
  simp only [bsdfContent, bsdfCode, closureLine, behind, String.append_assoc]

theorem isLine_lightCode (i : Nat) (he : IsLine expr) : IsLine (lightCode i expr) :=
  .append (.literal rfl) (.append (.append (.literal rfl) (Text.isLine_nat i))
    (.append (.literal rfl) (.append he (.literal rfl))))

theorem isLine_bsdfCode (group : Nat) (hb : IsLine bsdf) : IsLine (bsdfCode group bsdf) :=
  .append (.literal rfl) (.append (.append (.literal rfl) (Text.isLine_nat group))
    (.append (.literal rfl) (.append (.literal rfl) (.append hb (.literal rfl)))))

theorem isLine_lightContent (i : Nat) (he : IsLine expr) (hn : IsLine name) :
    IsLine (lightContent ((name, expr), i)) := by
  rw [lightContent_eq]
  exact (isLine_lightCode i he).append (.append (.literal rfl) (.append (.literal rfl) hn))

theorem isLine_bsdfContent (group : Nat) (hb : IsLine bsdf) (hn : IsLine name) :
    IsLine (bsdfContent group name bsdf) := by
  rw [bsdfContent_eq]
  exact (isLine_bsdfCode group hb).append (.append (.literal rfl) (.append (.literal rfl) hn))

/-- Code with a name in a comment behind it has one line, and the others are of the name. -/
theorem lines_named {code : String} (hc : IsLine code) (name : String) :
    ∃ comment, lines (code ++ ("//" ++ (" " ++ name))) = (code ++ comment) :: (lines name).tail := by
  have front : IsLine (code ++ ("//" ++ " ")) := hc.append (.append (.literal rfl) (.literal rfl))
  obtain ⟨first, rest, parts, all⟩ := Text.lines_append front name
  refine ⟨"//" ++ (" " ++ first), ?_⟩
  rw [parts, List.tail_cons]
  simpa only [String.append_assoc] using all

theorem lines_lightContent (i : Nat) (he : IsLine expr) (name : String) : ∃ comment,
    lines (lightContent ((name, expr), i)) = (lightCode i expr ++ comment) :: (lines name).tail := by
  rw [lightContent_eq]
  exact lines_named (isLine_lightCode i he) name

theorem lines_bsdfContent (group : Nat) (hb : IsLine bsdf) (name : String) : ∃ comment,
    lines (bsdfContent group name bsdf) = (bsdfCode group bsdf ++ comment) :: (lines name).tail := by
  rw [bsdfContent_eq]
  exact lines_named (isLine_bsdfCode group hb) name

/-! ### Tables and blocks -/

/-- What a table of so many lights has behind their lines. -/
def tableRest (count : Nat) : String :=
  .join ["  let num_lights = ", toString count,
    " : i32;\n  let lights = @|id: i32| -> Light \x7b\n    match id \x7b\n",
    .join ((List.range count).map fun i => lightArm (("", ""), i)),
    "      _ => make_null_light()\n    \x7d\n  \x7d;\n",
    "  let light_selector = make_uniform_light_selector(lights, num_lights);"]

theorem lightLine_eq (p : (String × String) × Nat) : lightLine p = lightContent p ++ "\n" := by
  have stem : "  let light_" = "  let " ++ "light_" := by decide
  simp only [lightLine, lightContent, lightName, String.join_cons, String.join_nil, stem,
    String.append_assoc, String.append_empty]

/-- A table has the lines of its declarations and of its lights, whatever their names are. -/
theorem lines_lightTable_eq (buffers : List Nat) (entries : List (String × String)) :
    lines (lightTable buffers entries) = buffers.flatMap (fun b => lines (declarationContent b))
      ++ (entries.zipIdx.flatMap (fun p => lines (lightContent p))
        ++ lines (tableRest entries.length)) := by
  have arms : entries.zipIdx.map lightArm
      = (List.range entries.length).map fun i => lightArm (("", ""), i) := by
    rw [List.range_eq_range', ← List.zipIdx_map_snd, List.map_map]
    rfl
  have parts : lightTable buffers entries = .join (buffers.map ShadingTree.declaration)
      ++ (.join (entries.zipIdx.map lightLine) ++ tableRest entries.length) := by
    simp only [lightTable, declarationText, tableRest, arms, String.join_cons, String.join_nil,
      String.append_empty]
  rw [parts, Text.lines_join_flatMap fun b _ => (declaration_eq b).1,
    Text.lines_join_flatMap fun p _ => lightLine_eq p]

/-- The block of a material has the lines of its declarations, of the bsdf and of the shader,
whatever its name is. -/
theorem lines_materialBlock_eq (buffers : List Nat) (group : Nat) (name bsdf : String) :
    lines (materialBlock buffers group name bsdf)
      = buffers.flatMap (fun b => lines (declarationContent b))
        ++ (lines (bsdfContent group name bsdf) ++ lines (shaderContent group)) := by
  have stem : "  let bsdf_" = "  let " ++ "bsdf_" := rfl
  have front : " = @|ctx: ShadingContext| -> Bsdf \x7b "
      = " = @|ctx: ShadingContext| " ++ "-> Bsdf \x7b " := rfl
  have behind : "\n  let shader = @|ctx: ShadingContext| make_material(bsdf_"
      = "\n" ++ ("  let " ++ ("shader" ++ (" = @|ctx: ShadingContext| " ++ "make_material(bsdf_"))) := rfl
  have parts : materialBlock buffers group name bsdf = .join (buffers.map ShadingTree.declaration)
      ++ (bsdfContent group name bsdf ++ ("\n" ++ shaderContent group)) := by
    simp only [materialBlock, declarationText, bsdfContent, shaderContent, closureLine, bsdfName,
      String.join_cons, String.join_nil, stem, front, behind, String.append_assoc, String.append_empty]
  rw [parts, Text.lines_join_flatMap fun b _ => (declaration_eq b).1, Text.lines_break]

end Stock

end RayShader
