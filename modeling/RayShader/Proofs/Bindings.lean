import RayShader.Proofs.Compilation
import RayShader.Proofs.Declarations
import RayShader.Proofs.Lines
import RayShader.Proofs.Marks

/-!
# Names that contributions bind

What a contribution to a program binds is a matter of its template. The templates of
cameras, techniques and callbacks are whole lines, and each line has its name in front of
all places for values, so no value has a part in the names (`Template.Node.Bind`). The
table of lights and the material bind numbered names beside: one for each image that they
declare, one for each light, and one for the bsdf of the hit group.

The values of the scene that stand in contributions are numbers and known words, which
have no breaks. Only the names of lights and of bsdfs come as they are, behind the
expression that they belong to.
-/

namespace RayShader

open Program (Lets boundName?)
open Text (lines IsLine isWord)

/-! ### Templates of whole lines -/

namespace Template

variable {scope : Scope} {nodes more : List Node} {name begin tail tail' s : String}
  {names names' : List String}

/-- The text of the value has no break. -/
def Value.IsLine (v : Value) : Prop := ∀ s, v.text = .ok s → Text.IsLine s

theorem Value.isLine_string (h : Text.IsLine s) : (string s).IsLine := by
  intro t shown
  rwa [← Except.ok.inj shown]

theorem Value.isLine_int (n : Int) : (int n).IsLine := by
  intro t shown
  obtain rfl : toString n = t := Except.ok.inj shown
  exact Text.isLine_int n

theorem Value.isLine_nat (n : Nat) : (nat n).IsLine := isLine_int n

theorem Value.isLine_bool (b : Bool) : (bool b).IsLine := by
  intro t shown
  obtain rfl : (if b then "True" else "False") = t := Except.ok.inj shown
  cases b <;> decide

/-- The texts of the values have no breaks. -/
def Scope.IsLines (scope : Scope) : Prop := ∀ p ∈ scope, p.2.IsLine

theorem Scope.IsLines.render (h : scope.IsLines) (shown : (hole name).render scope = .ok s) :
    Text.IsLine s := by
  have value : ((scope.lookup name).getD .undefined).text = .ok s := shown
  cases found : scope.lookup name with
  | none =>
    rw [found] at value
    cases value
  | some v =>
    rw [found] at value
    obtain ⟨l, r, rfl, -⟩ := List.lookup_eq_some_iff.mp found
    exact h (name, v) (by simp) s value

namespace Node

theorem renderAll_cons {n : Node} (h : renderAll (n :: more) scope = .ok s) :
    ∃ x y, n.render scope = .ok x ∧ renderAll more scope = .ok y ∧ s = x ++ y := by
  rw [renderAll, except_bind_eq_ok] at h
  obtain ⟨x, first, h⟩ := h
  obtain ⟨y, others, h⟩ := except_bind_eq_ok.mp h
  exact ⟨x, y, first, others, (Except.ok.inj h).symm⟩

theorem renderAll_append (h : renderAll (nodes ++ more) scope = .ok s) :
    ∃ x y, renderAll nodes scope = .ok x ∧ renderAll more scope = .ok y ∧ s = x ++ y := by
  induction nodes generalizing s with
  | nil => exact ⟨"", s, rfl, h, String.empty_append.symm⟩
  | cons n nodes ih =>
    obtain ⟨x, y, first, others, rfl⟩ := renderAll_cons h
    obtain ⟨z, w, rest, behind, rfl⟩ := ih others
    exact ⟨x ++ z, w, by rw [renderAll, first, rest]; rfl, behind, String.append_assoc.symm⟩

/-- The text goes to the end of a line: its only break is that of `last`, which ends it. -/
def textEndsLine (last s : String) : Bool :=
  decide (last.toList <:+ s.toList ∧ '\n' ∉ s.toList.take (s.toList.length - last.toList.length))

/-- The nodes are texts and values, and go to the end of a line. -/
def endLine (last : String) : List Node → Bool
  | [.text s] => textEndsLine last s
  | .text s :: more => decide (Text.IsLine s) && endLine last more
  | .value (.name _) :: more => endLine last more
  | _ => false

theorem renderAll_endLine (hs : scope.IsLines) {last : String} (h : endLine last nodes = true)
    (shown : renderAll nodes scope = .ok s) : ∃ rest, Text.IsLine rest ∧ s = rest ++ last := by
  induction nodes using endLine.induct generalizing s with
  | case1 t =>
    obtain ⟨x, y, first, others, rfl⟩ := renderAll_cons shown
    obtain rfl : t = x := Except.ok.inj first
    obtain rfl : "" = y := Except.ok.inj others
    obtain ⟨ends, line⟩ := of_decide_eq_true h
    refine ⟨.ofList (t.toList.take (t.toList.length - last.toList.length)), ?_, ?_⟩
    · rwa [Text.IsLine, String.toList_ofList]
    · rw [String.append_empty]
      apply String.toList_inj.mp
      rw [String.toList_append, String.toList_ofList, List.suffix_iff_eq_append.mp ends]
  | case2 t more _ ih =>
    rw [endLine, Bool.and_eq_true] at h
    · obtain ⟨x, y, first, others, rfl⟩ := renderAll_cons shown
      obtain rfl : t = x := Except.ok.inj first
      obtain ⟨rest, line, rfl⟩ := ih h.2 others
      exact ⟨t ++ rest, (of_decide_eq_true h.1).append line, String.append_assoc.symm⟩
    · assumption
  | case3 n more ih =>
    obtain ⟨x, y, first, others, rfl⟩ := renderAll_cons shown
    obtain ⟨rest, line, rfl⟩ := ih (by simpa only [endLine] using h) others
    exact ⟨x ++ rest, (hs.render first).append line, String.append_assoc.symm⟩
  | case4 => simp_all [endLine]

/-- The nodes are lines that bind the names, and `tail` and a break are the end of the
last one. -/
def Bind (scope : Scope) (tail : String) (nodes : List Node) (names : List String) : Prop :=
  ∀ s, renderAll nodes scope = .ok s →
    ∃ t, s = t ++ (tail ++ "\n") ∧ Lets (lines (t ++ tail)) names

namespace Bind

/-- A line that begins with `let` and a name. -/
theorem line (name begin : String) (hs : scope.IsLines) (ht : Text.IsLine tail)
    (front : s = "  let " ++ (name ++ (" = " ++ begin)))
    (word : isWord name = true)
    (rest : endLine (tail ++ "\n") (.text begin :: more) = true) :
    Bind scope tail (.text s :: more) [name] := by
  intro r shown
  obtain ⟨x, y, first, others, rfl⟩ := renderAll_cons shown
  obtain rfl : s = x := Except.ok.inj first
  have behind : renderAll (.text begin :: more) scope = .ok (begin ++ y) := by
    rw [renderAll, others]
    rfl
  obtain ⟨rest, line, eq⟩ := renderAll_endLine hs rest behind
  refine ⟨"  let " ++ (name ++ (" = " ++ rest)), ?_, ?_⟩
  · simp only [front, String.append_assoc, eq]
  · have one : Text.IsLine ("  let " ++ (name ++ (" = " ++ (rest ++ tail)))) :=
      .append (by decide) (.append (Text.isLine_of_isWord word) (.append (by decide) (line.append ht)))
    have binds := Lets.binding word (rest ++ tail)
    rw [← Text.lines_of_isLine one] at binds
    simpa only [String.append_assoc] using binds

theorem append (h : Bind scope tail nodes names) (h' : Bind scope tail' more names') :
    Bind scope tail' (nodes ++ more) (names ++ names') := by
  intro s shown
  obtain ⟨x, y, first, others, rfl⟩ := renderAll_append shown
  obtain ⟨t, rfl, binds⟩ := h x first
  obtain ⟨u, rfl, binds'⟩ := h' y others
  refine ⟨(t ++ tail) ++ ("\n" ++ u), ?_, ?_⟩
  · simp only [String.append_assoc]
  · have both := binds.append binds'
    rw [← Text.lines_break] at both
    simpa only [String.append_assoc] using both

/-- A text with a break in front goes on behind a line. -/
theorem broken (front : List Node) {text y : String}
    (split : nodes = front ++ .text text :: more) (breaks : text = "\n" ++ y)
    (h : Bind scope tail (front ++ [.text "\n"]) names)
    (h' : Bind scope tail' (.text y :: more) names') : Bind scope tail' nodes (names ++ names') := by
  intro s shown
  refine h.append h' s ?_
  subst split breaks
  obtain ⟨x, z, first, others, rfl⟩ := renderAll_append shown
  obtain ⟨_, w, second, rest, rfl⟩ := renderAll_cons others
  obtain rfl := Except.ok.inj second
  rw [List.append_assoc]
  -- the text renders as the break and what goes on behind it, whatever stands in front
  clear h h' shown others
  induction front generalizing x with
  | nil =>
    obtain rfl : "" = x := Except.ok.inj first
    rw [List.nil_append, List.singleton_append, renderAll, renderAll, rest]
    simp [bind, Except.bind, pure, Except.pure, render, String.append_assoc]
  | cons n front ih =>
    obtain ⟨u, v, head, tail, rfl⟩ := renderAll_cons first
    rw [List.cons_append, renderAll, head, ih v tail]
    simp [bind, Except.bind, pure, Except.pure, String.append_assoc]

/-- A condition binds what one of its templates binds. -/
theorem cond (test : Test) {yes no : List Node} (hy : Bind scope tail yes names)
    (hn : Bind scope tail no names') :
    Bind scope tail [.cond test yes no] names ∨ Bind scope tail [.cond test yes no] names' := by
  have chosen {b : Bool} (answer : test.eval scope = .ok b) {s : String}
      (shown : renderAll [.cond test yes no] scope = .ok s) :
      renderAll (if b then yes else no) scope = .ok s := by
    obtain ⟨x, y, first, others, rfl⟩ := renderAll_cons shown
    obtain rfl : "" = y := Except.ok.inj others
    rw [render, answer] at first
    rw [String.append_empty]
    cases b <;> exact first
  cases answer : test.eval scope with
  | error e =>
    -- nothing is rendered
    refine .inl fun s shown => ?_
    obtain ⟨x, y, first, -⟩ := renderAll_cons shown
    rw [render, answer] at first
    cases first
  | ok b =>
    cases b with
    | true => exact .inl fun s shown => hy s (chosen answer shown)
    | false => exact .inr fun s shown => hn s (chosen answer shown)

/-- The blanks at the end that a filled template loses are the last break. -/
theorem fill (h : Bind scope ";" nodes names) (filled : Stock.fill nodes scope = .ok s) :
    Lets (lines s) names := by
  rw [Stock.fill, Template.fill] at filled
  cases shown : renderAll nodes scope with
  | error e =>
    rw [shown] at filled
    cases filled
  | ok text =>
    rw [shown] at filled
    obtain rfl : Text.trimEnd text = s := Except.ok.inj filled
    obtain ⟨t, rfl, binds⟩ := h text shown
    have last : Text.trimEnd (";" ++ "\n") = ";" := by decide +kernel
    rwa [Text.trimEnd_append (by rw [last]; decide), last]

end Bind

end Node

end Template

/-! ### Techniques, callbacks and cameras -/

namespace Stock

open Template

variable {c : Context} {o : Object} {s : String}

/-- A mode that is read is one of those that are known, up to case. -/
theorem known_of_readMode {modes : List String} {default category name mode : String} {i : Nat}
    (h : (do
      let mode := (← o.string? "mode").getD default
      match modeIndex? modes mode with
      | some index => pure (mode, index)
      | none => .error (.unsupportedKind category mode name)) = Except.ok (mode, i)) :
    ∃ m ∈ modes, m.toList.map Char.toLower = mode.toList.map Char.toLower := by
  obtain ⟨mode?, -, known⟩ := except_bind_eq_ok.mp h
  obtain ⟨i, found⟩ : ∃ i, modeIndex? modes mode = some i := by
    dsimp only at known
    split at known
    · rename_i found
      obtain ⟨rfl, -⟩ := Prod.mk.inj (Except.ok.inj known)
      exact ⟨_, found⟩
    · cases known
  obtain ⟨lt, same, -⟩ := List.findIdx?_eq_some_iff_getElem.mp found
  exact ⟨modes[i], List.getElem_mem lt, by simpa [Text.eqIgnoringCase] using same⟩

/-- A mode that is read has only the characters of those that are known, up to case. -/
theorem not_mem_of_readMode {modes : List String} {default category name mode : String} {i : Nat}
    {ch : Char} (caseless : ch.toLower = ch) (free : ∀ m ∈ modes, ch ∉ m.toList.map Char.toLower)
    (h : (do
      let mode := (← o.string? "mode").getD default
      match modeIndex? modes mode with
      | some index => pure (mode, index)
      | none => .error (.unsupportedKind category mode name)) = Except.ok (mode, i)) :
    ch ∉ mode.toList := by
  obtain ⟨m, known, lower⟩ := known_of_readMode h
  intro mem
  apply free m known
  rw [lower]
  exact List.mem_map.mpr ⟨ch, mem, caseless⟩

namespace Technique

/-- The parameters that are texts have no breaks. -/
structure Parameters.IsLines (p : Parameters) : Prop where
  /-- The greatest contribution. -/
  clamp : IsLine p.clamp
  /-- The quantity that is shown. -/
  mode : IsLine p.mode
  /-- The radius. -/
  radius : IsLine p.radius

/-- The parameters that are texts have no characters but those of literals and of modes. -/
theorem not_mem_parameters {t : Technique} {p : Parameters} (ch : Char)
    (literal : Program.isLiteralChar ch = false) (caseless : ch.toLower = ch)
    (free : ∀ m ∈ modes, ch ∉ m.toList.map Char.toLower) (h : t.parameters o = .ok p) :
    ch ∉ p.clamp.toList ∧ ch ∉ p.mode.toList ∧ ch ∉ p.radius.toList := by
  have empty : ch ∉ "".toList := by simp
  cases t with
  | path =>
    obtain ⟨depth, -, h⟩ := except_bind_eq_ok.mp h
    obtain ⟨clamp, -, h⟩ := except_bind_eq_ok.mp h
    obtain ⟨normals, -, h⟩ := except_bind_eq_ok.mp h
    obtain rfl := Except.ok.inj h
    exact ⟨Program.not_mem_floatLiteral literal clamp, empty, empty⟩
  | ambientOcclusion =>
    obtain rfl := Except.ok.inj h
    exact ⟨empty, empty, empty⟩
  | debug =>
    obtain ⟨⟨mode, index⟩, known, h⟩ := except_bind_eq_ok.mp h
    obtain rfl := Except.ok.inj h
    exact ⟨empty, not_mem_of_readMode caseless free known, empty⟩
  | lightVisibility =>
    obtain ⟨depth, -, h⟩ := except_bind_eq_ok.mp h
    obtain rfl := Except.ok.inj h
    exact ⟨empty, empty, empty⟩
  | photons =>
    obtain ⟨depth, -, h⟩ := except_bind_eq_ok.mp h
    obtain ⟨radius, -, h⟩ := except_bind_eq_ok.mp h
    obtain ⟨photons, -, h⟩ := except_bind_eq_ok.mp h
    obtain rfl := Except.ok.inj h
    exact ⟨empty, empty, Program.not_mem_floatLiteral literal radius⟩

theorem parameters_isLines {t : Technique} {p : Parameters} (h : t.parameters o = .ok p) :
    p.IsLines := by
  obtain ⟨clamp, mode, radius⟩ :=
    not_mem_parameters '\n' (by decide) (by decide) (by decide) h
  exact ⟨clamp, mode, radius⟩

theorem scope_isLines {p : Parameters} (h : p.IsLines) (isBefore : Bool) :
    (scope c isBefore p).IsLines := by
  simp only [Scope.IsLines, scope, Parameters.scope, List.forall_mem_cons]
  exact ⟨Value.isLine_nat _, Value.isLine_bool _, Value.isLine_int _, Value.isLine_string h.clamp,
    Value.isLine_bool _, Value.isLine_string h.mode, Value.isLine_nat _,
    Value.isLine_string h.radius, Value.isLine_int _, by simp⟩

/-- The names that techniques bind, in the order of their lines. -/
def names : List String := ["aov_normals", "aovs", "debug_mode", "ppm_radius", "technique"]

/-- Each template of a technique binds some of the names, and `technique` among them. -/
theorem bind_template (t : Technique) {scope : Scope} (hs : scope.IsLines) :
    ∃ ns, Node.Bind scope ";" t.template ns ∧ ns.Sublist names ∧ "technique" ∈ ns := by
  have ends : IsLine ";" := .literal rfl
  cases t with
  | path =>
    have image : Node.Bind scope ";"
        [.text "  let aov_normals = device.load_aov_image(\"Normals\", spp);\n"] ["aov_normals"] :=
      .line "aov_normals" "device.load_aov_image(\"Normals\", spp);\n" hs ends rfl rfl
        (by decide +kernel)
    have images : Node.Bind scope ";"
        [.text "  let aovs = @|id: i32| -> AOVImage \x7b if id == 1 \x7b aov_normals \x7d ",
          .text "else \x7b make_empty_aov_image(0, 0) \x7d \x7d;\n"] ["aovs"] :=
      .line "aovs" "@|id: i32| -> AOVImage \x7b if id == 1 \x7b aov_normals \x7d " hs ends rfl rfl
        (by decide +kernel)
    have none : Node.Bind scope ";"
        [.text "  let aovs = @|_id: i32| -> AOVImage \x7b make_empty_aov_image(0, 0) \x7d;\n"]
        ["aovs"] :=
      .line "aovs" "@|_id: i32| -> AOVImage \x7b make_empty_aov_image(0, 0) \x7d;\n" hs ends rfl rfl
        (by decide +kernel)
    have renderer : Node.Bind scope ";"
        [.text "  let technique = make_path_renderer(", hole "max_depth", .text ", aovs, ",
          hole "clamp", .text ");\n"] ["technique"] :=
      .line "technique" "make_path_renderer(" hs ends rfl rfl (by decide +kernel)
    rcases Node.Bind.cond (.holds (.name "aov_normals")) (image.append images) none with aovs | aovs
    · exact ⟨_, aovs.append renderer, by decide, by decide⟩
    · exact ⟨_, aovs.append renderer, by decide, by decide⟩
  | ambientOcclusion =>
    exact ⟨_, .line "technique" "make_ao_renderer();\n" hs ends rfl rfl (by decide +kernel),
      by decide, by decide⟩
  | debug =>
    have mode : Node.Bind scope "" [.text "  let debug_mode = ", hole "mode_id", .text " : i32; // ",
        hole "mode", .text "\n"] ["debug_mode"] :=
      .line "debug_mode" "" hs (.literal rfl) rfl rfl (by decide +kernel)
    have renderer : Node.Bind scope ";"
        [.text "  let technique = make_debug_renderer(debug_mode);\n"] ["technique"] :=
      .line "technique" "make_debug_renderer(debug_mode);\n" hs ends rfl rfl (by decide +kernel)
    exact ⟨_, .broken [_, _, _, _] rfl (by decide) mode renderer, by decide, by decide⟩
  | lightVisibility =>
    exact ⟨_, .line "technique" "make_lv_renderer(" hs ends rfl rfl (by decide +kernel),
      by decide, by decide⟩
  | photons =>
    have radius : Node.Bind scope ";" [.text "  let ppm_radius = ", hole "radius", .text ";\n"]
        ["ppm_radius"] :=
      .line "ppm_radius" "" hs ends rfl rfl (by decide +kernel)
    have tracing : Node.Bind scope ";"
        [.text "  let technique = make_ppm_light_emitter_renderer(", hole "max_depth", .text ", ",
          hole "photons", .text ", ppm_radius);\n"] ["technique"] :=
      .line "technique" "make_ppm_light_emitter_renderer(" hs ends rfl rfl (by decide +kernel)
    have gathering : Node.Bind scope ";"
        [.text "  let technique = make_ppm_path_renderer(", hole "max_depth",
          .text ", ppm_radius, device.load_photon_map());\n"] ["technique"] :=
      .line "technique" "make_ppm_path_renderer(" hs ends rfl rfl (by decide +kernel)
    rcases Node.Bind.cond (.isInt (.name "variant") 0) tracing gathering with one | one
    · exact ⟨_, radius.append one, by decide, by decide⟩
    · exact ⟨_, radius.append one, by decide, by decide⟩

theorem ofContext_isLines {t : Technique} {p : Parameters} (h : ofContext c = .ok (t, p)) :
    p.IsLines := by
  unfold ofContext at h
  split at h
  · obtain ⟨q, read, h⟩ := except_bind_eq_ok.mp h
    obtain ⟨rfl, rfl⟩ := Prod.mk.inj (Except.ok.inj h)
    exact parameters_isLines read
  · cases h

end Technique

/-- The lines of a technique bind some of its names, and `technique` among them. -/
theorem technique_binds (h : technique c = .ok s) :
    ∃ ns, Lets (lines s) ns ∧ ns.Sublist Technique.names ∧ "technique" ∈ ns := by
  obtain ⟨⟨t, p⟩, chosen, filled⟩ := except_bind_eq_ok.mp h
  have values := Technique.scope_isLines (c := c) (Technique.ofContext_isLines chosen) false
  obtain ⟨ns, binds, known, technique⟩ := t.bind_template values
  exact ⟨ns, binds.fill filled, known, technique⟩

/-- The lines of a callback bind `callback`. -/
theorem callback_binds {m : RayShader.Technique.Moment} (h : callback c m = .ok s) :
    Lets (lines s) ["callback"] := by
  unfold callback at h
  split at h
  · cases h
  · obtain ⟨⟨t, p⟩, chosen, filled⟩ := except_bind_eq_ok.mp h
    have hs := Technique.scope_isLines (c := c) (Technique.ofContext_isLines chosen) (m = .before)
    have before : Node.Bind (Technique.scope c (m = .before) p) ";"
        [.text "  let callback = @|iter: i32| ppm_reset_photon_map(device, iter, ", hole "photons",
          .text ");\n"] ["callback"] :=
      .line "callback" "@|iter: i32| ppm_reset_photon_map(device, iter, " hs (.literal rfl) rfl rfl
        (by decide +kernel)
    have after : Node.Bind (Technique.scope c (m = .before) p) ";"
        [.text "  let callback = @|iter: i32| ppm_shrink_radius(device, iter, ", hole "radius",
          .text ");\n"] ["callback"] :=
      .line "callback" "@|iter: i32| ppm_shrink_radius(device, iter, " hs (.literal rfl) rfl rfl
        (by decide +kernel)
    have either := Node.Bind.cond (.holds (.name "is_before")) before after
    exact (either.elim id id).fill filled

namespace Camera

theorem baseScope_isLines {base : Scope} (h : baseScope c o = .ok base) : base.IsLines := by
  obtain ⟨origin, -, h⟩ := except_bind_eq_ok.mp h
  obtain ⟨direction, -, h⟩ := except_bind_eq_ok.mp h
  obtain ⟨up, -, h⟩ := except_bind_eq_ok.mp h
  obtain ⟨near, -, h⟩ := except_bind_eq_ok.mp h
  obtain ⟨far, -, h⟩ := except_bind_eq_ok.mp h
  obtain rfl := Except.ok.inj h
  have vector (v : Vec3) : (Value.string (Program.vec3Literal v)).IsLine :=
    Value.isLine_string (Text.isLine_vec3Literal v)
  have number (x : Single) : (Value.string (Program.floatLiteral x)).IsLine :=
    Value.isLine_string (Text.isLine_floatLiteral x)
  simp only [Scope.IsLines, List.forall_mem_cons]
  exact ⟨vector _, vector _, vector _, number _, number _, number _, by simp⟩

/-- The names that cameras bind, in the order of their lines. -/
def names : List String := ["fisheye_mode", "camera"]

/-- The lines of each kind of camera bind some of the names, and `camera` among them. -/
theorem lines_binds (kind : Camera) {base : Scope} (hb : base.IsLines)
    (h : kind.lines c o base = .ok s) :
    ∃ ns, Lets (Text.lines s) ns ∧ ns.Sublist names ∧ "camera" ∈ ns := by
  have ends : IsLine ";" := .literal rfl
  have number (x : Single) : (Value.string (Program.floatLiteral x)).IsLine :=
    Value.isLine_string (Text.isLine_floatLiteral x)
  cases kind with
  | perspective =>
    obtain ⟨fov, -, filled⟩ := except_bind_eq_ok.mp h
    have hs : Scope.IsLines (("fov", .string (Program.floatLiteral (toRadians fov))) :: base) :=
      List.forall_mem_cons.mpr ⟨number _, hb⟩
    have camera : Node.Bind _ ";" Template.Stock.perspective ["camera"] :=
      .line "camera" "make_perspective_camera(" hs ends rfl rfl (by decide +kernel)
    exact ⟨_, camera.fill filled, by decide, by decide⟩
  | orthogonal =>
    obtain ⟨scale, -, filled⟩ := except_bind_eq_ok.mp h
    have hs : Scope.IsLines (("scale", .string (Program.floatLiteral scale)) :: base) :=
      List.forall_mem_cons.mpr ⟨number _, hb⟩
    have camera : Node.Bind _ ";" Template.Stock.orthogonal ["camera"] :=
      .line "camera" "make_orthogonal_camera(" hs ends rfl rfl (by decide +kernel)
    exact ⟨_, camera.fill filled, by decide, by decide⟩
  | fishlens =>
    obtain ⟨⟨mode, index⟩, known, filled⟩ := except_bind_eq_ok.mp h
    have unbroken : IsLine mode := not_mem_of_readMode (by decide) (by decide) known
    have hs : Scope.IsLines (("mode", .string mode) :: ("mode_id", .nat index)
        :: ("width", .string (Program.floatLiteral (.ofInt c.filmWidth.toNat)))
        :: ("height", .string (Program.floatLiteral (.ofInt c.filmHeight.toNat))) :: base) := by
      simp only [Scope.IsLines, List.forall_mem_cons]
      exact ⟨Value.isLine_string unbroken, Value.isLine_nat _, number _, number _, hb⟩
    have cut : Node.Bind _ "" [.text "  let fisheye_mode = ", hole "mode_id", .text " : i32; // ",
        hole "mode", .text "\n"] ["fisheye_mode"] :=
      .line "fisheye_mode" "" hs (.literal rfl) rfl rfl (by decide +kernel)
    have camera : Node.Bind _ ";" (.text "  let camera = make_fishlens_camera(" ::
        Template.Stock.fishlens.drop 5) ["camera"] :=
      .line "camera" "make_fishlens_camera(" hs ends rfl rfl (by decide +kernel)
    have both : Node.Bind _ ";" Template.Stock.fishlens (["fisheye_mode"] ++ ["camera"]) :=
      .broken [_, _, _, _] rfl (by decide) cut camera
    exact ⟨_, both.fill filled, by decide, by decide⟩

end Camera

/-- The lines of a camera bind some of its names, and `camera` among them. -/
theorem camera_binds (h : camera c = .ok s) :
    ∃ ns, Lets (lines s) ns ∧ ns.Sublist Camera.names ∧ "camera" ∈ ns := by
  obtain ⟨base, made, h⟩ := except_bind_eq_ok.mp h
  split at h
  · exact Camera.lines_binds _ (Camera.baseScope_isLines made) h
  · cases h

/-! ### Lights and materials -/

/-! The expressions of lights and materials have no breaks. -/

theorem isLine_callText (head : String) (args : List String) (hh : IsLine head)
    (ha : ∀ arg ∈ args, IsLine arg) : IsLine (Program.callText head args) :=
  Program.not_mem_callText (by decide) hh ha

theorem isLine_imageName (b : Nat) : IsLine (ShadingTree.imageName b) :=
  .append (.literal rfl) (Text.isLine_nat b)

end Stock

namespace ShadingTree

variable {c : Context} {o : Object} {property : String}

theorem gives_literal {α : Type} {r : Except Error α} {literal : α → String} {P : String → Prop}
    (h : ∀ a, P (literal a)) : (Stage.read (r.map literal) : Stage ShadingTree String).Gives P := by
  intro t t' s gave
  obtain ⟨-, made⟩ := Stage.step_read_eq_ok.mp gave
  cases r with
  | error e => cases made
  | ok a => exact Except.ok.inj made ▸ h a

theorem gives_vector (default : Vec3) : (vector o property default).Gives IsLine :=
  gives_literal Text.isLine_vec3Literal

theorem gives_number (default : Single) : (number o property default).Gives IsLine :=
  gives_literal Text.isLine_floatLiteral

theorem gives_ior (default : Single) : (ior o property default).Gives IsLine :=
  gives_literal Text.isLine_floatLiteral

theorem gives_texture (buffer : Nat) : (texture buffer).Gives IsLine := by
  intro t t' s gave
  obtain ⟨-, named⟩ := adds_texture buffer t t' s gave
  rw [named]
  exact Stock.isLine_imageName buffer

theorem gives_color (default : Vec3) : (color c o property default).Gives IsLine := by
  refine .bind (.any _) fun value _ => ?_
  cases value with
  | texture buffer =>
    exact (gives_texture buffer).bind fun name line => .pure (line.append (.literal rfl))
  | color v => exact .pure (Text.isLine_colorLiteral v)

end ShadingTree

namespace Stock

variable {c : Context} {o : Object}

/-- The expression of a light has no break. -/
theorem Light.gives_expr (light : Light) (restricted : Bool) :
    (light.expr c o restricted).Gives IsLine := by
  cases light with
  | point =>
    refine (ShadingTree.gives_vector _).bind fun position hp =>
      (ShadingTree.gives_color _).bind fun intensity hi => .pure ?_
    exact isLine_callText "make_point_light(" [position, intensity] (.literal rfl)
      (by simp [hp, hi])
  | spot =>
    simp only [expr, Stage.bind_eq]
    refine .bind (.any _) fun cutoff _ => .bind (.any _) fun falloff _ =>
      (ShadingTree.gives_vector _).bind fun position hp =>
      (ShadingTree.gives_vector _).bind fun direction hd =>
      (ShadingTree.gives_color _).bind fun intensity hi => .pure ?_
    exact isLine_callText "make_spot_light(" [position, direction, Program.floatLiteral _,
      Program.floatLiteral _, intensity] (.literal rfl) (by simp [hp, hd, hi, Text.isLine_floatLiteral])
  | directional =>
    refine (ShadingTree.gives_vector _).bind fun direction hd =>
      (ShadingTree.gives_color _).bind fun irradiance hi => .pure ?_
    exact isLine_callText "make_directional_light(" [direction, irradiance] (.literal rfl)
      (by simp [hd, hi])
  | area =>
    cases restricted with
    | true => exact .pure (by decide)
    | false =>
      refine .bind (.any _) fun index _ =>
        (ShadingTree.gives_color _).bind fun radiance hr => .pure ?_
      exact isLine_callText "make_area_light(dtb, " [toString index, radiance] (.literal rfl)
        (List.forall_mem_cons.mpr ⟨Text.isLine_nat index, List.forall_mem_singleton.mpr hr⟩)
  | env =>
    refine (ShadingTree.gives_number _).bind fun scale hs => .bind (.any _) fun value _ => ?_
    cases value with
    | texture buffer =>
      refine (ShadingTree.gives_texture buffer).bind fun name hn => .pure ?_
      exact isLine_callText "make_environment_light_textured(" [name, scale] (.literal rfl)
        (by simp [hs, hn])
    | color v =>
      refine .pure ?_
      exact isLine_callText "make_environment_light("
        [Program.colorLiteral v, scale] (.literal rfl) (by simp [hs, Text.isLine_colorLiteral])
  | constant =>
    refine .bind (.any _) fun radiance _ => .pure ?_
    exact .append (.append (.literal rfl) (Text.isLine_colorLiteral radiance)) (.literal rfl)

/-- The expression of a light object has no break. -/
theorem Light.gives_ofObject (restricted : Bool) : (ofObject c o restricted).Gives IsLine := by
  unfold ofObject
  cases ofKind? o.kind with
  | none => exact fun _ _ _ gave => nomatch (Prod.mk.inj gave).2
  | some light => exact gives_expr light restricted

/-- The expressions of a table have no breaks. -/
theorem Light.gives_entries (restricted : Bool) (lights : List (String × Object)) :
    (entries c restricted lights).Gives fun es => ∀ entry ∈ es, IsLine entry.2 := by
  induction lights with
  | nil => exact .pure (by simp)
  | cons p rest ih =>
    refine (gives_ofObject restricted).bind fun e line => ih.bind fun more others => .pure ?_
    exact List.forall_mem_cons.mpr ⟨line, others⟩

/-- The expression of a material has no break. -/
theorem Material.gives_ofObject : (ofObject c o).Gives IsLine := by
  unfold ofObject
  cases ofKind? o.kind with
  | none => exact fun _ _ _ gave => nomatch (Prod.mk.inj gave).2
  | some material =>
    cases material with
    | diffuse =>
      refine (ShadingTree.gives_color _).bind fun reflectance hr => .pure ?_
      exact isLine_callText "make_diffuse_bsdf(ctx.surf, " [reflectance] (.literal rfl) (by simp [hr])
    | dielectric =>
      refine (ShadingTree.gives_ior _).bind fun outer ho =>
        (ShadingTree.gives_ior _).bind fun inner hi =>
        (ShadingTree.gives_color _).bind fun reflectance hr =>
        (ShadingTree.gives_color _).bind fun transmittance ht => .pure ?_
      exact isLine_callText "make_glass_bsdf(ctx.surf, " [outer, inner, reflectance, transmittance]
        (.literal rfl) (by simp [ho, hi, hr, ht])
    | conductor =>
      refine .bind (.any _) fun eta _ => .bind (.any _) fun k _ =>
        (ShadingTree.gives_color _).bind fun reflectance hr => .pure ?_
      exact isLine_callText "make_conductor_bsdf(ctx.surf, "
        [Program.colorLiteral eta, Program.colorLiteral k, reflectance] (.literal rfl)
        (by simp [hr, Text.isLine_colorLiteral])

/-! The names that are numbered. -/

/-- The name of a light. -/
def lightName (index : Nat) : String := "light_" ++ toString index

/-- The name of the bsdf of a hit group. -/
def bsdfName (group : Nat) : String := "bsdf_" ++ toString group

theorem isWord_numbered {stem : String} (h : isWord stem = true) (n : Nat) :
    isWord (stem ++ toString n) = true := by
  rw [isWord, String.toList_append, List.all_append, Bool.and_eq_true]
  refine ⟨h, List.all_eq_true.mpr fun c mem => ?_⟩
  simp [Text.isWordChar, Char.isAlphanum, Text.isDigit_of_mem_toString_nat mem]

/-- The line that declares an image, without its end. -/
def declarationContent (b : Nat) : String :=
  "  let " ++ (ShadingTree.imageName b ++ (" = "
    ++ ("make_image_texture(make_repeat_border(), make_bilinear_filter(), "
      ++ ("device.load_image_by_id(" ++ (toString b ++ ", 4), false);")))))

theorem declaration_eq (b : Nat) :
    ShadingTree.declaration b = declarationContent b ++ "\n" ∧ IsLine (declarationContent b) := by
  constructor
  · have front : " = make_image_texture(make_repeat_border(), make_bilinear_filter(), "
        = " = " ++ "make_image_texture(make_repeat_border(), make_bilinear_filter(), " := rfl
    have ending : ", 4), false);\n" = ", 4), false);" ++ "\n" := rfl
    simp only [ShadingTree.declaration, declarationContent, toString, front, ending,
      String.append_assoc]
  · exact .append (.literal rfl) (.append (isLine_imageName b) (.append (.literal rfl)
      (.append (.literal rfl) (.append (.literal rfl) (.append (Text.isLine_nat b) (.literal rfl))))))

/-- Declarations bind the names of their images. -/
theorem binds_declarations (buffers : List Nat) :
    Lets (buffers.map declarationContent) (buffers.map ShadingTree.imageName) :=
  .map fun b _ => .binding (isWord_numbered (by decide) b) _

/-- The line of a light in a table, without its end. -/
def lightContent (p : (String × String) × Nat) : String :=
  "  let " ++ (lightName p.2 ++ (" = " ++ (p.1.2 ++ ("; // " ++ p.1.1))))

/-- The line that finds a light by its number, without its end. -/
def armContent (p : (String × String) × Nat) : String :=
  "      " ++ (toString p.2 ++ (" => light_" ++ (toString p.2 ++ ",")))

/-- The lines of a table of lights. -/
theorem lines_lightTable (buffers : List Nat) {entries : List (String × String)}
    (h : ∀ entry ∈ entries, IsLine entry.1 ∧ IsLine entry.2) :
    lines (lightTable buffers entries) = buffers.map declarationContent
      ++ (entries.zipIdx.map lightContent
        ++ (("  let " ++ ("num_lights" ++ (" = " ++ (toString entries.length ++ " : i32;"))))
          :: "  let lights = @|id: i32| -> Light \x7b" :: "    match id \x7b"
          :: (entries.zipIdx.map armContent
            ++ ["      _ => make_null_light()", "    \x7d", "  \x7d;",
              "  let light_selector = make_uniform_light_selector(lights, num_lights);"]))) := by
  have light : ∀ p ∈ entries.zipIdx,
      lightLine p = lightContent p ++ "\n" ∧ IsLine (lightContent p) := by
    intro p mem
    obtain ⟨name, expr⟩ := h p.1 (List.fst_mem_of_mem_zipIdx mem)
    have stem : "  let light_" = "  let " ++ "light_" := by decide
    refine ⟨?_, ?_⟩
    · simp only [lightLine, lightContent, lightName, String.join_cons, String.join_nil, stem,
        String.append_assoc, String.append_empty]
    · exact .append (.literal rfl) (.append (.append (.literal rfl) (Text.isLine_nat _))
        (.append (.literal rfl) (.append expr (.append (.literal rfl) name))))
  have arm : ∀ p ∈ entries.zipIdx, lightArm p = armContent p ++ "\n" ∧ IsLine (armContent p) := by
    intro p mem
    have ending : ",\n" = "," ++ "\n" := by decide
    refine ⟨?_, ?_⟩
    · simp only [lightArm, armContent, String.join_cons, String.join_nil, ending, String.append_assoc,
        String.append_empty]
    · exact .append (.literal rfl) (.append (Text.isLine_nat _) (.append (.literal rfl)
        (.append (Text.isLine_nat _) (.literal rfl))))
  -- the literals of the template, line by line
  have count : " : i32;\n  let lights = @|id: i32| -> Light \x7b\n    match id \x7b\n"
      = " : i32;" ++ ("\n" ++ ("  let lights = @|id: i32| -> Light \x7b" ++ ("\n"
        ++ ("    match id \x7b" ++ "\n")))) := rfl
  have closing : "      _ => make_null_light()\n    \x7d\n  \x7d;\n"
      = "      _ => make_null_light()" ++ ("\n" ++ ("    \x7d" ++ ("\n" ++ ("  \x7d;" ++ "\n")))) := rfl
  have number : "  let num_lights = " = "  let " ++ ("num_lights" ++ " = ") := by decide
  have counted (t : String) : "  let " ++ ("num_lights" ++ (" = " ++ (toString entries.length
      ++ (" : i32;" ++ ("\n" ++ t))))) = ("  let " ++ ("num_lights" ++ (" = " ++ (toString entries.length
        ++ " : i32;")))) ++ ("\n" ++ t) := by
    simp only [String.append_assoc]
  have line : IsLine ("  let " ++ ("num_lights" ++ (" = " ++ (toString entries.length ++ " : i32;")))) :=
    .append (.literal rfl) (.append (.literal rfl) (.append (.literal rfl)
      (.append (Text.isLine_nat _) (.literal rfl))))
  simp only [lightTable, declarationText, String.join_cons, String.join_nil, String.append_empty, count,
    closing, number, String.append_assoc]
  rw [Text.lines_join fun b _ => declaration_eq b, Text.lines_join light, counted,
    Text.lines_isLine_break line, Text.lines_isLine_break (.literal rfl),
    Text.lines_isLine_break (.literal rfl), Text.lines_join arm,
    Text.lines_isLine_break (.literal rfl), Text.lines_isLine_break (.literal rfl),
    Text.lines_isLine_break (.literal rfl), Text.lines_of_isLine (.literal rfl)]

/-- The table of lights binds the images that it declares, the lights and itself. -/
theorem lightTable_binds (buffers : List Nat) {entries : List (String × String)}
    (h : ∀ entry ∈ entries, IsLine entry.1 ∧ IsLine entry.2) :
    Lets (lines (lightTable buffers entries)) (buffers.map ShadingTree.imageName
      ++ ((List.range entries.length).map lightName ++ ["num_lights", "lights", "light_selector"])) := by
  have lights : Lets (entries.zipIdx.map lightContent) ((List.range entries.length).map lightName) := by
    rw [List.range_eq_range', ← List.zipIdx_map_snd, List.map_map]
    exact .map fun p _ => .binding (isWord_numbered (by decide) p.2) _
  have arms : Lets (entries.zipIdx.map armContent) [] :=
    .map_other fun p _ => .deeper _
  have head : Lets ["  let lights = @|id: i32| -> Light \x7b", "    match id \x7b"] ["lights"] :=
    .append (.binding_of_eq "@|id: i32| -> Light \x7b" (by decide) (by decide))
      (.other (.inr ⟨"  match id \x7b", by decide⟩) (by decide))
  have closing : Lets ["      _ => make_null_light()", "    \x7d", "  \x7d;"] [] :=
    .append (.other (.inr ⟨"    _ => make_null_light()", by decide⟩) (by decide))
      (.append (.other (.inr ⟨"  \x7d", by decide⟩) (by decide))
        (.other (.inr ⟨"\x7d;", by decide⟩) (by decide)))
  have selector : Lets ["  let light_selector = make_uniform_light_selector(lights, num_lights);"]
      ["light_selector"] :=
    .binding_of_eq "make_uniform_light_selector(lights, num_lights);" (by decide) (by decide)
  rw [lines_lightTable buffers h]
  refine (binds_declarations buffers).append (lights.append (.binding_cons (by decide) _ ?_))
  exact head.append (arms.append (closing.append selector))

/-- The block of a material binds the images that it declares, the bsdf and the shader. -/
theorem materialBlock_binds (buffers : List Nat) (group : Nat) {name bsdf : String} (hn : IsLine name)
    (hb : IsLine bsdf) : Lets (lines (materialBlock buffers group name bsdf))
      (buffers.map ShadingTree.imageName ++ [bsdfName group, "shader"]) := by
  have stem : "  let bsdf_" = "  let " ++ "bsdf_" := rfl
  have front : " = @|ctx: ShadingContext| -> Bsdf \x7b "
      = " = " ++ "@|ctx: ShadingContext| -> Bsdf \x7b " := rfl
  have behind : "\n  let shader = @|ctx: ShadingContext| make_material(bsdf_"
      = "\n" ++ "  let shader = @|ctx: ShadingContext| make_material(bsdf_" := rfl
  have block : materialBlock buffers group name bsdf = declarationText buffers
      ++ (("  let " ++ (bsdfName group ++ (" = " ++ ("@|ctx: ShadingContext| -> Bsdf \x7b "
        ++ (bsdf ++ (" \x7d; // " ++ name))))))
      ++ ("\n" ++ ("  let shader = @|ctx: ShadingContext| make_material(bsdf_"
        ++ (toString group ++ "(ctx));")))) := by
    simp only [materialBlock, bsdfName, String.join_cons, String.join_nil, stem, front, behind,
      String.append_assoc, String.append_empty]
  have first : IsLine ("  let " ++ (bsdfName group ++ (" = " ++ ("@|ctx: ShadingContext| -> Bsdf \x7b "
      ++ (bsdf ++ (" \x7d; // " ++ name)))))) :=
    .append (.literal rfl) (.append (.append (.literal rfl) (Text.isLine_nat group))
      (.append (.literal rfl) (.append (.literal rfl) (hb.append (.append (.literal rfl) hn)))))
  have second : IsLine ("  let shader = @|ctx: ShadingContext| make_material(bsdf_"
      ++ (toString group ++ "(ctx));")) :=
    .append (.literal rfl) (.append (Text.isLine_nat group) (.literal rfl))
  have shader : Lets ["  let shader = @|ctx: ShadingContext| make_material(bsdf_"
      ++ (toString group ++ "(ctx));")] ["shader"] :=
    .binding_of_eq ("@|ctx: ShadingContext| make_material(bsdf_" ++ (toString group ++ "(ctx));"))
      rfl rfl
  rw [block, declarationText, Text.lines_join fun b _ => declaration_eq b,
    Text.lines_isLine_break first, Text.lines_of_isLine second]
  exact (binds_declarations buffers).append
    (.binding_cons (isWord_numbered rfl group) _ shader)

/-! ### The device, the database and the preamble -/

theorem isLine_deviceCall (t : Target) : IsLine (deviceCall t) := by
  have counted (front behind : String) (n : Nat) (hf : IsLine front) (hb : IsLine behind) :
      IsLine (front ++ toString n ++ behind) := .append (.append hf (Text.isLine_nat n)) hb
  unfold deviceCall
  cases t.architecture with
  | generic => exact .literal rfl
  | sse42 | avx | avx2 | avx512 | asimd | nvidia | amd =>
    exact counted _ _ _ (.literal rfl) (.literal rfl)

theorem device_binds (t : Target) : Lets (lines (Program.indent ++ device t)) ["device"] := by
  have stem : Program.indent ++ "let device = " = "  let " ++ ("device" ++ " = ") := rfl
  have text : Program.indent ++ device t
      = "  let " ++ ("device" ++ (" = " ++ (deviceCall t ++ ";"))) := by
    have parts : Program.indent ++ device t
        = Program.indent ++ ("let device = " ++ deviceCall t ++ ";") := rfl
    rw [parts, String.append_assoc, ← String.append_assoc, stem]
    simp only [String.append_assoc]
  have line : IsLine ("  let " ++ ("device" ++ (" = " ++ (deviceCall t ++ ";")))) :=
    .append (.literal rfl) (.append (.literal rfl) (.append (.literal rfl)
      ((isLine_deviceCall t).append (.literal rfl))))
  rw [text, Text.lines_of_isLine line]
  exact .binding rfl _

theorem database_binds : Lets (lines database) ["dtb", "scene_info"] := by
  have text : database = "  let dtb = device.load_scene_database();"
      ++ ("\n" ++ "  let scene_info = device.load_scene_info();") := rfl
  have first : Lets ["  let dtb = device.load_scene_database();"] ["dtb"] :=
    .binding_of_eq "device.load_scene_database();" rfl rfl
  have second : Lets ["  let scene_info = device.load_scene_info();"] ["scene_info"] :=
    .binding_of_eq "device.load_scene_info();" rfl rfl
  rw [text, Text.lines_isLine_break (.literal rfl), Text.lines_of_isLine (.literal rfl)]
  exact first.append second

/-- The lines of a preamble. -/
theorem lines_preamble {technique : String} (ht : IsLine technique) (variant primary secondary : Nat)
    {initializer : String} (hi : IsLine initializer) (rayGeneration : Bool) :
    lines (preambleText technique variant primary secondary
        ++ if rayGeneration then initializerText initializer else "")
      = ["// Technique '" ++ (technique ++ ("', variant " ++ toString variant)),
          "static RayPayloadComponents = " ++ (toString primary ++ ";"),
          "static SecondaryPayloadComponents = " ++ (toString secondary ++ ";")]
        ++ if rayGeneration then ["fn init_raypayload() = " ++ (initializer ++ ";")] else [] := by
  have primaries : "\nstatic RayPayloadComponents = " = "\n" ++ "static RayPayloadComponents = " := rfl
  have secondaries : ";\nstatic SecondaryPayloadComponents = "
      = ";" ++ ("\n" ++ "static SecondaryPayloadComponents = ") := rfl
  have function : "\nfn init_raypayload() = " = "\n" ++ "fn init_raypayload() = " := rfl
  have first : IsLine ("// Technique '" ++ (technique ++ ("', variant " ++ toString variant))) :=
    .append (.literal rfl) (ht.append (.append (.literal rfl) (Text.isLine_nat variant)))
  have component (stem : String) (n : Nat) (h : IsLine stem) : IsLine (stem ++ (toString n ++ ";")) :=
    h.append (.append (Text.isLine_nat n) (.literal rfl))
  have last : IsLine ("fn init_raypayload() = " ++ (initializer ++ ";")) :=
    .append (.literal rfl) (hi.append (.literal rfl))
  have opening (t : String) : preambleText technique variant primary secondary ++ t
      = ("// Technique '" ++ (technique ++ ("', variant " ++ toString variant))) ++ ("\n"
        ++ (("static RayPayloadComponents = " ++ (toString primary ++ ";")) ++ ("\n"
        ++ (("static SecondaryPayloadComponents = " ++ (toString secondary ++ ";")) ++ t)))) := by
    simp only [preambleText, String.join_cons, String.join_nil, primaries, secondaries,
      String.append_assoc, String.append_empty]
  rw [opening, Text.lines_isLine_break first,
    Text.lines_isLine_break (component _ primary (.literal rfl))]
  cases rayGeneration with
  | false =>
    rw [if_neg (by decide), if_neg (by decide), String.append_empty,
      Text.lines_of_isLine (component _ secondary (.literal rfl))]
    rfl
  | true =>
    have ending : initializerText initializer
        = "\n" ++ ("fn init_raypayload() = " ++ (initializer ++ ";")) := by
      simp only [initializerText, String.join_cons, String.join_nil, function, String.append_assoc,
        String.append_empty]
    rw [if_pos rfl, if_pos rfl, ending, Text.lines_isLine_break (component _ secondary (.literal rfl)),
      Text.lines_of_isLine last]
    rfl

end Stock

end RayShader
