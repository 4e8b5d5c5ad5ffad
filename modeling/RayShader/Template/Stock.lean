import RayShader.Template.Basic

/-!
# The stock templates

One template for each stock camera and technique, one for the preamble of programs, and
one each for tables of lights and for materials. The text of a template has no blanks
at its end.
-/

namespace RayShader.Template

/-- The place of a named value. -/
def hole (name : String) : Node := .value (.name name)

namespace Stock

/-- A camera with a vanishing point. -/
def perspective : List Node :=
  [.text "  let camera = make_perspective_camera(", hole "origin", .text ", ", hole "direction", .text ", ",
    hole "up", .text ", ", hole "fov", .text ", ", hole "aspect", .text ", ", hole "near", .text ", ",
    hole "far", .text ");\n"]

/-- A camera with parallel rays. -/
def orthogonal : List Node :=
  [.text "  let camera = make_orthogonal_camera(", hole "origin", .text ", ", hole "direction", .text ", ",
    hole "up", .text ", make_vec2(", hole "scale", .text " * ", hole "aspect", .text ", ", hole "scale",
    .text "), ", hole "near", .text ", ", hole "far", .text ");\n"]

/-- A camera with a very wide view. -/
def fishlens : List Node :=
  [.text "  let fisheye_mode = ", hole "mode_id", .text " : i32; // ", hole "mode",
    .text "\n  let camera = make_fishlens_camera(", hole "origin", .text ", ", hole "direction", .text ", ",
    hole "up", .text ", ", hole "width", .text ", ", hole "height", .text ", fisheye_mode, ", hole "near",
    .text ", ", hole "far", .text ");\n"]

/-- The table of lights. -/
def lights : List Node :=
  [.cond (.holds (.name "textures")) [hole "textures", .text "\n"] [],
    .each "light" (.name "lights")
      [.text "  let light_", .value (.field (.name "loop") "index0"), .text " = ",
        .value (.field (.name "light") "expr"), .text "; // ", .value (.field (.name "light") "name"),
        .text "\n"],
    .text "  let num_lights = ", .value (.length (.name "lights")),
    .text " : i32;\n  let lights = @|id: i32| -> Light \x7b\n    match id \x7b\n",
    .each "light" (.name "lights")
      [.text "      ", .value (.field (.name "loop") "index0"), .text " => light_",
        .value (.field (.name "loop") "index0"), .text ",\n"],
    .text "      _ => make_null_light()\n    \x7d\n  \x7d;\n",
    .text "  let light_selector = make_uniform_light_selector(lights, num_lights);\n"]

/-- A material. -/
def material : List Node :=
  [.cond (.holds (.name "textures")) [hole "textures", .text "\n"] [],
    .text "  let bsdf_", hole "hit_group", .text " = @|ctx: ShadingContext| -> Bsdf \x7b ", hole "bsdf",
    .text " \x7d; // ", hole "name",
    .text "\n  let shader = @|ctx: ShadingContext| make_material(bsdf_", hole "hit_group", .text "(ctx));\n"]

/-- The preamble of a program. -/
def header : List Node :=
  [.text "// Technique '", hole "technique", .text "', variant ", hole "variant",
    .text "\nstatic RayPayloadComponents = ", hole "primary_payload",
    .text ";\nstatic SecondaryPayloadComponents = ", hole "secondary_payload", .text ";\n",
    .cond (.holds (.name "is_ray_generation"))
      [.text "fn init_raypayload() = ", hole "initializer", .text ";\n"] []]

/-- The technique of ambient occlusion. -/
def ambientOcclusion : List Node := [.text "  let technique = make_ao_renderer();\n"]

/-- The technique that shows one quantity of a surface. -/
def debug : List Node :=
  [.text "  let debug_mode = ", hole "mode_id", .text " : i32; // ", hole "mode",
    .text "\n  let technique = make_debug_renderer(debug_mode);\n"]

/-- The technique that shows where lights are visible. -/
def lightVisibility : List Node :=
  [.text "  let technique = make_lv_renderer(", hole "max_depth", .text ");\n"]

/-- The technique of traced paths. -/
def path : List Node :=
  [.cond (.holds (.name "aov_normals"))
      [.text "  let aov_normals = device.load_aov_image(\"Normals\", spp);\n",
        .text "  let aovs = @|id: i32| -> AOVImage \x7b if id == 1 \x7b aov_normals \x7d ",
        .text "else \x7b make_empty_aov_image(0, 0) \x7d \x7d;\n"]
      [.text "  let aovs = @|_id: i32| -> AOVImage \x7b make_empty_aov_image(0, 0) \x7d;\n"],
    .text "  let technique = make_path_renderer(", hole "max_depth", .text ", aovs, ", hole "clamp",
    .text ");\n"]

/-- The technique of photon maps. Its first variant traces photons. -/
def photons : List Node :=
  [.text "  let ppm_radius = ", hole "radius", .text ";\n",
    .cond (.isInt (.name "variant") 0)
      [.text "  let technique = make_ppm_light_emitter_renderer(", hole "max_depth", .text ", ",
        hole "photons", .text ", ppm_radius);\n"]
      [.text "  let technique = make_ppm_path_renderer(", hole "max_depth",
        .text ", ppm_radius, device.load_photon_map());\n"]]

/-- The callbacks of the technique of photon maps. -/
def photonsCallback : List Node :=
  [.cond (.holds (.name "is_before"))
      [.text "  let callback = @|iter: i32| ppm_reset_photon_map(device, iter, ", hole "photons",
        .text ");\n"]
      [.text "  let callback = @|iter: i32| ppm_shrink_radius(device, iter, ", hole "radius", .text ");\n"]]

/-- The templates by name. -/
def all : List (String × List Node) :=
  [("camera/fishlens", fishlens), ("camera/orthogonal", orthogonal), ("camera/perspective", perspective),
    ("lights", lights), ("material", material), ("technique/ao", ambientOcclusion),
    ("technique/debug", debug), ("technique/header", header), ("technique/lightvisibility", lightVisibility),
    ("technique/path", path), ("technique/ppm", photons), ("technique/ppm_callback", photonsCallback)]

end Stock

/-- The ending that the name of a template may have. -/
def ending : String := ".art"

/-- The template of a name, which may have an ending and either kind of slash. -/
def find? (name : String) : Option (List Node) :=
  let name := String.ofList (name.toList.map fun c => if c = '\\' then '/' else c)
  (Stock.all.find? fun (key, _) => name = key || name = key ++ ending).map (·.2)

/-- The text of nodes in a scope, without the blanks at its end. -/
def fill (nodes : List Node) (scope : Scope) : Except Error String :=
  (Node.renderAll nodes scope).map Text.trimEnd

/-- The text of the named template. -/
def render (name : String) (scope : Scope) : Except Error String :=
  match find? name with
  | some nodes => fill nodes scope
  | none => .error (.unknown name)

end RayShader.Template
