import RayShader.Vec3

/-!
# Literals of generated programs
-/

namespace RayShader.Program

/-- The literal of a number; a finite one always has a point or an exponent. -/
def floatLiteral (x : Single) : String :=
  match x.datum with
  | .nan => "flt_nan"
  | .infinite negative => if negative then "-flt_inf" else "flt_inf"
  | .finite .. => Decimal.literalStyle.format x

/-- The literal of a vector. -/
def vec3Literal (v : Vec3) : String :=
  s!"make_vec3({floatLiteral v.x}, {floatLiteral v.y}, {floatLiteral v.z})"

/-- The literal of a color. -/
def colorLiteral (c : Vec3) : String :=
  s!"make_color({floatLiteral c.x}, {floatLiteral c.y}, {floatLiteral c.z}, 1.0)"

end RayShader.Program
