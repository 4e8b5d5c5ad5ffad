import RayShader.Decimal.Basic
import RayShader.Text.Blank

/-!
# Indices of refraction

Dielectrics with a known index of refraction, for light of 589.3 nm.
-/

namespace RayShader.Dielectric

/-- The indices by name. -/
def indices : List (String × Decimal) :=
  [("vacuum", ⟨1, 0⟩), ("helium", ⟨1000036, -6⟩), ("hydrogen", ⟨1000132, -6⟩), ("air", ⟨1000277, -6⟩),
    ("carbon dioxide", ⟨100045, -5⟩), ("water", ⟨1333, -3⟩), ("acetone", ⟨136, -2⟩),
    ("ethanol", ⟨1361, -3⟩), ("carbon tetrachloride", ⟨1461, -3⟩), ("glycerol", ⟨14729, -4⟩),
    ("benzene", ⟨1501, -3⟩), ("silicone oil", ⟨152045, -5⟩), ("bromine", ⟨1661, -3⟩),
    ("water ice", ⟨131, -2⟩), ("fused quartz", ⟨1458, -3⟩), ("pyrex", ⟨147, -2⟩),
    ("acrylic glass", ⟨149, -2⟩), ("polypropylene", ⟨149, -2⟩), ("bk7", ⟨15046, -4⟩),
    ("sodium chloride", ⟨1544, -3⟩), ("amber", ⟨155, -2⟩), ("pet", ⟨1575, -3⟩), ("diamond", ⟨2419, -3⟩)]

/-- The index of a dielectric; case and surrounding blanks of its name do not matter. -/
def index? (name : String) : Option Single :=
  (indices.find? fun (key, _) => Text.eqIgnoringCase key (Text.trim name)).map
    fun (_, index) => index.toBinary .single false

/-- The index of a dielectric that names none. -/
def defaultIndex : Single := (Decimal.mk 155 (-2)).toBinary .single false

end RayShader.Dielectric
