import RayShader.Scene.Codec
import RayShader.Options.Codec
import RayShader.Technique.Codec
import RayShader.Generation.Variants
import RayShader.Stock.Emitters
import RayShader.Compile.Cache
import RayShader.Image.Save
import RayShader.Proofs.Requests
import RayShader.Proofs.Template
import RayShader.Proofs.NameMaps
import RayShader.Proofs.Listing
import RayShader.Proofs.AssetPaths
import RayShader.Proofs.Registration
import RayShader.Proofs.Diagnostics
import RayShader.Proofs.Variants
import RayShader.Proofs.Compilation
import RayShader.Proofs.Outlines
import RayShader.Proofs.Words
import RayShader.Proofs.Declarations
import RayShader.Proofs.LightTables
import RayShader.Proofs.DeclaredImages
import RayShader.Proofs.Slots
import RayShader.Proofs.Operations
import RayShader.Proofs.CompileOnce
import RayShader.Proofs.Tasks
import RayShader.Proofs.Marks
import RayShader.Proofs.DistinctPrograms
import RayShader.Proofs.UnusedParts
import RayShader.Proofs.JsonText
import RayShader.Proofs.FeatureText
import RayShader.Proofs.Settings
import RayShader.Proofs.NumberText
import RayShader.Proofs.SceneText
import RayShader.Proofs.Lines
import RayShader.Proofs.Bindings
import RayShader.Proofs.Layouts
import RayShader.Proofs.Scopes
import RayShader.Proofs.Numbering
import RayShader.Proofs.Traversals
import RayShader.Proofs.ImageTextures
import RayShader.Proofs.ShadingTexts
import RayShader.Proofs.TechniqueTexts
import RayShader.Proofs.NameOrder
import RayShader.Proofs.EntityNumbers
import RayShader.Proofs.SavedImages
import RayShader.Proofs.Rounding
import RayShader.Proofs.Literals
import RayShader.Proofs.SceneNames
import RayShader.Proofs.RefusedImages
import RayShader.Proofs.Renaming
import RayShader.Proofs.TableLines
import RayShader.Proofs.RenamedPrograms
import RayShader.Proofs.RenamedScenes
import RayShader.Proofs.FreeTexts
import RayShader.Proofs.ShadingContext
import RayShader.Proofs.TreeCalls
import RayShader.Proofs.ExpressionTexts
