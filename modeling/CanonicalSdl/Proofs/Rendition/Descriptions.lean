import CanonicalSdl.Proofs.Document.Descriptions
import CanonicalSdl.Rendition.Text

/-!
# Replacing the descriptions of a rendition

A text depends on descriptions only in what it shows of them. It stays the same when descriptions
and settings change together in such a way that every description shows as before. So to render no
descriptions comes to the same as to have none.
-/

namespace CanonicalSdl

/-- The rendition with all descriptions in it replaced. -/
def Rendition.mapDescriptions (f : Option String → Option String) (r : Rendition) : Rendition :=
  { r with
    directiveDefinitions := r.directiveDefinitions.map (DirectiveDefinition.mapDescriptions f)
    types := r.types.map (TypeDefinition.mapDescriptions f) }

/-- The rendition without any descriptions. -/
def Rendition.withoutDescriptions (r : Rendition) : Rendition :=
  r.mapDescriptions fun _ => none

/-- Every description shows under the first settings as its replacement does under the second. -/
structure ShowsAlike (c c' : RenderSettings) (f : Option String → Option String) : Prop where
  indent : c'.indent = c.indent
  /-- The texts of the descriptions are the same. -/
  described : ∀ indentation description,
    Rendering.described c' indentation (f description) =
      Rendering.described c indentation description
  /-- The descriptions of arguments have the same effect on how these are laid out. -/
  isShown : ∀ description,
    (c'.descriptions && (f description).isSome) = (c.descriptions && description.isSome)

namespace Rendering

variable {c c' : RenderSettings} {f : Option String → Option String}

section

variable (h : ShowsAlike c c' f)

include h

lemma spaces_eq : c'.spaces = c.spaces := by
  rw [RenderSettings.spaces, h.indent, RenderSettings.spaces]

/-! ### Parts of definitions -/

lemma inputLine_mapDescriptions (indentation : String) (v : InputValue) :
    inputLine c' indentation (v.mapDescriptions f) = inputLine c indentation v := by
  rw [inputLine, inputLine, InputValue.mapDescriptions, h.described]
  rfl

/-- Arguments stand on one line each if they did before. -/
lemma onLines_mapDescriptions (as : List InputValue) :
    onLines c' (as.map (InputValue.mapDescriptions f)) = onLines c as := by
  rw [onLines, onLines, List.any_map, List.and_any_distrib_left, List.and_any_distrib_left]
  congr 1
  funext v
  exact h.isShown v.description

lemma arguments_mapDescriptions (indentation : String) (as : List InputValue) :
    arguments c' indentation (as.map (InputValue.mapDescriptions f)) =
      arguments c indentation as := by
  have htexts : (as.map (InputValue.mapDescriptions f)).map (InputValue.text .standard) =
      as.map (InputValue.text .standard) := by
    rw [List.map_map]
    rfl
  have hlines :
      (as.map (InputValue.mapDescriptions f)).map (inputLine c' (indentation ++ c.spaces)) =
        as.map (inputLine c (indentation ++ c.spaces)) := by
    rw [List.map_map]
    exact List.map_congr_left fun v _ => inputLine_mapDescriptions h _ v
  rw [arguments, arguments, onLines_mapDescriptions h, spaces_eq h, htexts, hlines,
    List.isEmpty_map]

lemma field_mapDescriptions (d : Field) : field c' (d.mapDescriptions f) = field c d := by
  rw [field, field, Field.mapDescriptions, h.described, arguments_mapDescriptions h, spaces_eq h]

lemma enumValue_mapDescriptions (v : EnumValue) :
    enumValue c' (v.mapDescriptions f) = enumValue c v := by
  rw [enumValue, enumValue, EnumValue.mapDescriptions, h.described, spaces_eq h]

/-! ### Blocks -/

lemma directiveBlock_mapDescriptions (d : DirectiveDefinition) :
    directiveBlock c' (d.mapDescriptions f) = directiveBlock c d := by
  rw [directiveBlock, directiveBlock, DirectiveDefinition.mapDescriptions, h.described,
    arguments_mapDescriptions h]

lemma schemaBlock_mapDescriptions (r : Rendition) :
    schemaBlock c' (r.mapDescriptions f) = schemaBlock c r := by
  have hroot : root c' = root c := by
    funext operation name
    rw [root, root, spaces_eq h]
  rw [schemaBlock, schemaBlock, hroot]
  rfl

lemma typeBody_mapDescriptions (t : TypeDefinition) :
    typeBody c' (t.mapDescriptions f) = typeBody c t := by
  have hfields (fields : List Field) :
      (fields.map (Field.mapDescriptions f)).map (field c') = fields.map (field c) := by
    rw [List.map_map]
    exact List.map_congr_left fun d _ => field_mapDescriptions h d
  have hinputs (fields : List InputValue) :
      (fields.map (InputValue.mapDescriptions f)).map (inputLine c' c'.spaces) =
        fields.map (inputLine c c.spaces) := by
    rw [List.map_map, spaces_eq h]
    exact List.map_congr_left fun v _ => inputLine_mapDescriptions h _ v
  have hvalues (values : List EnumValue) :
      (values.map (EnumValue.mapDescriptions f)).map (enumValue c') = values.map (enumValue c) := by
    rw [List.map_map]
    exact List.map_congr_left fun v _ => enumValue_mapDescriptions h v
  obtain ⟨description, name, ds, body⟩ := t
  cases body with
  | scalar => rfl
  | input fields => exact congrArg (_ ++ braced ·) (hinputs fields)
  | object interfaces fields => exact congrArg (_ ++ braced ·) (hfields fields)
  | interface interfaces fields => exact congrArg (_ ++ braced ·) (hfields fields)
  | enum values => exact congrArg (_ ++ braced ·) (hvalues values)
  | union members => rfl

lemma typeBlock_mapDescriptions (t : TypeDefinition) :
    typeBlock c' (t.mapDescriptions f) = typeBlock c t := by
  rw [typeBlock, typeBlock, typeBody_mapDescriptions h, TypeDefinition.mapDescriptions, h.described]

end

lemma isBuiltinScalar_mapDescriptions (t : TypeDefinition) :
    isBuiltinScalar (t.mapDescriptions f) = isBuiltinScalar t := by
  obtain ⟨description, name, ds, body⟩ := t
  cases body <;> rfl

lemma blocks_mapDescriptions (h : ShowsAlike c c' f) (r : Rendition) :
    blocks c' (r.mapDescriptions f) = blocks c r := by
  have hdirectives : (r.directiveDefinitions.map (DirectiveDefinition.mapDescriptions f)).map
      (directiveBlock c') = r.directiveDefinitions.map (directiveBlock c) := by
    rw [List.map_map]
    exact List.map_congr_left fun d _ => directiveBlock_mapDescriptions h d
  have htypes : ((r.types.map (TypeDefinition.mapDescriptions f)).filter
      (!isBuiltinScalar ·)).map (typeBlock c') =
        (r.types.filter (!isBuiltinScalar ·)).map (typeBlock c) := by
    simp only [List.filter_map, List.map_map, Function.comp_def, isBuiltinScalar_mapDescriptions,
      typeBlock_mapDescriptions h]
  rw [blocks, schemaBlock_mapDescriptions h, blocks, ← hdirectives, ← htypes]
  rfl

/-! ### Which descriptions show alike -/

/-- Descriptions that are not rendered might as well not be there. -/
lemma showsAlike_none (indent : Nat) (b : Bool) :
    ShowsAlike { indent, descriptions := false } { indent, descriptions := b } fun _ => none := by
  constructor
  case indent => rfl
  case described =>
    intro indentation description
    cases description <;> rfl
  case isShown =>
    intro description
    exact Bool.and_false b

end Rendering

/-! ### The text -/

lemma Rendition.text_mapDescriptions {c c' : RenderSettings} {f : Option String → Option String}
    (h : ShowsAlike c c' f) (r : Rendition) : (r.mapDescriptions f).text c' = r.text c := by
  rw [Rendition.text, Rendering.blocks_mapDescriptions h, Rendition.text]

/-- To render a rendition without its descriptions is to render one that has none. So arguments
stand on one line in both texts. -/
theorem Rendition.text_withoutDescriptions (r : Rendition) (indent : Nat) (b : Bool) :
    r.text { indent, descriptions := false } =
        r.withoutDescriptions.text { indent, descriptions := b } ∧
      ∀ arguments, Rendering.onLines { indent, descriptions := false } arguments =
        Rendering.onLines { indent, descriptions := b }
          (arguments.map (InputValue.mapDescriptions fun _ => none)) := by
  have h := Rendering.showsAlike_none indent b
  constructor
  · exact (text_mapDescriptions h r).symm
  · intro arguments
    exact (Rendering.onLines_mapDescriptions h arguments).symm

end CanonicalSdl
