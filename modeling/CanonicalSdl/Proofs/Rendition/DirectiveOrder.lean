import CanonicalSdl.Proofs.Document.NormalForm
import CanonicalSdl.Proofs.Rendition.Types

/-!
# The order of directive definitions

Directive definitions all have one key, so that the normal form keeps them in the order of their
declaration. This order shows in the text of a document, and nothing else of it does.
-/

namespace CanonicalSdl

variable {external : List TypeDefinition} {d d' : Document} {c : RenderSettings} {r : Rendition}

/-! ### Directive definitions in another order -/

/-- The definitions of a document that are no directive definitions. -/
def Document.others (d : Document) : List Definition :=
  d.definitions.filter fun definition => definition.directive?.isNone

/-- The second document has the definitions of the first, with the directive definitions in another
order. -/
structure Document.DirectivesReordered (d d' : Document) : Prop where
  directiveDefinitions : d.directiveDefinitions.Perm d'.directiveDefinitions
  others : d.others = d'.others

namespace Document

lemma types_eq_filterMap_others (d : Document) : d.types = d.others.filterMap Definition.type? := by
  rw [types, others, List.filterMap_filter]
  congr 1
  funext definition
  cases definition <;> rfl

lemma schema?_eq_head?_others (d : Document) :
    d.schema? = (d.others.filterMap Definition.schema?).head? := by
  rw [schema?_eq_head?, others, List.filterMap_filter]
  congr 2
  funext definition
  cases definition <;> rfl

lemma others_append_perm (d : Document) :
    (d.others ++ d.directiveDefinitions.map Definition.directive).Perm d.definitions := by
  have hdirectives : d.directiveDefinitions.map Definition.directive =
      d.definitions.filter fun definition => !definition.directive?.isNone := by
    rw [directiveDefinitions, List.map_filterMap, ← List.filterMap_eq_filter]
    congr 1
    funext definition
    cases definition <;> rfl
  rw [hdirectives]
  exact List.filter_append_perm _ _

/-- The normal form treats directive definitions and others apart from each other. -/
lemma others_normal (d : Document) :
    d.normal.others = sortByBytes (fun definition => Text.utf8 definition.keyText)
      (d.others.map Definition.normal) := by
  apply d.filter_normal
  intro definition
  cases definition <;> rfl

namespace DirectivesReordered

variable (h : d.DirectivesReordered d')

include h

lemma definitions_perm : d.definitions.Perm d'.definitions := by
  have hdirectives := (h.directiveDefinitions.map Definition.directive).append_left d'.others
  have hd := d.others_append_perm
  rw [h.others] at hd
  exact hd.symm.trans (hdirectives.trans d'.others_append_perm)

lemma hasTypeSystem_eq : d'.hasTypeSystem = d.hasTypeSystem :=
  h.definitions_perm.symm.any_eq

lemma normal : d.normal.DirectivesReordered d'.normal := by
  constructor
  case directiveDefinitions =>
    rw [normal_directiveDefinitions, normal_directiveDefinitions]
    exact h.directiveDefinitions
  case others => rw [others_normal, others_normal, h.others]

lemma types_eq : d'.types = d.types := by
  rw [types_eq_filterMap_others, types_eq_filterMap_others, h.others]

lemma schema?_eq : d'.schema? = d.schema? := by
  rw [schema?_eq_head?_others, schema?_eq_head?_others, h.others]

lemma agrees : d.Agrees d' where
  types := h.types_eq
  schema? := h.schema?_eq

/-- What is rendered of the second document is what is rendered of the first, with the directive
definitions in the second order. -/
lemma rendition_eq : d'.rendition external = (d.rendition external).map fun r =>
    if r.query.isSome then { r with directiveDefinitions := d'.directiveDefinitions } else r := by
  rw [rendition, rendition, h.hasTypeSystem_eq, h.normal.agrees.ofDocument_eq]
  split
  · cases hs : Schema.ofDocument external d.normal with
    | error e => rfl
    | ok schema =>
      cases schema with
      | none => rfl
      | some s =>
        rw [← d'.normal_directiveDefinitions]
        exact congrArg Except.ok (h.normal.agrees.renditionOf_eq s)
  · rfl

end DirectivesReordered

end Document

/-! ### The text of directive definitions -/

/-- The text of directive definitions. -/
def directiveDefinitionsText (c : RenderSettings) (ds : List DirectiveDefinition) : String :=
  "\n".intercalate (ds.map (Rendering.directiveBlock c))

/-- The text of a rendition begins with that of its directive definitions. -/
lemma Rendition.text_eq_append (hq : r.query.isSome = true) (hne : r.directiveDefinitions ≠ []) :
    r.text c = directiveDefinitionsText c r.directiveDefinitions ++ "\n" ++
      { r with directiveDefinitions := [] }.text c := by
  have hblocks : Rendering.blocks c r = r.directiveDefinitions.map (Rendering.directiveBlock c) ++
      Rendering.blocks c { r with directiveDefinitions := [] } := by
    rw [Rendering.blocks, List.append_assoc]
    rfl
  have hrest : Rendering.blocks c { r with directiveDefinitions := [] } ≠ [] := by
    simp [Rendering.blocks, Rendering.showsSchema, hq]
  rw [text, hblocks, String.intercalate_append_of_ne_nil (by simpa using hne) hrest]
  rfl

/-- Putting the directive definitions of a rendition in another order changes its text unless they
have the same text in both orders. -/
lemma Rendition.text_eq_text_iff {ds : List DirectiveDefinition} (hq : r.query.isSome = true)
    (hperm : r.directiveDefinitions.Perm ds) :
    { r with directiveDefinitions := ds }.text c = r.text c ↔
      directiveDefinitionsText c ds = directiveDefinitionsText c r.directiveDefinitions := by
  by_cases hne : r.directiveDefinitions = []
  · obtain rfl : ds = r.directiveDefinitions := by
      rw [hne] at hperm ⊢
      exact hperm.nil_eq.symm
    exact iff_of_true rfl rfl
  · have hne' : ds ≠ [] := fun h => hne (by rw [h] at hperm; exact hperm.eq_nil)
    rw [text_eq_append hq hne, text_eq_append (r := { r with directiveDefinitions := ds }) hq hne',
      String.append_left_inj, String.append_left_inj]

namespace Document

variable (h : d.DirectivesReordered d')

include h

lemma DirectivesReordered.canonicalSdl_eq_iff (hr : d.rendition external = .ok r)
    (hq : r.query.isSome = true) :
    d'.canonicalSdl external c = d.canonicalSdl external c ↔
      directiveDefinitionsText c d'.directiveDefinitions =
        directiveDefinitionsText c d.directiveDefinitions := by
  have hdirectives : r.directiveDefinitions = d.directiveDefinitions := by
    obtain ⟨s, -, rfl⟩ := exists_schema_of_rendition hr hq
    rw [CanonicalSdl.renditionOf_eq, normal_directiveDefinitions]
  have hr' : d'.rendition external =
      .ok { r with directiveDefinitions := d'.directiveDefinitions } := by
    rw [h.rendition_eq, hr]
    simp [Except.map, hq]
  have hperm := h.directiveDefinitions
  rw [← hdirectives] at hperm ⊢
  rw [← Rendition.text_eq_text_iff hq hperm, canonicalSdl_eq_ok hr, canonicalSdl_eq_ok hr',
    Except.ok.injEq]

/-- With its directive definitions in another order a document has the same canonical text, or the
same error, exactly if it has no query root or the directive definitions have the same text in both
orders. -/
theorem canonicalSdl_eq_iff_of_directivesReordered (external : List TypeDefinition)
    (c : RenderSettings) :
    d'.canonicalSdl external c = d.canonicalSdl external c ↔
      ∀ r, d.rendition external = .ok r → r.query.isSome = true →
        directiveDefinitionsText c d'.directiveDefinitions =
          directiveDefinitionsText c d.directiveDefinitions := by
  constructor
  · intro heq r hr hq
    exact (h.canonicalSdl_eq_iff hr hq).1 heq
  · intro htext
    cases hr : d.rendition external with
    | error e => rw [canonicalSdl, canonicalSdl, h.rendition_eq, hr]; rfl
    | ok r =>
      by_cases hq : r.query.isSome = true
      · exact (h.canonicalSdl_eq_iff hr hq).2 (htext r hr hq)
      · rw [canonicalSdl, canonicalSdl, h.rendition_eq, hr]
        simp [Except.map, hq]

omit h

/-- The definition of a directive without arguments. -/
def marker (name : String) : DirectiveDefinition where
  name := name
  locations := ["OBJECT"]

/-- A document with a query root and two directive definitions. -/
def withDirectives (first second : DirectiveDefinition) : Document where
  definitions := [.directive first, .directive second, .type .soleQuery]

lemma directivesReordered_withDirectives (first second : DirectiveDefinition) :
    (withDirectives first second).DirectivesReordered (withDirectives second first) := by
  constructor
  case directiveDefinitions => exact .swap _ _ _
  case others => rfl

/-- A description does not tell two definitions apart if it is not shown. -/
theorem canonicalSdl_eq_iff_of_directivesReordered_described :
    let described := { marker "a" with description := some "described" }
    (withDirectives described (marker "a")).DirectivesReordered
        (withDirectives (marker "a") described) ∧
      (withDirectives (marker "a") described).canonicalSdl [] { descriptions := false } =
        (withDirectives described (marker "a")).canonicalSdl [] { descriptions := false } := by
  intro described
  have hreordered := directivesReordered_withDirectives described (marker "a")
  refine ⟨hreordered, (canonicalSdl_eq_iff_of_directivesReordered hreordered [] _).2 ?_⟩
  intro r _ _
  rfl

/-- The order of directive definitions shows in the text, even if all names are distinct and there
is no more than one schema definition. -/
theorem canonicalSdl_withDirectives_ne :
    let d := withDirectives (marker "a") (marker "b")
    let d' := withDirectives (marker "b") (marker "a")
    d.DirectivesReordered d' ∧ (d.types.map (·.name)).Nodup ∧
      (d.directiveDefinitions.map (·.name)).Nodup ∧
      (d.definitions.filterMap Definition.schema?).length ≤ 1 ∧
      d'.canonicalSdl [] {} ≠ d.canonicalSdl [] {} := by
  intro d d'
  have hreordered : d.DirectivesReordered d' := directivesReordered_withDirectives _ _
  refine ⟨hreordered, by decide, by decide, by decide, ?_⟩
  have hnormal : d.normal = d := by
    apply normal_eq_self
    · simp [d, withDirectives, Definition.normal, TypeDefinition.normal_soleQuery]
    · decide
  have hs : Schema.ofDocument [] d.normal = .ok (some .soleQuery) := by
    rw [hnormal]
    rfl
  rw [Ne, hreordered.canonicalSdl_eq_iff (rendition_eq_renditionOf rfl hs) rfl]
  decide

end Document

end CanonicalSdl
