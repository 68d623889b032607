import CanonicalSdl.Proofs.Grammar.Nesting
import CanonicalSdl.Proofs.Rendition.Lexing

/-!
# Rendering and reading back

The text of a rendition is read as the document of what was rendered, with descriptions as they are
shown. Nothing else is lost or changed, whatever the settings.
-/

namespace CanonicalSdl

open Production (TypeSystemItem)
open Token (LexesBeforeBreak)

namespace Rendition

/-- What a rendition holds has the shape of what reading a text gives. Directives on the schema
stand beside a query root only. -/
structure Legible (room : Nat) (r : Rendition) : Prop where
  query : ∀ n ∈ r.query, Token.isName n = true
  mutation : ∀ n ∈ r.mutation, Token.isName n = true
  directives : ∀ d ∈ r.directives, d.Legible room
  rooted : r.query.isSome = true ∨ r.directives = []
  directiveDefinitions : ∀ d ∈ r.directiveDefinitions, d.Legible room
  types : ∀ t ∈ r.shownTypes, t.Legible room

/-- The definitions that are rendered, as items of a type system. -/
def items (r : Rendition) : List TypeSystemItem :=
  r.directiveDefinitions.map .directive ++
    (if r.hasRoot then [.schema r.schema] else []) ++ r.shownTypes.map .type

/-- The block that shows an item of a rendition. -/
def block (r : Rendition) (c : RenderSettings) : TypeSystemItem → String
  | .directive d => Rendering.directiveBlock c d
  | .schema _ => Rendering.schemaBlock c r
  | .type t => Rendering.typeBlock c t
  | .extension _ => ""

end Rendition

/-- The item with all descriptions in it replaced. -/
def Production.TypeSystemItem.mapDescriptions (f : Option String → Option String) :
    TypeSystemItem → TypeSystemItem
  | .directive d => .directive (d.mapDescriptions f)
  | .schema s => .schema s
  | .type t => .type (t.mapDescriptions f)
  | .extension addition => .extension addition

variable {r : Rendition} {c : RenderSettings} {f : Option String → Option String}
  {room : Nat}

/-! ### The blocks of a rendition -/

lemma Rendition.mem_items {i : TypeSystemItem} (h : i ∈ r.items) :
    (∃ d ∈ r.directiveDefinitions, i = .directive d) ∨
      (r.hasRoot = true ∧ i = .schema r.schema) ∨ ∃ t ∈ r.shownTypes, i = .type t := by
  simp only [items, List.mem_append, List.mem_map] at h
  rcases h with (⟨d, hd, rfl⟩ | h) | ⟨t, ht, rfl⟩
  · exact .inl ⟨d, hd, rfl⟩
  · split at h
    next hr => exact .inr (.inl ⟨hr, by simpa using h⟩)
    next => simp at h
  · exact .inr (.inr ⟨t, ht, rfl⟩)

/-- The schema definition shows if there is a root. Directives alone would show it as well. -/
lemma Rendition.Legible.showsSchema (h : r.Legible room) : Rendering.showsSchema r = r.hasRoot := by
  rw [Rendering.showsSchema, hasRoot]
  rcases h.rooted with hq | hd
  · simp [hq]
  · simp [hd]

lemma Rendition.Legible.blocks (h : r.Legible room) :
    Rendering.blocks c r = r.items.map (r.block c) := by
  rw [Rendering.blocks, h.showsSchema, items, List.map_append, List.map_append, List.map_map,
    List.map_map]
  congr 2
  split <;> rfl

lemma Rendition.Legible.lexes (h : r.Legible room) {i : TypeSystemItem} (hi : i ∈ r.items) :
    Token.Lexes (r.block c i).toList (i.mapDescriptions c.shown).tokens := by
  rcases mem_items hi with ⟨d, hd, rfl⟩ | ⟨hr, rfl⟩ | ⟨t, ht, rfl⟩
  · exact Rendering.lexes_directiveBlock (h.directiveDefinitions d hd)
  · exact Rendering.lexes_schemaBlock hr h.query h.mutation h.directives
  · exact Rendering.lexes_typeBlock (h.types t ht)

/-- The text of a rendition has the tokens of its items. -/
lemma Rendition.Legible.tokenize?_text (h : r.Legible room) (c : RenderSettings) :
    Token.tokenize? (r.text c).toList =
      some ((r.items.map (·.mapDescriptions c.shown)).flatMap TypeSystemItem.tokens) := by
  have hlexes : LexesBeforeBreak (r.text c).toList
      (r.items.flatMap fun i => (i.mapDescriptions c.shown).tokens) := by
    rw [Rendition.text, h.blocks, String.toList_intercalate, List.map_map]
    exact Token.lexesBeforeBreak_intercalate Rendering.lexes_lineBreak
      (Token.beginsBreak_cons.2 (by decide)) (List.cons_ne_nil _ _)
      fun i hi => (h.lexes hi).beforeBreak
  have htext := hlexes [] Token.beginsBreak_nil
  simpa [Token.tokenize?_nil, List.flatMap_map] using htext

/-! ### Reading the text -/

lemma Rendition.Legible.legible_mapDescriptions (h : r.Legible room) {i : TypeSystemItem}
    (hi : i ∈ r.items) : (i.mapDescriptions f).Legible room := by
  rcases mem_items hi with ⟨d, hd, rfl⟩ | ⟨-, rfl⟩ | ⟨t, ht, rfl⟩
  · exact (h.directiveDefinitions d hd).mapDescriptions
  · exact ⟨rfl, rfl, h.directives⟩
  · exact (h.types t ht).mapDescriptions

/-- Reading merges nothing in what has been rendered. -/
lemma Rendition.Legible.map_ofTypeSystemItem (h : r.Legible room) (hf : f none = none) :
    (r.items.map (·.mapDescriptions f)).map Definition.ofTypeSystemItem =
      (r.document.mapDescriptions f).definitions := by
  have hdirectives : ∀ d ∈ r.directiveDefinitions,
      Definition.directive (d.mapDescriptions f).merged = .directive (d.mapDescriptions f) := by
    intro d hd
    rw [(h.directiveDefinitions d hd).mapDescriptions.merged]
  have htypes : ∀ t ∈ r.shownTypes,
      Definition.type (t.mapDescriptions f).merged = .type (t.mapDescriptions f) := by
    intro t ht
    rw [(h.types t ht).mapDescriptions.merged]
  have hschema :
      Definition.schema r.schema.merged = (Definition.schema r.schema).mapDescriptions f := by
    have hmerged : r.schema.directives.map Directive.merged = r.schema.directives :=
      Directive.map_merged h.directives
    rw [SchemaDefinition.merged, hmerged, Definition.mapDescriptions]
    simp [schema, hf]
  simp only [items, document, Document.mapDescriptions, List.map_append, List.map_map]
  refine congrArg₂ _ (congrArg₂ _ (List.map_congr_left hdirectives) ?_)
    (List.map_congr_left htypes)
  split
  · exact congrArg (fun definition => [definition]) hschema
  · rfl

/-- The text of a rendition is read as the document of what was rendered, with its descriptions as
they are shown, unless it has more brackets open at once than any text may have. Descriptions that
are shown at all change in their blanks only. -/
theorem Document.ofSchemaText?_text (h : r.Legible room) (c : RenderSettings)
    (hnests : ∀ ts, Token.tokenize? (r.text c).toList = some ts →
      Token.nests Token.maxNesting ts = true) :
    Document.ofSchemaText? (r.text c) = some (r.document.mapDescriptions c.shown) ∧
      (c.descriptions = true → ∀ description, SameButBlanks (c.shown description) description) := by
  refine ⟨?_, RenderSettings.sameButBlanks_shown⟩
  have hshown : c.shown none = none := by simp [RenderSettings.shown]
  have hdocument := h.map_ofTypeSystemItem hshown
  have htokens := h.tokenize?_text c
  have hroom : ∀ i ∈ r.items.map (·.mapDescriptions c.shown), i.Legible room := by
    intro i hi
    obtain ⟨raw, hraw, rfl⟩ := List.mem_map.1 hi
    exact h.legible_mapDescriptions hraw
  -- hence the reader has enough room for the brackets of every definition
  have hlegible := legible_of_nests hroom (hnests _ htokens)
  rw [Document.ofSchemaText?]
  split
  next hblank =>
    -- a blank text has no tokens, whereas every definition has some
    have hnil := Token.eq_nil_of_tokenize?_of_isBlank (by simpa using hblank) htokens
    have hitems : r.items = [] := by
      by_contra hne
      obtain ⟨i, items, hcons⟩ := List.exists_cons_of_ne_nil hne
      have hi := Production.readsBack_typeSystemItem
        (hlegible (i.mapDescriptions c.shown) (by simp [hcons])) (Nat.le_refl _)
      obtain ⟨t, ts, hi, -⟩ := hi.head
      simp [hcons, hi] at hnil
    rw [hitems] at hdocument
    exact congrArg (fun definitions => some (Document.mk definitions)) hdocument
  next hblank =>
    -- there are definitions, as the text of none is empty and so blank
    have hne : r.items.map (·.mapDescriptions c.shown) ≠ [] := by
      intro hnil
      have hitems : r.items = [] := by simpa using hnil
      rw [Rendition.text, h.blocks, hitems] at hblank
      simp at hblank
    have hread := Production.complete_typeSystem_tokens hne hlegible
    rw [Token.ofText?, htokens, Option.filter_some, if_pos (hnests _ htokens)]
    simp only [Option.bind_eq_bind, Option.bind_some, hread, hdocument]
    rfl

/-- A rendition of one object type, whose one field has an argument with a default value, with a
directive on the schema. -/
def Rendition.echo : Rendition where
  query := some "Query"
  directives := [⟨"link", [("as", .enum "echo")]⟩]
  types := [{
    description := some "  Says \"it\"\n   again. "
    name := "Query"
    body := .object [] [{
      name := "echo"
      type := .nonNull (.named "String")
      arguments := [{
        name := "words"
        type := .list (.named "String")
        defaultValue := some (.list [.string "a \\ b", .null]) }] }] }]

lemma Rendition.legible_echo : Rendition.echo.Legible 3 := by
  have hwords : InputValue.Legible 1 {
      name := "words"
      type := .list (.named "String")
      defaultValue := some (.list [.string "a \\ b", .null]) } := by
    refine ⟨by decide, .list (.named (by decide)), ?_, by simp⟩
    rintro value ⟨⟩
    apply Value.Legible.list
    intro v hv
    rcases List.mem_pair.1 hv with rfl | rfl
    · exact .string
    · exact .null
  have hecho : Field.Legible 2 {
      name := "echo"
      type := .nonNull (.named "String")
      arguments := [{
        name := "words"
        type := .list (.named "String")
        defaultValue := some (.list [.string "a \\ b", .null]) }] } := by
    refine ⟨by decide, .inr ⟨1, rfl, by simpa using hwords⟩, ?_, by simp⟩
    exact .nonNull (.named (by decide)) (by simp)
  constructor
  case query => rintro n ⟨⟩; decide
  case mutation => rintro n ⟨⟩
  case directives =>
    intro d hd
    obtain rfl := List.mem_singleton.1 hd
    refine ⟨by decide, by simp, .inr ⟨2, rfl, ?_⟩⟩
    intro a ha
    obtain rfl := List.mem_singleton.1 ha
    exact ⟨by decide, .enum (by decide) (by decide)⟩
  case rooted => exact .inl rfl
  case directiveDefinitions => simp [echo]
  case types =>
    intro t ht
    obtain rfl := List.mem_singleton.1 (List.mem_of_mem_filter ht)
    exact ⟨by decide, by simp, by simp, .inr ⟨2, rfl, by simpa using hecho⟩⟩

theorem Document.ofSchemaText?_text_echo :
    Rendition.echo.Legible 3 ∧
      Document.ofSchemaText? (Rendition.echo.text {}) =
        some (Rendition.echo.document.mapDescriptions (RenderSettings.shown {})) := by
  refine ⟨Rendition.legible_echo, (Document.ofSchemaText?_text Rendition.legible_echo {} ?_).1⟩
  intro ts hts
  obtain rfl := Option.some.inj ((Rendition.legible_echo.tokenize?_text {}).symm.trans hts)
  decide

end CanonicalSdl
