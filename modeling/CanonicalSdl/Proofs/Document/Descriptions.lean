import CanonicalSdl.Document.Reading
import CanonicalSdl.Proofs.Grammar.Legible

/-!
# Descriptions replaced, arguments merged

Rendering and reading back changes descriptions at most. Here is what it means to change all
descriptions of a definition, and that this, like merging arguments that are given once each, keeps
what makes a definition legible.
-/

namespace CanonicalSdl

variable {room : Nat} (f : Option String → Option String)

/-! ### Changing descriptions -/

/-- The argument or input field with its description replaced. -/
def InputValue.mapDescriptions (v : InputValue) : InputValue :=
  { v with description := f v.description }

/-- The field with its description and those of its arguments replaced. -/
def Field.mapDescriptions (d : Field) : Field :=
  { d with
    description := f d.description
    arguments := d.arguments.map (InputValue.mapDescriptions f) }

/-- The enum value with its description replaced. -/
def EnumValue.mapDescriptions (v : EnumValue) : EnumValue :=
  { v with description := f v.description }

/-- The body of a type with all descriptions in it replaced. -/
def TypeBody.mapDescriptions : TypeBody → TypeBody
  | .scalar => .scalar
  | .input fields => .input (fields.map (InputValue.mapDescriptions f))
  | .object interfaces fields => .object interfaces (fields.map (Field.mapDescriptions f))
  | .interface interfaces fields => .interface interfaces (fields.map (Field.mapDescriptions f))
  | .enum values => .enum (values.map (EnumValue.mapDescriptions f))
  | .union members => .union members

/-- The type with its description and all descriptions in it replaced. -/
def TypeDefinition.mapDescriptions (t : TypeDefinition) : TypeDefinition :=
  { t with description := f t.description, body := t.body.mapDescriptions f }

/-- The directive definition with its description and those of its arguments replaced. -/
def DirectiveDefinition.mapDescriptions (d : DirectiveDefinition) : DirectiveDefinition :=
  { d with
    description := f d.description
    arguments := d.arguments.map (InputValue.mapDescriptions f) }

/-- The definition with all descriptions in it replaced, unless it is kept as text. -/
def Definition.mapDescriptions : Definition → Definition
  | .executable verbatim => .executable verbatim
  | .extension verbatim => .extension verbatim
  | .directive definition => .directive (definition.mapDescriptions f)
  | .schema definition => .schema { definition with description := f definition.description }
  | .type definition => .type (definition.mapDescriptions f)

/-- The document with all descriptions in its definitions replaced. -/
def Document.mapDescriptions (d : Document) : Document :=
  ⟨d.definitions.map (Definition.mapDescriptions f)⟩

variable {f}

lemma InBrackets.map {α β : Type} {Fits : Nat → α → Prop} {Fits' : Nat → β → Prop} {g : α → β}
    {as : List α} (h : InBrackets Fits room as)
    (hg : ∀ inner, ∀ a ∈ as, Fits inner a → Fits' inner (g a)) :
    InBrackets Fits' room (as.map g) := by
  rcases h with rfl | ⟨inner, rfl, hall⟩
  · exact .inl rfl
  · refine .inr ⟨inner, rfl, ?_⟩
    intro b hb
    obtain ⟨a, ha, rfl⟩ := List.mem_map.1 hb
    exact hg inner a ha (hall a ha)

lemma InputValue.Legible.mapDescriptions {v : InputValue} (h : v.Legible room) :
    (v.mapDescriptions f).Legible room :=
  ⟨h.name, h.type, h.defaultValue, h.directives⟩

lemma Field.Legible.mapDescriptions {d : Field} (h : d.Legible room) :
    (d.mapDescriptions f).Legible room :=
  ⟨h.name, h.arguments.map fun _ _ _ hv => hv.mapDescriptions, h.type, h.directives⟩

lemma EnumValue.Legible.mapDescriptions {v : EnumValue} (h : v.Legible room) :
    (v.mapDescriptions f).Legible room :=
  ⟨h.name, h.directives⟩

lemma TypeDefinition.Legible.mapDescriptions {t : TypeDefinition} (h : t.Legible room) :
    (t.mapDescriptions f).Legible room := by
  obtain ⟨description, name, directives, body⟩ := t
  obtain ⟨hname, hdirectives, hbody⟩ := h
  refine ⟨hname, hdirectives, ?_⟩
  cases body with
  | scalar => trivial
  | input fields => exact InBrackets.map hbody fun _ _ _ hv => hv.mapDescriptions
  | object interfaces fields =>
    exact ⟨hbody.1, hbody.2.map fun _ _ _ hd => hd.mapDescriptions⟩
  | interface interfaces fields =>
    exact ⟨hbody.1, hbody.2.map fun _ _ _ hd => hd.mapDescriptions⟩
  | enum values => exact InBrackets.map hbody fun _ _ _ hv => hv.mapDescriptions
  | union members => exact hbody

lemma DirectiveDefinition.Legible.mapDescriptions {d : DirectiveDefinition} (h : d.Legible room) :
    (d.mapDescriptions f).Legible room :=
  ⟨h.name, h.arguments.map fun _ _ _ hv => hv.mapDescriptions, h.located, h.locations⟩

/-! ### Merging arguments -/

lemma Directive.setArgument_of_notMem {name : String} {value : Value}
    {arguments : List (String × Value)} (h : name ∉ arguments.map Prod.fst) :
    setArgument name value arguments = arguments ++ [(name, value)] := by
  induction arguments with
  | nil => rfl
  | cons argument arguments ih =>
    rw [List.map_cons, List.mem_cons, not_or] at h
    rw [setArgument, if_neg (Ne.symm h.1), ih h.2, List.cons_append]

/-- A directive that names each of its arguments once is merged already. -/
lemma Directive.merged_of_nodup {d : Directive} (h : (d.arguments.map Prod.fst).Nodup) :
    d.merged = d := by
  have hfold (done todo : List (String × Value)) (h : ((done ++ todo).map Prod.fst).Nodup) :
      todo.foldl (fun arguments pair => setArgument pair.1 pair.2 arguments) done =
        done ++ todo := by
    induction todo generalizing done with
    | nil => simp
    | cons argument todo ih =>
      have hnotMem : argument.1 ∉ done.map Prod.fst := by
        intro hmem
        rw [List.map_append, List.nodup_append] at h
        exact h.2.2 _ hmem argument.1 (by simp) rfl
      rw [List.foldl_cons, setArgument_of_notMem hnotMem, ih _ (by simpa using h)]
      simp
  rw [merged, ofPairs, hfold [] d.arguments h, List.nil_append]

lemma map_eq_self {α : Type} {g : α → α} {as : List α} (h : ∀ a ∈ as, g a = a) :
    as.map g = as :=
  (List.map_congr_left h).trans (List.map_id as)

lemma InBrackets.map_eq_self {α : Type} {Fits : Nat → α → Prop} {g : α → α} {as : List α}
    (h : InBrackets Fits room as) (hg : ∀ inner, ∀ a ∈ as, Fits inner a → g a = a) :
    as.map g = as := by
  rcases h with rfl | ⟨inner, rfl, hall⟩
  · rfl
  · exact CanonicalSdl.map_eq_self fun a ha => hg inner a ha (hall a ha)

lemma Directive.map_merged {ds : List Directive} (h : ∀ d ∈ ds, d.Legible room) :
    ds.map Directive.merged = ds :=
  map_eq_self fun d hd => merged_of_nodup (h d hd).nodup

lemma InputValue.Legible.merged {v : InputValue} (h : v.Legible room) : v.merged = v := by
  rw [InputValue.merged, Directive.map_merged h.directives]

lemma InputValue.map_merged {vs : List InputValue} (h : InBrackets InputValue.Legible room vs) :
    vs.map InputValue.merged = vs :=
  h.map_eq_self fun _ _ _ hv => hv.merged

lemma Field.Legible.merged {d : Field} (h : d.Legible room) : d.merged = d := by
  rw [Field.merged, Directive.map_merged h.directives, InputValue.map_merged h.arguments]

lemma Field.map_merged {ds : List Field} (h : InBrackets Field.Legible room ds) :
    ds.map Field.merged = ds :=
  h.map_eq_self fun _ _ _ hd => hd.merged

lemma EnumValue.map_merged {vs : List EnumValue} (h : InBrackets EnumValue.Legible room vs) :
    vs.map EnumValue.merged = vs :=
  h.map_eq_self fun _ v _ hv => by rw [EnumValue.merged, Directive.map_merged hv.directives]

lemma TypeBody.Legible.merged {b : TypeBody} (h : b.Legible room) : b.merged = b := by
  cases b with
  | scalar => rfl
  | input fields => rw [TypeBody.merged, InputValue.map_merged h]
  | object interfaces fields => rw [TypeBody.merged, Field.map_merged h.2]
  | interface interfaces fields => rw [TypeBody.merged, Field.map_merged h.2]
  | enum values => rw [TypeBody.merged, EnumValue.map_merged h]
  | union members => rfl

lemma TypeDefinition.Legible.merged {t : TypeDefinition} (h : t.Legible room) : t.merged = t := by
  rw [TypeDefinition.merged, Directive.map_merged h.directives, h.body.merged]

lemma DirectiveDefinition.Legible.merged {d : DirectiveDefinition} (h : d.Legible room) :
    d.merged = d := by
  rw [DirectiveDefinition.merged, InputValue.map_merged h.arguments]

end CanonicalSdl
