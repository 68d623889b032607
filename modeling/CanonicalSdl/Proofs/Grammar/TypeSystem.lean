import CanonicalSdl.Proofs.Grammar.Value

/-!
# Reading definitions back

The tokens of legible definitions, one after another, are read as just these definitions. A
definition ends where none of the tokens comes next with which it could go on; the beginning of
another definition is none of them.
-/

namespace CanonicalSdl.Production

open Reader
open Token (Avoids avoids_cons avoids_enclosed avoids_listed)

variable {room : Nat} {rest : List Token}

/-! ### Lists of names -/

lemma separated_names {separator : Token} {construct : Production String} {first : String}
    {others : List String}
    (h : ∀ s ∈ first :: others, ∀ rest, construct (.name s :: rest) = some (s, rest))
    (hend : rest.head? ≠ some separator) :
    separated separator construct
      (.name first :: (others.flatMap (fun s => [separator, .name s]) ++ rest)) =
        some (first :: others, rest) :=
  @separated_flatMap _ _ _ construct (fun s => [Token.name s]) others _ separator first h hend

lemma accept_name_of_punctuator (c : Char) (n : String) (rest : List Token) :
    accept (.punctuator c) (.name n :: rest) = some (false, .name n :: rest) :=
  accept_of_head?_ne (by simp)

/-- Names after what introduces them are read back, if neither it nor a separator follows. -/
lemma listed_tokens {introduction : Token} {c : Char} {names : List String}
    (hrest : Avoids [introduction, .punctuator c] rest) :
    (do
      if ← accept introduction then
        let _ ← accept (.punctuator c)
        separated (.punctuator c) name
      else return []) (Token.listed introduction (.punctuator c) names ++ rest) =
      some (names, rest) := by
  cases names with
  | nil =>
    -- without names there is no introduction either, and what follows must not look like one
    have hnone := accept_of_head?_ne (hrest.head?_ne List.mem_cons_self)
    simp only [Token.listed, List.nil_append, bind_apply, pure_apply, hnone, Option.bind_some,
      Bool.false_eq_true, ↓reduceIte]
  | cons first others =>
    have hnames : separated (.punctuator c) name
        (.name first :: (others.flatMap (fun s => [.punctuator c, .name s]) ++ rest)) =
          some (first :: others, rest) :=
      separated_names (fun s _ rest => rfl) (hrest.head?_ne (t := .punctuator c) (by simp))
    simp only [Token.listed, List.cons_append, bind_apply, accept_cons, accept_name_of_punctuator,
      Option.bind_some, ↓reduceIte, hnames]

lemma interfaces?_tokens {names : List String}
    (hrest : Avoids [.name "implements", .punctuator '&'] rest) :
    interfaces? (Token.listed (.name "implements") (.punctuator '&') names ++ rest) =
      some (names, rest) :=
  listed_tokens hrest

lemma members?_tokens {names : List String}
    (hrest : Avoids [.punctuator '=', .punctuator '|'] rest) :
    members? (Token.listed (.punctuator '=') (.punctuator '|') names ++ rest) =
      some (names, rest) :=
  listed_tokens hrest

/-! ### Items in braces -/

section

variable {α : Type} {construct : Production α} {tokensOf : α → List Token} {as : List α}

/-- Items that begin with a name or a string, and of which none goes on with such a token, are read
back in brackets. -/
lemma items_tokens {opening closing : Char} {description : α → Option String}
    {nameOf : α → String} {tail : α → List Token}
    (htokens : ∀ a, tokensOf a = Token.ofDescription (description a) ++ .name (nameOf a) :: tail a)
    (h : ∀ a ∈ as, ∀ rest, Avoids continuations rest →
      construct (tokensOf a ++ rest) = some (a, rest))
    (hclosing : .punctuator closing ∉ continuations)
    (hrest : Avoids [.punctuator opening] rest) :
    enclosed? opening closing isNameOrString construct
      (Token.enclosed opening closing tokensOf as ++ rest) = some (as, rest) := by
  have hreads : ∀ a ∈ as, ReadsBack isNameOrString construct tokensOf (Avoids continuations) a := by
    intro a ha
    constructor
    case head =>
      rw [htokens]
      exact exists_ofDescription_append_eq_cons _ _ _
    case after =>
      intro rest
      rw [htokens, List.append_assoc]
      exact avoids_ofDescription_append _ _ _
    case reads => exact h a ha
  exact enclosed?_enclosed hreads (fun _ => avoids_cons.2 hclosing) rfl
    (hrest.head?_ne List.mem_cons_self)

end

lemma argumentDefinitions?_tokens {arguments : List InputValue}
    (h : InBrackets InputValue.Legible room arguments) (hroom : room ≤ Token.maxNesting)
    (hrest : Avoids [.punctuator '('] rest) :
    argumentDefinitions? (Token.enclosed '(' ')' InputValue.tokens arguments ++ rest) =
      some (arguments, rest) := by
  obtain ⟨inner, hinner, hall⟩ := h.exists_room hroom
  exact items_tokens (fun _ => rfl) (fun v hv _ => inputValue_tokens (hall v hv) hinner)
    (by decide) hrest

lemma inputFields_tokens {fields : List InputValue}
    (h : InBrackets InputValue.Legible room fields) (hroom : room ≤ Token.maxNesting)
    (hrest : Avoids [.punctuator '\x7b'] rest) :
    enclosed? '\x7b' '\x7d' isNameOrString inputValue
      (Token.enclosed '\x7b' '\x7d' InputValue.tokens fields ++ rest) = some (fields, rest) := by
  obtain ⟨inner, hinner, hall⟩ := h.exists_room hroom
  exact items_tokens (fun _ => rfl) (fun v hv _ => inputValue_tokens (hall v hv) hinner)
    (by decide) hrest

lemma field_tokens {f : Field} (h : f.Legible room) (hroom : room ≤ Token.maxNesting)
    (hrest : Avoids continuations rest) : field (f.tokens ++ rest) = some (f, rest) := by
  have hdirectives := directives_tokens h.directives hroom (hrest.mono (by decide))
  have htype : Avoids [.punctuator '!'] (f.directives.flatMap Directive.tokens ++ rest) :=
    (avoids_directives (by decide)).append (hrest.mono (by decide))
  have hcolon (tail : List Token) : Avoids [.punctuator '('] (.punctuator ':' :: tail) := by simp
  have harguments := argumentDefinitions?_tokens h.arguments hroom (hcolon
    (f.type.tokens ++ (f.directives.flatMap Directive.tokens ++ rest)))
  simp only [field, Field.tokens, List.cons_append, List.append_assoc, bind_apply, pure_apply,
    string?_ofDescription, Option.bind_some, name_cons, harguments, punctuator_cons,
    type_tokens h.type hroom htype, hdirectives]

lemma fields?_tokens {fields : List Field} (h : InBrackets Field.Legible room fields)
    (hroom : room ≤ Token.maxNesting) (hrest : Avoids [.punctuator '\x7b'] rest) :
    fields? (Token.enclosed '\x7b' '\x7d' Field.tokens fields ++ rest) = some (fields, rest) := by
  obtain ⟨inner, hinner, hall⟩ := h.exists_room hroom
  exact items_tokens (fun _ => rfl) (fun f hf _ => field_tokens (hall f hf) hinner) (by decide)
    hrest

lemma enumValue_tokens {v : EnumValue} (h : v.Legible room) (hroom : room ≤ Token.maxNesting)
    (hrest : Avoids continuations rest) : enumValue (v.tokens ++ rest) = some (v, rest) := by
  have hdirectives := directives_tokens h.directives hroom (hrest.mono (by decide))
  simp only [enumValue, EnumValue.tokens, List.cons_append, List.append_assoc, bind_apply,
    pure_apply, string?_ofDescription, Option.bind_some, name_cons, hdirectives]

lemma enumValues_tokens {values : List EnumValue} (h : InBrackets EnumValue.Legible room values)
    (hroom : room ≤ Token.maxNesting) (hrest : Avoids [.punctuator '\x7b'] rest) :
    enclosed? '\x7b' '\x7d' isNameOrString enumValue
      (Token.enclosed '\x7b' '\x7d' EnumValue.tokens values ++ rest) = some (values, rest) := by
  obtain ⟨inner, hinner, hall⟩ := h.exists_room hroom
  exact items_tokens (fun _ => rfl) (fun v hv _ => enumValue_tokens (hall v hv) hinner)
    (by decide) hrest

/-! ### Types -/

/-- The tokens with which a definition can go on. -/
def definitionContinuations : List Token :=
  .name "implements" :: continuations

lemma avoids_braced {α : Type} {tokensOf : α → List Token} {as : List α}
    (hrest : Avoids definitionContinuations rest) :
    Avoids [.punctuator '@', .punctuator '('] (Token.enclosed '\x7b' '\x7d' tokensOf as ++ rest) :=
  (avoids_enclosed (by decide)).append (hrest.mono (by decide))

lemma avoids_directives_braced {ds : List Directive} {α : Type} {tokensOf : α → List Token}
    {as : List α} (hrest : Avoids definitionContinuations rest) :
    Avoids [.name "implements", .punctuator '&']
      (ds.flatMap Directive.tokens ++ (Token.enclosed '\x7b' '\x7d' tokensOf as ++ rest)) :=
  (avoids_directives (by decide)).append
    ((avoids_enclosed (by decide)).append (hrest.mono (by decide)))

/-- A legible type is read back after its keyword. -/
lemma type_tokensFromKeyword {t : TypeDefinition} (h : t.Legible room)
    (hroom : room ≤ Token.maxNesting) (hrest : Avoids definitionContinuations rest) :
    ∃ keyword tail, t.tokensFromKeyword = .name keyword :: tail ∧
      keyword ∉ ["schema", "extend", "directive", "implements"] ∧
      typeAfter keyword t.description (tail ++ rest) = some (t, rest) := by
  obtain ⟨description, name, ds, body⟩ := t
  obtain ⟨-, hds, hbody⟩ := h
  -- every kind of type has its directives before what is peculiar to it
  have hdirectives (tail : List Token) (htail : Avoids [.punctuator '@', .punctuator '('] tail) :
      directives (ds.flatMap Directive.tokens ++ tail) = some (ds, tail) :=
    directives_tokens hds hroom htail
  have hend (ts : List Token) (hts : ts ⊆ definitionContinuations) : Avoids ts rest :=
    hrest.mono hts
  cases body with
  | scalar =>
    refine ⟨"scalar", _, rfl, by decide, ?_⟩
    simp only [typeAfter, List.cons_append, bind_apply, pure_apply, name_cons, Option.bind_some,
      ↓reduceIte, hdirectives rest (hend _ (by decide))]
  | object interfaces fields =>
    refine ⟨"type", _, rfl, by decide, ?_⟩
    have hfields := fields?_tokens hbody.2 hroom (hend _ (by decide))
    simp only [typeAfter, List.cons_append, List.append_assoc, bind_apply, pure_apply, name_cons,
      Option.bind_some, String.reduceEq, ↓reduceIte,
      interfaces?_tokens (avoids_directives_braced hrest), hdirectives _ (avoids_braced hrest),
      hfields]
  | interface interfaces fields =>
    refine ⟨"interface", _, rfl, by decide, ?_⟩
    have hfields := fields?_tokens hbody.2 hroom (hend _ (by decide))
    simp only [typeAfter, List.cons_append, List.append_assoc, bind_apply, pure_apply, name_cons,
      Option.bind_some, String.reduceEq, ↓reduceIte,
      interfaces?_tokens (avoids_directives_braced hrest), hdirectives _ (avoids_braced hrest),
      hfields]
  | input fields =>
    refine ⟨"input", _, rfl, by decide, ?_⟩
    have hfields := inputFields_tokens hbody hroom (hend _ (by decide))
    simp only [typeAfter, List.cons_append, List.append_assoc, bind_apply, pure_apply, name_cons,
      Option.bind_some, String.reduceEq, ↓reduceIte, hdirectives _ (avoids_braced hrest), hfields]
  | enum values =>
    refine ⟨"enum", _, rfl, by decide, ?_⟩
    have hvalues := enumValues_tokens hbody hroom (hend _ (by decide))
    simp only [typeAfter, List.cons_append, List.append_assoc, bind_apply, pure_apply, name_cons,
      Option.bind_some, String.reduceEq, ↓reduceIte, hdirectives _ (avoids_braced hrest), hvalues]
  | union members =>
    -- the members are in no brackets, so that what follows the type follows them
    refine ⟨"union", _, rfl, by decide, ?_⟩
    have hmembers := @members?_tokens rest members (hend _ (by decide))
    have hlisted : Avoids [.punctuator '@', .punctuator '(']
        (Token.listed (.punctuator '=') (.punctuator '|') members ++ rest) :=
      (avoids_listed (by decide)).append (hend _ (by decide))
    simp only [typeAfter, List.cons_append, List.append_assoc, bind_apply, pure_apply, name_cons,
      Option.bind_some, String.reduceEq, ↓reduceIte, hdirectives _ hlisted, hmembers]

/-! ### Directive definitions and schema definitions -/

lemma location_name {l : String} (h : l ∈ directiveLocations) (rest : List Token) :
    location (.name l :: rest) = some (l, rest) := by
  have hl : directiveLocations.contains l = true := by simpa using h
  simp only [location, bind_apply, pure_apply, name_cons, Option.bind_some, hl, ↓reduceIte]

lemma locations?_names {first : String} {others : List String}
    (h : ∀ l ∈ first :: others, l ∈ directiveLocations) (hrest : Avoids [.punctuator '|'] rest) :
    locations? (.name first :: (others.flatMap (fun l => [.punctuator '|', .name l]) ++ rest)) =
      some (first :: others, rest) := by
  have hnames : separated (.punctuator '|') location
      (.name first :: (others.flatMap (fun l => [.punctuator '|', .name l]) ++ rest)) =
        some (first :: others, rest) :=
    separated_names (fun l hl => location_name (h l hl)) (hrest.head?_ne List.mem_cons_self)
  simp only [locations?, bind_apply, accept_name_of_punctuator, next_apply, Option.bind_some,
    List.head?_cons, Option.any_some, isName, Bool.or_true, ↓reduceIte, hnames]

lemma directiveAfter_tokens {d : DirectiveDefinition} (h : d.Legible room)
    (hroom : room ≤ Token.maxNesting) (hrest : Avoids definitionContinuations rest) :
    ∃ tail, d.tokens = Token.ofDescription d.description ++ .name "directive" :: tail ∧
      directiveAfter d.description (tail ++ rest) = some (d, rest) := by
  obtain ⟨description, name, arguments, repeatable, locations⟩ := d
  obtain ⟨-, harguments, hlocated, hlocations⟩ := h
  obtain ⟨first, others, rfl⟩ := List.exists_cons_of_ne_nil hlocated
  refine ⟨_, rfl, ?_⟩
  have hnames := locations?_names hlocations (hrest.mono (by decide))
  have hon (tail : List Token) : accept (.name "repeatable") (.name "on" :: tail) =
      some (false, .name "on" :: tail) := accept_of_head?_ne (by simp)
  have hargs (n : String) (tail : List Token) :
      argumentDefinitions? (Token.enclosed '(' ')' InputValue.tokens arguments ++ .name n :: tail) =
        some (arguments, .name n :: tail) := argumentDefinitions?_tokens harguments hroom (by simp)
  cases repeatable <;>
  simp only [directiveAfter, Token.listed, List.cons_append, List.append_assoc, List.nil_append,
    bind_apply, pure_apply, punctuator_cons, name_cons, Option.bind_some, hargs, Bool.false_eq_true,
    ↓reduceIte, accept_cons, hon, keyword_cons, hnames]

lemma roots_tokens (roots : List (String × String)) (rest : List Token) :
    many isName rootOperation
      (roots.flatMap SchemaDefinition.rootTokens ++ .punctuator '\x7d' :: rest) =
        some (roots, .punctuator '\x7d' :: rest) := by
  have hreads : ∀ root ∈ roots, ReadsBack isName rootOperation SchemaDefinition.rootTokens
      (fun _ => True) root := by
    intro root _
    constructor
    case head => exact ⟨_, _, rfl, rfl⟩
    case after => exact fun _ => trivial
    case reads =>
      intro rest _
      simp only [rootOperation, SchemaDefinition.rootTokens, List.cons_append, List.nil_append,
        bind_apply, pure_apply, name_cons, punctuator_cons, Option.bind_some]
  exact many_flatMap hreads trivial (by simp [isName])

/-- A schema definition is read back with the roots that are rendered. -/
lemma schemaAfter_tokens {s : SchemaDefinition} (h : ∀ d ∈ s.directives, d.Legible room)
    (hroom : room ≤ Token.maxNesting) (rest : List Token) :
    ∃ tail, s.tokens = .name "schema" :: tail ∧
      schemaAfter (tail ++ rest) =
        some ({ s with description := none, subscription := none }, rest) := by
  refine ⟨_, rfl, ?_⟩
  have hdirectives (tail : List Token) := directives_tokens h hroom
    (avoids_cons.2 (by decide) : Avoids _ (.punctuator '\x7b' :: tail))
  obtain ⟨description, ds, query, mutation, subscription⟩ := s
  have hroots : areRootOperations
        (SchemaDefinition.mk description ds query mutation subscription).roots = true := by
    cases query <;> cases mutation <;> simp [SchemaDefinition.roots, areRootOperations]
  cases query <;> cases mutation <;>
  simp only [List.append_assoc, List.cons_append, List.nil_append, schemaAfter, bind_apply,
    pure_apply, hdirectives, Option.bind_some, punctuator_cons, roots_tokens, hroots,
    ↓reduceIte] <;>
  rfl

/-! ### Documents -/

/-- The definition of a type system has the shape of one that was read: a schema definition has
neither a description nor a subscription root. -/
def TypeSystemItem.Legible (room : Nat) : TypeSystemItem → Prop
  | .schema s =>
    s.description = none ∧ s.subscription = none ∧ ∀ d ∈ s.directives, d.Legible room
  | .directive d => d.Legible room
  | .type t => t.Legible room
  | .extension _ => False

/-- The tokens of a definition of a type system. -/
def TypeSystemItem.tokens : TypeSystemItem → List Token
  | .schema s => s.tokens
  | .directive d => d.tokens
  | .type t => t.tokens
  | .extension _ => []

lemma typeSystemItem_schema (tail : List Token) :
    typeSystemItem (.name "schema" :: tail) =
      (schemaAfter tail).map fun read => (.schema read.1, read.2) := by
  simp only [typeSystemItem, bind_apply, pure_apply, accept_cons, Option.bind_some, ↓reduceIte]
  exact Option.map_eq_bind.symm

/-- What a description and a keyword begin that stand for neither a schema definition nor an
extension. -/
lemma typeSystemItem_described {keyword : String} (hkeyword : keyword ∉ ["schema", "extend"])
    (d : Option String) (tail : List Token) :
    typeSystemItem (Token.ofDescription d ++ .name keyword :: tail) =
      if keyword = "directive" then
        (directiveAfter d tail).map fun read => (.directive read.1, read.2)
      else (typeAfter keyword d tail).map fun read => (.type read.1, read.2) := by
  simp only [List.mem_cons, List.not_mem_nil, or_false, not_or] at hkeyword
  have hword (word : String) (hword : keyword ≠ word) :
      accept (.name word) (Token.ofDescription d ++ .name keyword :: tail) =
        some (false, Token.ofDescription d ++ .name keyword :: tail) := by
    apply accept_of_head?_ne
    cases d <;> simp [Token.ofDescription, hword]
  simp only [typeSystemItem, bind_apply, hword "schema" hkeyword.1, hword "extend" hkeyword.2,
    Option.bind_some, Bool.false_eq_true, ↓reduceIte, string?_ofDescription, name_cons]
  split
  · exact Option.map_eq_bind.symm
  · exact Option.map_eq_bind.symm

/-- A legible definition is read back where another one can stand. -/
lemma readsBack_typeSystemItem {i : TypeSystemItem} (h : i.Legible room)
    (hroom : room ≤ Token.maxNesting) :
    ReadsBack isNameOrString typeSystemItem TypeSystemItem.tokens
      (Avoids definitionContinuations) i := by
  cases i with
  | schema s =>
    -- nothing is lost of a schema definition without a description and a subscription root
    obtain ⟨hdescription, hsubscription, hdirectives⟩ := h
    have hs : { s with description := none, subscription := none } = s := by
      cases s
      simp_all
    constructor
    case head => exact ⟨_, _, rfl, rfl⟩
    case after => exact fun rest => avoids_cons.2 (by decide)
    case reads =>
      intro rest _
      obtain ⟨tail, htokens, hread⟩ := schemaAfter_tokens hdirectives hroom rest
      rw [TypeSystemItem.tokens, htokens, List.cons_append, typeSystemItem_schema, hread, hs]
      rfl
  | directive d =>
    constructor
    case head => exact exists_ofDescription_append_eq_cons _ _ _
    case after =>
      intro rest
      cases hd : d.description <;>
      simp [TypeSystemItem.tokens, DirectiveDefinition.tokens, Token.ofDescription, hd,
        definitionContinuations, continuations]
    case reads =>
      intro rest hrest
      obtain ⟨tail, htokens, hread⟩ := directiveAfter_tokens h hroom hrest
      rw [TypeSystemItem.tokens, htokens, List.append_assoc, List.cons_append,
        typeSystemItem_described (by decide), if_pos rfl, hread]
      rfl
  | type t =>
    -- the keyword is the same whatever comes after the type
    have hkeyword (rest : List Token) (hrest : Avoids definitionContinuations rest) :=
      type_tokensFromKeyword h hroom hrest
    constructor
    case head =>
      obtain ⟨keyword, tail, htokens, -⟩ := hkeyword [] Token.avoids_nil
      rw [TypeSystemItem.tokens, TypeDefinition.tokens, htokens]
      exact exists_ofDescription_append_eq_cons _ _ _
    case after =>
      intro rest
      obtain ⟨keyword, tail, htokens, hk, -⟩ := hkeyword [] Token.avoids_nil
      rw [TypeSystemItem.tokens, TypeDefinition.tokens, htokens]
      cases hd : t.description <;>
      simp_all [Token.ofDescription, definitionContinuations, continuations]
    case reads =>
      intro rest hrest
      obtain ⟨keyword, tail, htokens, hk, hread⟩ := hkeyword rest hrest
      simp only [List.mem_cons, List.not_mem_nil, or_false, not_or] at hk
      rw [TypeSystemItem.tokens, TypeDefinition.tokens, htokens, List.append_assoc,
        List.cons_append, typeSystemItem_described (by simp [hk]), if_neg hk.2.2.1, hread]
      rfl
  | extension addition => exact h.elim

/-- Legible definitions, at least one, are read back from their tokens. -/
theorem complete_typeSystem_tokens {items : List TypeSystemItem} (hne : items ≠ [])
    (h : ∀ i ∈ items, i.Legible Token.maxNesting) :
    complete typeSystem (items.flatMap TypeSystemItem.tokens) = some items := by
  have hread := many1_flatMap hne
    (fun i hi => readsBack_typeSystemItem (h i hi) (Nat.le_refl _)) Token.avoids_nil (by simp)
  rw [List.append_nil] at hread
  rw [complete, typeSystem, hread]

end CanonicalSdl.Production
