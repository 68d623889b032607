import CanonicalSdl.Proofs.Schema.NormalForm
import CanonicalSdl.Proofs.Token.Literal

/-!
# Types that are asked for by name

Types are asked for by the literal texts of values, which are matched against the quoted names of
types. The quoted form tells strings apart, and the text of no other value looks like it, but for an
enum value that begins with a quote. A document therefore asks for just the types whose names it
gives as strings.
-/

namespace CanonicalSdl

/-! ### Texts that look like a quoted string -/

/-- A string can be read back from its quoted form. -/
theorem Text.quoted_injective : Function.Injective Text.quoted := by
  intro s t h
  have hscan (s : String) :
      Token.scanString? (Text.quoted s).toList.tail = some (s.toList, []) := by
    rw [Token.toList_quoted, List.tail_cons, Token.scanString?_flatMap_escape]
  have hread : some (s.toList, ([] : List Char)) = some (t.toList, []) := by
    rw [← hscan s, ← hscan t, h]
  exact String.toList_inj.1 (by simpa using hread)

namespace Value

variable {v : Value} {n : String}

/-- The value is an enum value whose text begins with a quote, as none does that is read from a
text. -/
def IsQuotedEnum (v : Value) : Prop :=
  ∃ name, v = .enum name ∧ name.toList.head? = some '"'

/-- Only strings have texts that begin with a quote. -/
lemma head?_text_ne_quote (hstring : ∀ s, v ≠ .string s) (henum : ¬v.IsQuotedEnum) :
    v.text.toList.head? ≠ some '"' := by
  cases v with
  | null => decide
  | int i =>
    -- a quote is neither a digit nor a sign
    intro hhead
    rw [text, textIn, String.toList_ofList] at hhead
    rcases NumberLayout.mem_integer (List.mem_of_mem_head? hhead) with h | h <;>
    exact absurd h (by decide)
  | float x =>
    intro hhead
    rw [text, textIn, String.toList_ofList] at hhead
    rcases NumberLayout.mem_text (List.mem_of_mem_head? hhead) with h | h <;>
    exact absurd h (by decide)
  | string s => exact absurd rfl (hstring s)
  | boolean b => cases b <;> decide
  | enum name => exact fun hhead => henum ⟨name, rfl, hhead⟩
  | variableName name => simp [text, textIn]
  | list values => simp [text, textIn]
  | object fields => simp [text, textIn]

/-- The text of a value is a quoted name only if the value is that name as a string. -/
lemma text_eq_quoted_iff (henum : ¬v.IsQuotedEnum) : v.text = Text.quoted n ↔ v = .string n := by
  constructor
  · intro h
    by_contra hne
    have hstring : ∀ s, v ≠ .string s := by
      rintro s rfl
      exact hne (congrArg Value.string (Text.quoted_injective h))
    apply head?_text_ne_quote hstring henum
    rw [h, Token.toList_quoted]
    rfl
  · rintro rfl
    rfl

end Value

/-! ### What is asked for -/

/-- The value is in the list with which a type asks for types: the last one that is given for the
argument, in the first directive that asks for types. -/
def TypeDefinition.AsksFor (t : TypeDefinition) (v : Value) : Prop :=
  ∃ before directive after, t.directives = before ++ directive :: after ∧
    (∀ d ∈ before, d.name ≠ requestDirective) ∧ directive.name = requestDirective ∧
    ∃ earlier values later,
      directive.arguments = earlier ++ (requestArgument, .list values) :: later ∧
      (∀ a ∈ later, a.1 ≠ requestArgument) ∧ v ∈ values

/-- The value is in the list with which some object type of a document asks for types. -/
def Document.AsksFor (d : Document) (v : Value) : Prop :=
  ∃ t ∈ d.objects, t.AsksFor v

/-- The names are those of the types of the pool whose names the document gives as strings. -/
def Schema.AreAskedFor (s : Schema) (d : Document) (names : List String) : Prop :=
  ∀ n, n ∈ names ↔ n ∈ s.types.map (·.name) ∧ d.AsksFor (.string n)

variable {d : Document} {t : TypeDefinition} {s : Schema} {text : String}

/-- The value of an argument is the last one given for it. -/
lemma Directive.argument?_eq_some_iff {directive : Directive} {name : String} {v : Value} :
    directive.argument? name = some v ↔
      ∃ earlier later, directive.arguments = earlier ++ (name, v) :: later ∧
        ∀ a ∈ later, a.1 ≠ name := by
  rw [argument?, List.lookup_eq_some_iff]
  constructor
  · rintro ⟨later, earlier, harguments, hlater⟩
    refine ⟨earlier.reverse, later.reverse, ?_, ?_⟩
    · rw [← List.reverse_reverse directive.arguments, harguments]
      simp
    · exact fun a ha => (bne_iff_ne.1 (hlater a (List.mem_reverse.1 ha))).symm
  · rintro ⟨earlier, later, harguments, hlater⟩
    refine ⟨later.reverse, earlier.reverse, by simp [harguments], ?_⟩
    exact fun a ha => bne_iff_ne.2 (hlater a (List.mem_reverse.1 ha)).symm

/-- The directive of a name is the first one. -/
lemma TypeDefinition.directive?_eq_some_iff {name : String} {directive : Directive} :
    t.directive? name = some directive ↔
      ∃ before after, t.directives = before ++ directive :: after ∧
        (∀ d ∈ before, d.name ≠ name) ∧ directive.name = name := by
  rw [directive?, List.find?_eq_some_iff_append]
  constructor
  · rintro ⟨hname, before, after, hdirectives, hbefore⟩
    exact ⟨before, after, hdirectives, by simpa using hbefore, by simpa using hname⟩
  · rintro ⟨before, after, hdirectives, hbefore, hname⟩
    exact ⟨by simpa using hname, before, after, hdirectives, by simpa using hbefore⟩

lemma TypeDefinition.asksFor_iff {v : Value} :
    t.AsksFor v ↔ ∃ directive values, t.directive? requestDirective = some directive ∧
      directive.argument? requestArgument = some (.list values) ∧ v ∈ values := by
  simp only [AsksFor, directive?_eq_some_iff, Directive.argument?_eq_some_iff]
  constructor
  · rintro ⟨before, directive, after, hdirectives, hbefore, hname, earlier, values, later,
      harguments, hlater, hv⟩
    exact ⟨directive, values, ⟨before, after, hdirectives, hbefore, hname⟩,
      ⟨earlier, later, harguments, hlater⟩, hv⟩
  · rintro ⟨directive, values, ⟨before, after, hdirectives, hbefore, hname⟩,
      ⟨earlier, later, harguments, hlater⟩, hv⟩
    exact ⟨before, directive, after, hdirectives, hbefore, hname, earlier, values, later,
      harguments, hlater, hv⟩

lemma TypeDefinition.mem_requestedNames :
    text ∈ t.requestedNames ↔ ∃ v, t.AsksFor v ∧ v.text = text := by
  simp only [asksFor_iff, requestedNames]
  cases hdirective : t.directive? requestDirective with
  | none => simp
  | some directive =>
    cases hargument : directive.argument? requestArgument with
    | none => simp [hargument]
    | some value =>
      cases value <;> simp [hargument, Value.elements?]

lemma Document.mem_requestedNames : text ∈ d.requestedNames ↔ ∃ v, d.AsksFor v ∧ v.text = text := by
  simp only [requestedNames, List.mem_flatMap, TypeDefinition.mem_requestedNames, AsksFor]
  constructor
  · rintro ⟨t, ht, v, hv, htext⟩
    exact ⟨v, ⟨t, ht, hv⟩, htext⟩
  · rintro ⟨v, ⟨t, ht, hv⟩, htext⟩
    exact ⟨t, ht, v, hv, htext⟩

/-- Without enum values that look like strings, a quoted name is asked for only by a string. -/
lemma Document.quoted_mem_requestedNames (henums : ∀ v, d.AsksFor v → ¬v.IsQuotedEnum)
    {n : String} :
    Text.quoted n ∈ d.requestedNames ↔ d.AsksFor (.string n) := by
  rw [mem_requestedNames]
  constructor
  · rintro ⟨v, hv, htext⟩
    rwa [← (Value.text_eq_quoted_iff (henums v hv)).1 htext]
  · exact fun h => ⟨_, h, rfl⟩

lemma Schema.areAskedFor_requested (s : Schema) (henums : ∀ v, d.AsksFor v → ¬v.IsQuotedEnum) :
    s.AreAskedFor d
      ((s.types.filter fun t => d.requestedNames.contains (Text.quoted t.name)).map (·.name)) := by
  intro n
  rw [mem_names_requested, Document.quoted_mem_requestedNames henums]

/-- The types that a document asks for are those that are reached from the types of the pool whose
names it gives as strings, if it has no enum values that look like strings: the quoted form tells
strings apart, and the text of no other value is a quoted name. -/
theorem Schema.requestedTypes_characterization (s : Schema) (d : Document)
    (henums : ∀ v, d.AsksFor v → ¬v.IsQuotedEnum) :
    ((∃ names, s.AreAskedFor d names) ∧
      ∀ names, s.AreAskedFor d names → s.requestedTypes d.requestedNames = s.typesFrom names) ∧
    Function.Injective Text.quoted ∧
    ∀ v : Value, (∀ name, v ≠ .string name) → ¬v.IsQuotedEnum → ∀ n, v.text ≠ Text.quoted n := by
  have hasked := s.areAskedFor_requested henums
  refine ⟨⟨⟨_, hasked⟩, fun names hnames => ?_⟩, Text.quoted_injective, fun v hstring henum n => ?_⟩
  · -- the closure depends on what is in the start list, not on its order or repetitions
    have hsame : Interchangeable s.types s.types := ⟨.refl _, fun _ => rfl, fun _ => rfl⟩
    exact hsame.closure_eq fun n => (hasked n).trans (hnames n).symm
  · exact mt (Value.text_eq_quoted_iff henum).1 (hstring n)

/-- A list of values with a name that has to be escaped. -/
def Value.assortedNames : List Value :=
  [.string "a\"b", .enum "Other", .list [.string "Other"], .string "Missing"]

/-- A document that asks for types twice, the first time with an argument that is given twice. -/
def Document.askingTwice : Document where
  definitions := [.type {
    name := "Query"
    directives := [
      ⟨"extends", [("types", .list [.string "Other"]), ("types", .list Value.assortedNames)]⟩,
      ⟨"extends", [("types", .list [.string "Other"])]⟩]
    body := .object [] [] }]

/-- A schema with types of both names. -/
def Schema.withAssortedNames : Schema where
  query := { name := "Query", body := .object [] [] }
  mutation := none
  subscription := none
  types := ["Query", "Other", "a\"b"].map fun name => { name, body := .object [] [] }

lemma Document.asksFor_askingTwice {v : Value} :
    askingTwice.AsksFor v ↔ v ∈ Value.assortedNames := by
  simp only [AsksFor, askingTwice, TypeDefinition.asksFor_iff]
  constructor
  · rintro ⟨t, ht, directive, values, hdirective, hargument, hv⟩
    obtain rfl := List.mem_singleton.1 ht
    cases hdirective
    cases hargument
    exact hv
  · intro hv
    exact ⟨_, List.mem_singleton_self _, _, _, rfl, rfl, hv⟩

theorem Schema.requestedTypes_characterization_askingTwice :
    (∀ v, Document.askingTwice.AsksFor v → ¬v.IsQuotedEnum) ∧
      Schema.withAssortedNames.requestedTypes Document.askingTwice.requestedNames =
        Schema.withAssortedNames.typesFrom ["a\"b"] := by
  have henums : ∀ v, Document.askingTwice.AsksFor v → ¬v.IsQuotedEnum := by
    rintro v hv ⟨name, rfl, hhead⟩
    simp [Document.asksFor_askingTwice, Value.assortedNames] at hv
    subst name
    contradiction
  refine ⟨henums, (Schema.requestedTypes_characterization _ _ henums).1.2 _ ?_⟩
  intro n
  simp only [Document.asksFor_askingTwice, Value.assortedNames, Schema.withAssortedNames,
    List.map_cons, List.map_nil, List.mem_cons, List.not_mem_nil, or_false, Value.string.injEq,
    reduceCtorEq, false_or]
  constructor
  · rintro rfl
    simp
  · rintro ⟨rfl | rfl | rfl, h⟩ <;> simp_all

end CanonicalSdl
