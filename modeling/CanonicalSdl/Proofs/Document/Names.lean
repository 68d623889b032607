import CanonicalSdl.Document.Text
import CanonicalSdl.Proofs.Decimal.Layout
import CanonicalSdl.Proofs.Token.Lexing

/-!
# Names, and texts of one line

The names in a definition are the texts in it that are written out as they stand. All other texts
are descriptions or string values; a string value is quoted, and its line breaks are escaped. So if
the names are names of the language, every part of a definition that is written without descriptions
takes one line, whatever its string values.
-/

namespace CanonicalSdl

namespace Token

/-- All texts of a list are names. -/
def AreNames (names : List String) : Prop :=
  ∀ name ∈ names, isName name = true

instance (names : List String) : Decidable (AreNames names) :=
  inferInstanceAs (Decidable (∀ name ∈ names, isName name = true))

variable {name : String} {names others : List String}

@[simp] lemma areNames_cons : AreNames (name :: names) ↔ isName name = true ∧ AreNames names :=
  List.forall_mem_cons

@[simp] lemma areNames_append : AreNames (names ++ others) ↔ AreNames names ∧ AreNames others :=
  List.forall_mem_append

@[simp] lemma areNames_flatMap {α : Type} {namesOf : α → List String} {as : List α} :
    AreNames (as.flatMap namesOf) ↔ ∀ a ∈ as, AreNames (namesOf a) :=
  List.forall_mem_flatMap

/-- A name begins with one of the characters that a name may begin with. -/
lemma exists_of_isName (h : isName name = true) :
    ∃ c cs, name.toList = c :: cs ∧ isNameStart c = true := by
  rw [isName] at h
  split at h
  · contradiction
  next c cs hname => exact ⟨c, cs, hname, (Bool.and_eq_true_iff.1 h).1⟩

lemma isNamePart_of_mem {c : Char} (h : isName name = true) (hc : c ∈ name.toList) :
    isNamePart c = true := by
  rw [isName] at h
  split at h
  · contradiction
  next d ds hname =>
    obtain ⟨hd, hds⟩ : isNameStart d = true ∧ ∀ e ∈ ds, isNamePart e = true := by simpa using h
    rw [hname, List.mem_cons] at hc
    rcases hc with rfl | hc
    · exact isNamePart_of_isNameStart hd
    · exact hds c hc

end Token

open Token (AreNames areNames_append areNames_cons areNames_flatMap)

/-! ### The names in definitions -/

mutual

/-- The names in a value: of enum values, of variables and of the fields of objects. -/
def Value.names : Value → List String
  | .null | .int _ | .float _ | .string _ | .boolean _ => []
  | .enum name => [name]
  | .variableName name => [name]
  | .list values => Value.elementNames values
  | .object fields => Value.fieldNames fields

/-- The names in a list of values. -/
def Value.elementNames : List Value → List String
  | [] => []
  | value :: values => value.names ++ Value.elementNames values

/-- The names in a list of named values. -/
def Value.fieldNames : List (String × Value) → List String
  | [] => []
  | (name, value) :: fields => name :: (value.names ++ Value.fieldNames fields)

end

/-- The names in the application of a directive. -/
def Directive.names (d : Directive) : List String :=
  d.name :: Value.fieldNames d.arguments

/-- The names in the definition of an argument or of a field of an input object. -/
def InputValue.names (v : InputValue) : List String :=
  v.name :: v.type.targetName ::
    ((v.defaultValue.elim [] Value.names) ++ v.directives.flatMap Directive.names)

/-- The names in the definition of a field. -/
def Field.names (f : Field) : List String :=
  f.name :: f.type.targetName ::
    (f.arguments.flatMap InputValue.names ++ f.directives.flatMap Directive.names)

/-- The names in the definition of an enum value. -/
def EnumValue.names (v : EnumValue) : List String :=
  v.name :: v.directives.flatMap Directive.names

/-- The names in what the kinds of types differ in. -/
def TypeBody.names : TypeBody → List String
  | scalar => []
  | input fields => fields.flatMap InputValue.names
  | object interfaces fields => interfaces ++ fields.flatMap Field.names
  | interface interfaces fields => interfaces ++ fields.flatMap Field.names
  | enum values => values.flatMap EnumValue.names
  | union members => members

/-- The names in the definition of a type. -/
def TypeDefinition.names (t : TypeDefinition) : List String :=
  t.name :: (t.directives.flatMap Directive.names ++ t.body.names)

/-- The names in the definition of a directive, with its locations. -/
def DirectiveDefinition.names (d : DirectiveDefinition) : List String :=
  d.name :: (d.arguments.flatMap InputValue.names ++ d.locations)

/-! ### Texts without line breaks -/

namespace Text

/-- A text without line breaks. -/
def IsOneLine (cs : List Char) : Prop :=
  '\n' ∉ cs

variable {c : Char} {xs ys : List Char}

instance (cs : List Char) : Decidable (IsOneLine cs) :=
  inferInstanceAs (Decidable ('\n' ∉ cs))

@[simp] lemma isOneLine_nil : IsOneLine [] :=
  List.not_mem_nil

@[simp] lemma isOneLine_cons : IsOneLine (c :: xs) ↔ '\n' ≠ c ∧ IsOneLine xs := by
  rw [IsOneLine, List.mem_cons, not_or, IsOneLine]

@[simp] lemma isOneLine_append : IsOneLine (xs ++ ys) ↔ IsOneLine xs ∧ IsOneLine ys := by
  rw [IsOneLine, List.mem_append, not_or, IsOneLine, IsOneLine]

/-- A text is one line if its characters are of a class to which the line break does not belong. -/
lemma isOneLine_of_forall {p : Char → Bool} (h : ∀ c ∈ xs, p c = true) (hp : p '\n' = false) :
    IsOneLine xs := by
  intro hc
  exact absurd (h _ hc) (by simp [hp])

lemma isOneLine_join {texts : List String} (h : ∀ text ∈ texts, IsOneLine text.toList) :
    IsOneLine (String.join texts).toList := by
  rw [String.toList_join, IsOneLine, List.mem_flatMap]
  rintro ⟨text, htext, hc⟩
  exact h text htext hc

lemma isOneLine_intercalate (separator : String) {texts : List String}
    (hs : IsOneLine separator.toList) (h : ∀ text ∈ texts, IsOneLine text.toList) :
    IsOneLine (separator.intercalate texts).toList := by
  induction texts with
  | nil => exact isOneLine_nil
  | cons text texts ih =>
    rw [List.forall_mem_cons] at h
    cases texts with
    | nil => simpa using h.1
    | cons next texts => simpa [String.intercalate_cons_cons, h.1, hs] using ih h.2

lemma isOneLine_escape (c : Char) : IsOneLine (escape c) := by
  fun_cases escape c with
  | case6 hr hn ht hb hq hcontrol =>
    have hlt : c.toNat < 0xA0 := by
      simp only [isControl, Bool.or_eq_true, Bool.and_eq_true, decide_eq_true_eq] at hcontrol
      omega
    have table : ∀ n < 0xA0, IsOneLine (fourHexDigits n) := by decide +kernel
    simp [table c.toNat hlt]
  | case7 hr hn ht hb hq hcontrol => simp [Ne.symm hn]
  | _ => simp

/-- A quoted string is one line, whatever the string. -/
lemma isOneLine_quoted (s : String) : IsOneLine (quoted s).toList := by
  have hescaped : IsOneLine (s.toList.flatMap escape) := by
    rw [IsOneLine, List.mem_flatMap]
    rintro ⟨c, -, hc⟩
    exact isOneLine_escape c hc
  simp [quoted, hescaped]

end Text

open Text (IsOneLine isOneLine_append isOneLine_intercalate isOneLine_join isOneLine_nil
  isOneLine_of_forall isOneLine_quoted)

lemma isOneLine_name {name : String} (h : Token.isName name = true) : IsOneLine name.toList :=
  isOneLine_of_forall (fun _ hc => Token.isNamePart_of_mem h hc) (by decide)

namespace NumberLayout

lemma isOneLine_integer (i : Int) : IsOneLine (integer i) := by
  intro hc
  exact absurd (mem_integer hc) (by decide)

lemma isOneLine_text (layout : NumberLayout) (x : Binary64) : IsOneLine (layout.text x) := by
  intro hc
  exact absurd (mem_text hc) (by decide)

end NumberLayout

/-! ### Values and types -/

mutual

/-- The text of a value is one line. -/
lemma Value.isOneLine_textIn {v : Value} (h : AreNames v.names) :
    IsOneLine (v.textIn .standard).toList := by
  match v with
  | .null => decide
  | .int i => simpa [textIn] using NumberLayout.isOneLine_integer _
  | .float x => simpa [textIn] using NumberLayout.isOneLine_text _ x
  | .string s => exact isOneLine_quoted s
  | .boolean b => cases b <;> decide
  | .enum name => exact isOneLine_name (areNames_cons.1 h).1
  | .variableName name => simpa [textIn] using isOneLine_name (areNames_cons.1 h).1
  | .list values =>
    rw [names] at h
    have helements := isOneLine_intercalate ", " (by decide) (Value.isOneLine_elementTexts h)
    simpa [textIn] using helements
  | .object fields =>
    rw [names] at h
    have hfields := isOneLine_intercalate ", " (by decide) (Value.isOneLine_fieldTexts h)
    simpa [textIn] using hfields

/-- The texts of the elements of a list value are one line each. -/
lemma Value.isOneLine_elementTexts {values : List Value} (h : AreNames (elementNames values)) :
    ∀ text ∈ elementTexts .standard values, IsOneLine text.toList := by
  match values with
  | [] => simp [elementTexts]
  | value :: values =>
    rw [elementNames, areNames_append] at h
    rw [elementTexts, List.forall_mem_cons]
    exact ⟨Value.isOneLine_textIn h.1, Value.isOneLine_elementTexts h.2⟩

/-- The texts of named values are one line each. -/
lemma Value.isOneLine_fieldTexts {fields : List (String × Value)}
    (h : AreNames (fieldNames fields)) :
    ∀ text ∈ fieldTexts .standard fields, IsOneLine text.toList := by
  match fields with
  | [] => simp [fieldTexts]
  | (name, value) :: fields =>
    rw [fieldNames, areNames_cons, areNames_append] at h
    rw [fieldTexts, List.forall_mem_cons]
    refine ⟨?_, Value.isOneLine_fieldTexts h.2.2⟩
    simp [isOneLine_name h.1, Value.isOneLine_textIn h.2.1]

end

lemma TypeRef.isOneLine_text {t : TypeRef} (h : Token.isName t.targetName = true) :
    IsOneLine t.text.toList := by
  induction t with
  | named name => exact isOneLine_name h
  | list inner ih => simp [text, ih h]
  | nonNull inner ih => simp [text, ih h]

/-! ### Parts of definitions -/

lemma isOneLine_argumentsText {as : List (String × Value)} (h : AreNames (Value.fieldNames as)) :
    IsOneLine (argumentsText .standard as).toList := by
  have harguments := isOneLine_intercalate ", " (by decide) (Value.isOneLine_fieldTexts h)
  rw [argumentsText]
  split
  · exact isOneLine_nil
  · simpa using harguments

lemma Directive.isOneLine_text {d : Directive} (h : AreNames d.names) :
    IsOneLine (d.text .standard).toList := by
  rw [names, areNames_cons] at h
  simp [text, isOneLine_name h.1, isOneLine_argumentsText h.2]

lemma isOneLine_directivesText {ds : List Directive} (h : AreNames (ds.flatMap Directive.names)) :
    IsOneLine (directivesText .standard ds).toList := by
  rw [areNames_flatMap] at h
  apply isOneLine_join
  rw [List.forall_mem_map]
  intro d hd
  simp [Directive.isOneLine_text (h d hd)]

lemma isOneLine_defaultText {value : Option Value} (h : AreNames (value.elim [] Value.names)) :
    IsOneLine (defaultText .standard value).toList := by
  cases value with
  | none => exact isOneLine_nil
  | some v => simp [defaultText, Value.isOneLine_textIn (v := v) h]

lemma isOneLine_namesText {introduction separator : String} {names : List String}
    (hi : IsOneLine introduction.toList) (hs : IsOneLine separator.toList) (h : AreNames names) :
    IsOneLine (namesText introduction separator names).toList := by
  have hnames := isOneLine_intercalate separator hs fun name hname => isOneLine_name (h name hname)
  rw [namesText]
  split
  · exact isOneLine_nil
  · simpa [hi] using hnames

/-- The definition of an argument without its description is one line. -/
lemma InputValue.isOneLine_text {v : InputValue} (h : AreNames v.names) :
    IsOneLine (v.text .standard).toList := by
  rw [names, areNames_cons, areNames_cons, areNames_append] at h
  obtain ⟨hname, htype, hdefault, hdirectives⟩ := h
  simp [text, isOneLine_name hname, TypeRef.isOneLine_text htype, isOneLine_defaultText hdefault,
    isOneLine_directivesText hdirectives]

end CanonicalSdl
