import CanonicalSdl.Grammar.Value
import CanonicalSdl.Proofs.Grammar.Legible
import CanonicalSdl.Proofs.Grammar.Reader
import CanonicalSdl.Proofs.Text.Utf8

/-!
# Reading values, types and directives back

The tokens of a legible value, type reference or directive are read as just that, whatever follows
them, as long as it does not go on with what has been read.
-/

namespace CanonicalSdl

open Token (punctuator)

/-! ### What follows a construct -/

/-- The first of the tokens, if there is one, is none of the given ones. -/
def Token.Avoids (ts rest : List Token) : Prop :=
  ∀ t ∈ rest.head?, t ∉ ts

namespace Token

variable {ts us xs ys rest : List Token} {t : Token} {c closing : Char}

@[simp] lemma avoids_nil : Avoids ts [] := by
  simp [Avoids]

@[simp] lemma avoids_cons : Avoids ts (t :: rest) ↔ t ∉ ts := by
  simp [Avoids]

lemma Avoids.append (hx : Avoids ts xs) (hy : Avoids ts ys) : Avoids ts (xs ++ ys) := by
  cases xs with
  | nil => exact hy
  | cons t xs => simpa using hx

lemma Avoids.mono (h : Avoids ts rest) (hsub : us ⊆ ts) : Avoids us rest :=
  fun t ht hmem => h t ht (hsub hmem)

lemma Avoids.head?_ne (h : Avoids ts rest) (ht : t ∈ ts) : rest.head? ≠ some t :=
  fun hhead => h t hhead ht

lemma avoids_enclosed {α : Type} {tokensOf : α → List Token} {as : List α}
    (h : punctuator c ∉ ts) : Avoids ts (enclosed c closing tokensOf as) := by
  rw [enclosed]
  split
  · exact avoids_nil
  · exact avoids_cons.2 h

lemma avoids_listed {separator : Token} {names : List String} (h : t ∉ ts) :
    Avoids ts (listed t separator names) := by
  cases names with
  | nil => exact avoids_nil
  | cons name names => exact avoids_cons.2 h

end Token

namespace Production

open Reader
open Token (Avoids avoids_nil avoids_cons)

variable {variablesAllowed : Bool} {room depth : Nat} {rest : List Token}

/-! ### Values -/

lemma exists_tokens_eq_cons {v : Value} (h : v.Legible variablesAllowed room) :
    ∃ t ts, v.tokens = t :: ts ∧ beginsValue variablesAllowed t = true := by
  cases h with
  | variableName allowed name =>
    rw [allowed]
    exact ⟨_, _, rfl, rfl⟩
  | _ => exact ⟨_, _, rfl, rfl⟩

lemma valueOfDepth_of_avoids {symbols : List Token}
    (h : Avoids [.punctuator '[', .punctuator '\x7b'] symbols) (depth : Nat) :
    valueOfDepth variablesAllowed depth symbols = scalarValue variablesAllowed symbols := by
  cases depth with
  | zero => rfl
  | succ depth =>
    have hlist := accept_of_head?_ne (h.head?_ne (t := .punctuator '[') (by simp))
    have hobject := accept_of_head?_ne (h.head?_ne (t := .punctuator '\x7b') (by simp))
    simp only [valueOfDepth, bind_apply, hlist, hobject, Option.bind_some, Bool.false_eq_true,
      ↓reduceIte]

lemma insertField_of_lt {name : String} {value : Value} {fields : List (String × Value)}
    (h : ∀ f ∈ fields, f.1 < name) : insertField name value fields = fields ++ [(name, value)] := by
  induction fields with
  | nil => rfl
  | cons f fields ih =>
    have hf : f.1 < name := h f (by simp)
    rw [insertField, if_neg (String.lt_asymm hf), if_neg (String.ne_of_lt hf).symm,
      ih fun g hg => h g (by simp [hg]), List.cons_append]

/-- Fields that are in order already make up the object as they are. -/
lemma objectOf_eq {fields : List (String × Value)}
    (h : fields.Pairwise fun f g => compare (Text.utf8 f.1) (Text.utf8 g.1) = .lt) :
    objectOf fields = .object fields := by
  -- by induction on the fields that are left, each of which comes after those in the object
  have hfold (done todo : List (String × Value))
      (h : (done ++ todo).Pairwise fun f g => compare (Text.utf8 f.1) (Text.utf8 g.1) = .lt) :
      todo.foldl (fun object field => insertField field.1 field.2 object) done = done ++ todo := by
    induction todo generalizing done with
    | nil => simp
    | cons f todo ih =>
      have hlt : ∀ g ∈ done, g.1 < f.1 := by
        intro g hg
        rw [← Text.compare_utf8_eq_lt_iff]
        exact (List.pairwise_append.1 h).2.2 g hg f (by simp)
      rw [List.foldl_cons, insertField_of_lt hlt, ih _ (by simpa using h)]
      simp
  rw [objectOf, hfold [] fields h, List.nil_append]

/-- A named value is read back if its value is. -/
lemma readsBack_named {construct : Production Value} {field : String × Value}
    (h : ∀ rest, construct (field.2.tokens ++ rest) = some (field.2, rest)) :
    ReadsBack isName (do
      let name ← name
      punctuator ':'
      let value ← construct
      return (name, value)) Value.namedTokens (fun _ => True) field := by
  constructor
  case head => exact ⟨_, _, rfl, rfl⟩
  case after => exact fun _ => trivial
  case reads =>
    intro rest _
    simp only [Value.namedTokens, List.cons_append, bind_apply, pure_apply, name_cons,
      punctuator_cons, Option.bind_some, h]

/-- A legible value is read back. -/
theorem valueOfDepth_tokens {v : Value} (h : v.Legible variablesAllowed room)
    (hroom : room ≤ depth) (rest : List Token) :
    valueOfDepth variablesAllowed depth (v.tokens ++ rest) = some (v, rest) := by
  induction h generalizing depth rest with
  | null => exact valueOfDepth_of_avoids (by simp [Value.tokens]) depth
  | int => exact valueOfDepth_of_avoids (by simp [Value.tokens]) depth
  | string => exact valueOfDepth_of_avoids (by simp [Value.tokens]) depth
  | @boolean room b =>
    rw [valueOfDepth_of_avoids (by simp [Value.tokens]) depth]
    cases b <;> rfl
  | @enum room n name word =>
    rw [valueOfDepth_of_avoids (by simp [Value.tokens]) depth]
    simp only [List.mem_cons, List.not_mem_nil, or_false, not_or] at word
    simp [Value.tokens, scalarValue, namedValue, word]
  | variableName allowed name =>
    rw [valueOfDepth_of_avoids (by simp [Value.tokens]) depth]
    simp [Value.tokens, scalarValue, allowed]
  | @list room vs elements ih =>
    -- the reader goes one level down for the elements, which have one level less of room
    obtain ⟨depth, rfl⟩ : ∃ d, depth = d + 1 := ⟨depth - 1, by omega⟩
    have hvs : ∀ v ∈ vs, ReadsBack (beginsValue variablesAllowed)
        (valueOfDepth variablesAllowed depth) Value.tokens (fun _ => True) v := by
      intro v hv
      constructor
      case head => exact exists_tokens_eq_cons (elements v hv)
      case after => exact fun _ => trivial
      case reads => exact fun rest _ => ih v hv (by omega) rest
    have hmany : many (beginsValue variablesAllowed) (valueOfDepth variablesAllowed depth)
        (vs.flatMap Value.tokens ++ .punctuator ']' :: rest) =
          some (vs, .punctuator ']' :: rest) := by
      have hclosing : beginsValue variablesAllowed (.punctuator ']') = false := by
        cases variablesAllowed <;> rfl
      exact many_flatMap hvs trivial (by simpa using hclosing)
    rw [Value.tokens, Value.elementTokens_eq_flatMap]
    simp only [valueOfDepth, List.cons_append, List.append_assoc, List.nil_append, bind_apply,
      pure_apply, accept_cons, Option.bind_some, ↓reduceIte, hmany, punctuator_cons]
  | @object room fs names ascending values ih =>
    obtain ⟨depth, rfl⟩ : ∃ d, depth = d + 1 := ⟨depth - 1, by omega⟩
    have hfs : ∀ f ∈ fs, ReadsBack isName (do
        let name ← name
        punctuator ':'
        let value ← valueOfDepth variablesAllowed depth
        return (name, value)) Value.namedTokens (fun _ => True) f := fun f hf =>
      readsBack_named fun rest => ih f hf (by omega) rest
    have hclose : ∀ t ∈ (.punctuator '\x7d' :: rest).head?, isName t = false := by simp [isName]
    have hmany := many_flatMap hfs trivial hclose
    have hlist (rest : List Token) : accept (.punctuator '[') (.punctuator '\x7b' :: rest) =
        some (false, .punctuator '\x7b' :: rest) := accept_of_head?_ne (by simp)
    rw [Value.tokens, Value.fieldTokens_eq_flatMap]
    simp only [valueOfDepth, List.cons_append, List.append_assoc, List.nil_append, bind_apply,
      pure_apply, accept_cons, hlist, Option.bind_some, Bool.false_eq_true, ↓reduceIte,
      hmany, punctuator_cons, objectOf_eq ascending]

lemma value_tokens {v : Value} (h : v.Legible variablesAllowed room)
    (hroom : room ≤ Token.maxNesting) (rest : List Token) :
    value variablesAllowed (v.tokens ++ rest) = some (v, rest) :=
  valueOfDepth_tokens h hroom rest

/-! ### Types -/

lemma nullability_of_avoids {t : TypeRef} (h : Avoids [.punctuator '!'] rest) :
    nullability t rest = some (t, rest) := by
  have hmark := accept_of_head?_ne (h.head?_ne (List.mem_singleton_self _))
  simp only [nullability, bind_apply, pure_apply, hmark, Option.bind_some, Bool.false_eq_true,
    ↓reduceIte]

lemma typeOfDepth_name (n : String) (depth : Nat) (rest : List Token) :
    typeOfDepth depth (.name n :: rest) = nullability (.named n) rest := by
  cases depth with
  | zero => rfl
  | succ depth =>
    have hlist : accept (.punctuator '[') (.name n :: rest) = some (false, .name n :: rest) :=
      accept_of_head?_ne (by simp)
    simp only [typeOfDepth, bind_apply, hlist, Option.bind_some, Bool.false_eq_true, ↓reduceIte,
      name_cons]

/-- A legible type reference is read back. One that is not marked as non-null is read before a mark
as well, which then applies to it. -/
lemma typeOfDepth_tokens_and_nullability {t : TypeRef} (h : t.Legible room)
    (hroom : room ≤ depth) :
    ((∀ u, t ≠ .nonNull u) → ∀ rest,
      typeOfDepth depth (t.tokens ++ rest) = nullability t rest) ∧
    ∀ rest, Avoids [.punctuator '!'] rest →
      typeOfDepth depth (t.tokens ++ rest) = some (t, rest) := by
  induction h generalizing depth with
  | @named room n name =>
    have hread := typeOfDepth_name n depth
    constructor
    · exact fun _ => hread
    · intro rest hrest
      exact (hread rest).trans (nullability_of_avoids hrest)
  | @list room t inner ih =>
    obtain ⟨depth, rfl⟩ : ∃ d, depth = d + 1 := ⟨depth - 1, by omega⟩
    have hread (rest : List Token) : typeOfDepth (depth + 1) ((TypeRef.list t).tokens ++ rest) =
        nullability (.list t) rest := by
      have hinner := (ih (Nat.le_of_succ_le_succ hroom)).2 (.punctuator ']' :: rest) (by simp)
      simp only [TypeRef.tokens, typeOfDepth, List.cons_append, List.append_assoc, List.nil_append,
        bind_apply, accept_cons, Option.bind_some, ↓reduceIte, hinner, punctuator_cons]
    constructor
    · exact fun _ => hread
    · intro rest hrest
      exact (hread rest).trans (nullability_of_avoids hrest)
  | @nonNull room t inner once ih =>
    -- the type inside is not marked itself, so that the mark that follows it is this one
    constructor
    · intro hbare
      exact absurd rfl (hbare t)
    · intro rest _
      rw [TypeRef.tokens, List.append_assoc, (ih hroom).1 once]
      simp only [List.cons_append, List.nil_append, nullability, bind_apply, pure_apply,
        accept_cons, Option.bind_some, ↓reduceIte]

lemma type_tokens {t : TypeRef} (h : t.Legible room) (hroom : room ≤ Token.maxNesting)
    (hrest : Avoids [.punctuator '!'] rest) : type (t.tokens ++ rest) = some (t, rest) :=
  (typeOfDepth_tokens_and_nullability h hroom).2 rest hrest

/-! ### Directives -/

/-- The values of the arguments are read back whatever follows them. -/
def HasReadableArguments (d : Directive) : Prop :=
  ∀ a ∈ d.arguments, ∀ rest, value true (a.2.tokens ++ rest) = some (a.2, rest)

lemma hasReadableArguments {d : Directive} (h : d.Legible room) (hroom : room ≤ Token.maxNesting) :
    HasReadableArguments d := by
  obtain ⟨inner, hinner, hall⟩ := h.arguments.exists_room hroom
  exact fun a ha => value_tokens (hall a ha).2 hinner

lemma directive_tokens {d : Directive} (h : HasReadableArguments d)
    (hrest : Avoids [.punctuator '('] rest) : directive (d.tokens ++ rest) = some (d, rest) := by
  have hreads : ∀ a ∈ d.arguments, ReadsBack isName argument Value.namedTokens (fun _ => True) a :=
    fun a ha => readsBack_named (h a ha)
  have harguments : arguments? (Token.enclosed '(' ')' Value.namedTokens d.arguments ++ rest) =
      some (d.arguments, rest) :=
    enclosed?_enclosed hreads (fun _ => trivial) rfl (hrest.head?_ne (List.mem_singleton_self _))
  simp only [directive, Directive.tokens, List.cons_append, bind_apply, pure_apply,
    punctuator_cons, name_cons, Option.bind_some, harguments]

lemma avoids_directives {ts : List Token} {ds : List Directive} (h : .punctuator '@' ∉ ts) :
    Avoids ts (ds.flatMap Directive.tokens) := by
  cases ds with
  | nil => exact avoids_nil
  | cons d ds => exact avoids_cons.2 h

lemma directives_tokens_of_readable {ds : List Directive} (h : ∀ d ∈ ds, HasReadableArguments d)
    (hrest : Avoids [.punctuator '@', .punctuator '('] rest) :
    directives (ds.flatMap Directive.tokens ++ rest) = some (ds, rest) := by
  have hreads : ∀ d ∈ ds,
      ReadsBack (· = .punctuator '@') directive Directive.tokens (Avoids [.punctuator '(']) d := by
    intro d hd
    constructor
    case head => exact ⟨_, _, rfl, by simp⟩
    case after => exact fun rest => avoids_cons.2 (by simp)
    case reads => exact fun rest hrest => directive_tokens (h d hd) hrest
  apply many_flatMap hreads (hrest.mono (by simp))
  intro t ht
  simpa using fun heq => hrest t ht (by simp [heq])

lemma directives_tokens {ds : List Directive} (h : ∀ d ∈ ds, d.Legible room)
    (hroom : room ≤ Token.maxNesting) (hrest : Avoids [.punctuator '@', .punctuator '('] rest) :
    directives (ds.flatMap Directive.tokens ++ rest) = some (ds, rest) :=
  directives_tokens_of_readable (fun d hd => hasReadableArguments (h d hd) hroom) hrest

/-! ### Arguments and input fields -/

lemma string?_ofDescription (d : Option String) (n : String) (rest : List Token) :
    string? (Token.ofDescription d ++ .name n :: rest) = some (d, .name n :: rest) := by
  cases d <;> rfl

lemma avoids_defaultTokens {ts : List Token} {value : Option Value} (h : .punctuator '=' ∉ ts) :
    Avoids ts (Value.defaultTokens value) := by
  cases value with
  | none => exact avoids_nil
  | some value => exact avoids_cons.2 h

lemma defaultValue?_tokens {value : Option Value} (h : ∀ v ∈ value, v.Legible false room)
    (hroom : room ≤ Token.maxNesting) (hrest : Avoids [.punctuator '='] rest) :
    defaultValue? (Value.defaultTokens value ++ rest) = some (value, rest) := by
  cases value with
  | none =>
    have hmark := accept_of_head?_ne (hrest.head?_ne (List.mem_singleton_self _))
    simp only [Value.defaultTokens, List.nil_append, defaultValue?, bind_apply, pure_apply, hmark,
      Option.bind_some, Bool.false_eq_true, ↓reduceIte]
  | some v =>
    simp only [Value.defaultTokens, List.cons_append, defaultValue?, bind_apply, pure_apply,
      accept_cons, value_tokens (h v rfl) hroom rest, Option.bind_some, ↓reduceIte]

/-- The punctuators with which a part of a definition can go on. -/
def continuations : List Token :=
  ['!', '=', '@', '(', '\x7b', '&', '|'].map .punctuator

lemma inputValue_tokens {v : InputValue} (h : v.Legible room) (hroom : room ≤ Token.maxNesting)
    (hrest : Avoids continuations rest) : inputValue (v.tokens ++ rest) = some (v, rest) := by
  have hdirectives := directives_tokens h.directives hroom (hrest.mono (by decide))
  have hdefault : Avoids [.punctuator '='] (v.directives.flatMap Directive.tokens ++ rest) :=
    (avoids_directives (by decide)).append (hrest.mono (by decide))
  have htype : Avoids [.punctuator '!'] (Value.defaultTokens v.defaultValue ++
      (v.directives.flatMap Directive.tokens ++ rest)) :=
    (avoids_defaultTokens (by decide)).append
      ((avoids_directives (by decide)).append (hrest.mono (by decide)))
  simp only [inputValue, InputValue.tokens, List.cons_append, List.append_assoc, bind_apply,
    pure_apply, string?_ofDescription, Option.bind_some, name_cons, punctuator_cons,
    type_tokens h.type hroom htype, defaultValue?_tokens h.defaultValue hroom hdefault, hdirectives]

lemma exists_ofDescription_append_eq_cons (d : Option String) (n : String) (ts : List Token) :
    ∃ t us, Token.ofDescription d ++ .name n :: ts = t :: us ∧ isNameOrString t = true := by
  cases d with
  | none => exact ⟨_, _, rfl, rfl⟩
  | some s => exact ⟨_, _, rfl, rfl⟩

/-- No construct goes on with a name or a string. -/
lemma avoids_ofDescription_append (d : Option String) (n : String) (ts : List Token) :
    Avoids continuations (Token.ofDescription d ++ .name n :: ts) := by
  cases d <;> exact avoids_cons.2 (by simp [continuations])

end Production

end CanonicalSdl
