import CanonicalSdl.Document.Text
import CanonicalSdl.Proofs.Grammar.Legible
import CanonicalSdl.Proofs.Token.Literal
import CanonicalSdl.Proofs.Grammar.Tokens

/-!
# The tokens of texts of one line

The texts of legible values, type references, directives and arguments lex to their tokens, before
a break.
-/

namespace CanonicalSdl

open Token (BeginsBreak Lexes LexesBeforeBreak beginsBreak_cons beginsBreak_flatMap
  beginsBreak_nil beginsBreak_space_cons lexes_nil lexesBeforeBreak_flatMap
  lexesBeforeBreak_intercalate
  lexesBeforeBreak_intercalate_cons lexesBeforeBreak_name listed punctuator)

variable {room : Nat} {variablesAllowed : Bool}

/-! ### Items in brackets -/

/-- Items with commas between them lex to the tokens of the items. -/
lemma lexesBeforeBreak_commas {α : Type} {text : α → String} {tokensOf : α → List Token}
    {as : List α} (h : ∀ a ∈ as, LexesBeforeBreak (text a).toList (tokensOf a)) :
    LexesBeforeBreak (", ".intercalate (as.map text)).toList (as.flatMap tokensOf) := by
  rw [String.toList_intercalate, List.map_map]
  refine lexesBeforeBreak_intercalate ?_ ?_ ?_ h
  · exact lexes_nil.cons_space.cons_ignored rfl
  · exact beginsBreak_cons.2 rfl
  · exact List.cons_ne_nil _ _

/-- A text in brackets lexes on its own, as the brackets end it. -/
lemma lexes_bracketed {text : String} {ts : List Token} {opening closing : Char}
    (ho : opening ∈ Token.punctuators) (hc : closing ∈ Token.punctuators)
    (h : LexesBeforeBreak text.toList ts) :
    Lexes (opening :: (text.toList ++ [closing]))
      (punctuator opening :: (ts ++ [punctuator closing])) := by
  apply Lexes.cons_punctuator ho
  apply h.append_lexes
  · exact Token.beginsBreak_punctuator_cons hc []
  · exact List.cons_ne_nil _ _
  · exact Token.lexes_punctuator hc

/-! ### Values and types -/

lemma lexesBeforeBreak_named {field : String × Value} (hname : Token.isName field.1 = true)
    (h : LexesBeforeBreak (field.2.textIn .standard).toList field.2.tokens) :
    LexesBeforeBreak (field.1 ++ ": " ++ field.2.textIn .standard).toList
      (Value.namedTokens field) := by
  simp only [String.toList_append, List.append_assoc]
  refine (lexesBeforeBreak_name hname).append (beginsBreak_cons.2 rfl) ?_
  exact h.cons_space.cons_punctuator (by decide)

/-- The text of a legible value has the tokens of the value. -/
lemma Value.Legible.lexesBeforeBreak {v : Value} (h : v.Legible variablesAllowed room) :
    LexesBeforeBreak (v.textIn .standard).toList v.tokens := by
  induction h with
  | null => exact lexesBeforeBreak_name (by decide)
  | int =>
    rw [Value.textIn, String.toList_ofList]
    exact Token.lexesBeforeBreak_integer _
  | string => exact Token.lexesBeforeBreak_quoted _
  | @boolean room b =>
    cases b
    · exact lexesBeforeBreak_name (by decide)
    · exact lexesBeforeBreak_name (by decide)
  | enum name word => exact lexesBeforeBreak_name name
  | variableName allowed name =>
    rw [Value.textIn, String.toList_append]
    exact (lexesBeforeBreak_name name).cons_punctuator (by decide)
  | list elements ih =>
    rw [Value.textIn, Value.elementTexts_eq_map, Value.tokens, Value.elementTokens_eq_flatMap]
    simp only [String.toList_append]
    exact (lexes_bracketed (by decide) (by decide) (lexesBeforeBreak_commas ih)).beforeBreak
  | object names ascending values ih =>
    rw [Value.textIn, Value.fieldTexts_eq_map, Value.tokens, Value.fieldTokens_eq_flatMap]
    simp only [String.toList_append]
    refine (lexes_bracketed (by decide) (by decide) (lexesBeforeBreak_commas ?_)).beforeBreak
    exact fun f hf => lexesBeforeBreak_named (names f hf) (ih f hf)

lemma TypeRef.Legible.lexesBeforeBreak {t : TypeRef} (h : t.Legible room) :
    LexesBeforeBreak t.text.toList t.tokens := by
  induction h with
  | named name => exact lexesBeforeBreak_name name
  | list inner ih =>
    simp only [TypeRef.text, TypeRef.tokens, String.toList_append]
    exact (lexes_bracketed (by decide) (by decide) ih).beforeBreak
  | nonNull inner once ih =>
    simp only [TypeRef.text, TypeRef.tokens, String.toList_append]
    have hmark : Lexes ['!'] [punctuator '!'] := Token.lexes_punctuator (by decide)
    exact ih.append (beginsBreak_cons.2 rfl) hmark.beforeBreak

/-! ### Directives -/

lemma beginsBreak_argumentsText (arguments : List (String × Value)) :
    BeginsBreak (argumentsText .standard arguments).toList := by
  rw [argumentsText]
  split
  · exact beginsBreak_nil
  · simp only [String.toList_append]
    exact beginsBreak_cons.2 rfl

lemma Directive.Legible.lexesBeforeBreak {d : Directive} (h : d.Legible room) :
    LexesBeforeBreak (d.text .standard).toList d.tokens := by
  have harguments : LexesBeforeBreak (argumentsText .standard d.arguments).toList
      (Token.enclosed '(' ')' Value.namedTokens d.arguments) := by
    obtain ⟨inner, -, hall⟩ := h.arguments.exists_room (Nat.le_refl room)
    rw [argumentsText, Token.enclosed, Value.fieldTexts_eq_map]
    split
    · exact lexes_nil.beforeBreak
    · simp only [String.toList_append]
      refine (lexes_bracketed (by decide) (by decide) (lexesBeforeBreak_commas ?_)).beforeBreak
      exact fun a ha => lexesBeforeBreak_named (hall a ha).1 (hall a ha).2.lexesBeforeBreak
  simp only [Directive.text, String.toList_append, List.append_assoc]
  refine LexesBeforeBreak.cons_punctuator (by decide) ?_
  exact (lexesBeforeBreak_name h.name).append (beginsBreak_argumentsText _) harguments

lemma beginsBreak_directivesText (ds : List Directive) :
    BeginsBreak (directivesText .standard ds).toList := by
  rw [directivesText, String.toList_join, List.flatMap_map]
  apply beginsBreak_flatMap
  intro d _
  rw [String.toList_append]
  exact beginsBreak_space_cons _

lemma lexesBeforeBreak_directivesText {ds : List Directive} (h : ∀ d ∈ ds, d.Legible room) :
    LexesBeforeBreak (directivesText .standard ds).toList (ds.flatMap Directive.tokens) := by
  rw [directivesText, String.toList_join, List.flatMap_map]
  apply lexesBeforeBreak_flatMap
  · intro d _
    rw [String.toList_append]
    exact beginsBreak_space_cons _
  · intro d hd
    rw [String.toList_append]
    exact (h d hd).lexesBeforeBreak.cons_space

/-! ### Arguments -/

lemma beginsBreak_defaultText (value : Option Value) :
    BeginsBreak (defaultText .standard value).toList := by
  cases value with
  | none => exact beginsBreak_nil
  | some v =>
    rw [defaultText, String.toList_append]
    exact beginsBreak_space_cons _

/-- The text of an argument has the tokens of the argument but for its description. -/
lemma InputValue.Legible.lexesBeforeBreak {v : InputValue} (h : v.Legible room) :
    LexesBeforeBreak (v.text .standard).toList { v with description := none }.tokens := by
  have hdefault : LexesBeforeBreak (defaultText .standard v.defaultValue).toList
      (Value.defaultTokens v.defaultValue) := by
    cases hv : v.defaultValue with
    | none => exact lexes_nil.beforeBreak
    | some value =>
      rw [defaultText, String.toList_append]
      have hequals : Lexes " = ".toList [punctuator '='] := Token.lexes_spacedPunctuator (by decide)
      exact hequals.append_beforeBreak (h.defaultValue value hv).lexesBeforeBreak
  have hdirectives := lexesBeforeBreak_directivesText h.directives
  simp only [InputValue.text, InputValue.tokens, String.toList_append, List.append_assoc]
  refine (lexesBeforeBreak_name h.name).append (beginsBreak_cons.2 rfl) ?_
  refine LexesBeforeBreak.cons_punctuator (by decide) (.cons_space ?_)
  refine h.type.lexesBeforeBreak.append ?_ (hdefault.append ?_ hdirectives)
  · exact (beginsBreak_defaultText _).append (beginsBreak_directivesText _)
  · exact beginsBreak_directivesText _

/-! ### Lists of names -/

lemma lexesBeforeBreak_namesText {introduction separator : String} {t u : Token}
    {names : List String} (hi : Lexes introduction.toList [t]) (hs : Lexes separator.toList [u])
    (hb : BeginsBreak separator.toList) (hne : separator.toList ≠ [])
    (h : ∀ s ∈ names, Token.isName s = true) :
    LexesBeforeBreak (namesText introduction separator names).toList (listed t u names) := by
  cases names with
  | nil => exact lexes_nil.beforeBreak
  | cons first others =>
    have hnames := lexesBeforeBreak_intercalate_cons hs hb hne
      (fun s hs => lexesBeforeBreak_name (h s hs))
    rw [namesText, if_neg (by simp), String.toList_append, String.toList_intercalate]
    exact hi.append_beforeBreak hnames

end CanonicalSdl
