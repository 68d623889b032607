import CanonicalSdl.Document.Reading
import CanonicalSdl.Proofs.Document.Lexing
import CanonicalSdl.Proofs.Grammar.Nesting
import CanonicalSdl.Proofs.Token.Float

/-!
# Literals as arguments

A text is read as a literal where it stands as the argument of a directive. The text of a legible
value is read as that value, and the text of a floating-point number as that number, unless it is
read as something else or not at all.
-/

namespace CanonicalSdl

open Token (BeginsBreak Lexes LexesBeforeBreak nests punctuator tokenize?)

namespace Document

/-- The document that a text denotes where it stands as the argument of a directive. -/
def ofArgumentText? (text : String) : Option Document :=
  ofSchemaText? ("scalar S @d(a: " ++ text ++ ")")

/-- The document that has one directive with a given argument. -/
def withArgument (v : Value) : Document :=
  ⟨[.type ⟨none, "S", [⟨"d", [("a", v)]⟩], .scalar⟩]⟩

end Document

open Document (ofArgumentText? ofSchemaText? withArgument)

variable {text : String} {v : Value}

/-! ### Tokens around a literal -/

/-- The tokens before the argument. -/
def argumentPrefix : List Token :=
  [.name "scalar", .name "S", punctuator '@', .name "d", punctuator '(', .name "a", punctuator ':']

lemma lexes_argumentPrefix : Lexes "scalar S @d(a: ".toList argumentPrefix := by
  have hname : Lexes ("scalar".toList ++ [' '] ++ ("S".toList ++ [' ']))
      [.name "scalar", .name "S"] :=
    (Token.lexes_keyword (by decide)).append (Token.lexes_keyword (by decide))
  have hargument : Lexes ("a".toList ++ [':', ' ']) [.name "a", punctuator ':'] :=
    (Token.lexesBeforeBreak_name (by decide)).append_lexes (Token.beginsBreak_cons.2 rfl) (by simp)
      (Token.lexes_nil.cons_space.cons_punctuator (by decide))
  have hdirective : Lexes ('@' :: ("d".toList ++ '(' :: ("a".toList ++ [':', ' '])))
      (punctuator '@' :: ([.name "d"] ++ punctuator '(' :: [.name "a", punctuator ':'])) := by
    refine Lexes.cons_punctuator (by decide) ?_
    exact (Token.lexesBeforeBreak_name (by decide)).append_lexes (Token.beginsBreak_cons.2 rfl)
      (by simp) (hargument.cons_punctuator (by decide))
  exact hname.append hdirective

lemma tokenize?_argumentText (text : String) :
    tokenize? ("scalar S @d(a: " ++ text ++ ")").toList =
      (tokenize? (text.toList ++ [')'])).map (argumentPrefix ++ ·) := by
  simp only [String.toList_append, List.append_assoc]
  exact lexes_argumentPrefix _

lemma ofArgumentText?_eq (text : String) :
    ofArgumentText? text = do
      let tokens ← Token.ofText? ("scalar S @d(a: " ++ text ++ ")")
      let items ← Reader.complete Production.typeSystem tokens
      return ⟨items.map Definition.ofTypeSystemItem⟩ := by
  have hblank : ¬("scalar S @d(a: " ++ text ++ ")").toList.all Text.isBlank = true := by
    simp [String.toList_append, (by decide : Text.isBlank 's' = false)]
  rw [ofArgumentText?, ofSchemaText?, if_neg hblank]

/-- Where a text has no tokens, it is no argument. -/
lemma ofArgumentText?_eq_none (h : tokenize? (text.toList ++ [')']) = none) :
    ofArgumentText? text = none := by
  have htokens : Token.ofText? ("scalar S @d(a: " ++ text ++ ")") = none := by
    rw [Token.ofText?, tokenize?_argumentText, h]
    rfl
  rw [ofArgumentText?_eq, htokens]
  rfl

/-! ### Values that are read back -/

open Production Reader in
/-- The tokens of a value are read back as an argument if they are read back on their own. -/
lemma complete_typeSystem_argument
    (hread : ∀ rest, Production.value true (v.tokens ++ rest) = some (v, rest)) :
    complete typeSystem (argumentPrefix ++ (v.tokens ++ [Token.punctuator ')'])) =
      some [.type ⟨none, "S", [⟨"d", [("a", v)]⟩], .scalar⟩] := by
  have htokens : argumentPrefix ++ (v.tokens ++ [Token.punctuator ')']) =
      Token.ofDescription none ++ .name "scalar" :: .name "S" ::
        ([⟨"d", [("a", v)]⟩].flatMap Directive.tokens ++ []) := by
    simp [argumentPrefix, Token.ofDescription, Directive.tokens, Token.enclosed, Value.namedTokens]
  have hdirectives : directives ([⟨"d", [("a", v)]⟩].flatMap Directive.tokens ++ []) =
      some ([⟨"d", [("a", v)]⟩], []) := by
    apply directives_tokens_of_readable _ Token.avoids_nil
    simpa [HasReadableArguments] using hread
  have hscalar : "scalar" ∉ ["schema", "extend"] := by decide
  have hitem := typeSystemItem_described hscalar none
    (.name "S" :: ([⟨"d", [("a", v)]⟩].flatMap Directive.tokens ++ []))
  rw [if_neg (by decide)] at hitem
  rw [htokens]
  simp only [complete, typeSystem, many1, bind_apply, hitem, typeAfter, pure_apply, name_cons,
    hdirectives, Option.bind_some, ↓reduceIte, Option.map_some]
  rfl

/-- A text with the tokens of a value is read as the value, if the tokens nest and are read back. -/
lemma ofArgumentText?_eq_some (htokens : LexesBeforeBreak text.toList v.tokens)
    (hnests : Token.NestsIn 49 v.tokens)
    (hread : ∀ rest, Production.value true (v.tokens ++ rest) = some (v, rest)) :
    ofArgumentText? text = some (withArgument v) := by
  have hlex : tokenize? (text.toList ++ [')']) = some (v.tokens ++ [punctuator ')']) := by
    have hclosing : tokenize? [')'] = some [punctuator ')'] := by
      rw [Token.tokenize?_cons_punctuator (by decide), Token.tokenize?_nil]
      rfl
    rw [htokens _ (Token.beginsBreak_cons.2 rfl), hclosing]
    rfl
  have hnest : nests Token.maxNesting (argumentPrefix ++ (v.tokens ++ [punctuator ')'])) = true :=
    (hnests _).trans rfl
  have hall : Token.ofText? ("scalar S @d(a: " ++ text ++ ")") =
      some (argumentPrefix ++ (v.tokens ++ [punctuator ')'])) := by
    rw [Token.ofText?, tokenize?_argumentText, hlex, Option.map_some, Option.filter_some,
      if_pos hnest]
  rw [ofArgumentText?_eq, hall, Option.bind_eq_bind, Option.bind_some,
    complete_typeSystem_argument hread]
  rfl

lemma ofArgumentText?_of_legible (htokens : LexesBeforeBreak text.toList v.tokens)
    (h : v.Legible true 49) : ofArgumentText? text = some (withArgument v) :=
  ofArgumentText?_eq_some htokens h.nestsIn (Production.value_tokens h (by decide))

/-- The text of a legible value is read as the value. -/
theorem Document.ofArgumentText?_text (h : v.Legible true 49) :
    ofArgumentText? v.text = some (withArgument v) :=
  ofArgumentText?_of_legible h.lexesBeforeBreak h

/-- A value of every shape but that of a floating-point number. -/
def Value.assortment : Value :=
  .list [.null, .boolean false, .int (-9223372036854775808), .enum "NULL", .variableName "on",
    .string "\"\\\r\n\t\x00\x7f\u0085\ufeffé😀", .object [("A", .list []), ("_b", .string "")]]

lemma Value.legible_assortment {room : Nat} : Value.assortment.Legible true (room + 3) := by
  apply Value.Legible.list
  simp only [List.forall_mem_cons, List.not_mem_nil, false_implies, implies_true, and_true]
  refine ⟨.null, .boolean, .int, .enum (by decide) (by decide), .variableName rfl (by decide),
    .string, .object (by decide) (by decide) ?_⟩
  simp only [List.forall_mem_cons, List.not_mem_nil, false_implies, implies_true, and_true]
  exact ⟨.list (by simp), .string⟩

/-- Escapes, the least integer and names that look like keywords are read back. -/
theorem Document.ofArgumentText?_text_assortment :
    Value.assortment.Legible true 49 ∧
      ofArgumentText? Value.assortment.text = some (withArgument .assortment) :=
  ⟨Value.legible_assortment, ofArgumentText?_text Value.legible_assortment⟩

/-! ### Floating-point numbers -/

/-- The value that the text of a floating-point number is read as, if it is read at all. -/
def Binary64.reading? (x : Binary64) : Option Value :=
  if x.isNaN then some (.enum "NaN")
  else if x.isInfinite then if x.isNegative then none else some (.enum "inf")
  else if 90 ≤ leadingExponent x.magnitude ∧ leadingExponent x.magnitude < 100 then none
  else some (.float x)

variable {x : Binary64}

lemma toList_text_float (x : Binary64) :
    (Value.float x).text.toList = Value.LiteralStyle.standard.numbers.text x := by
  rw [Value.text, Value.textIn, String.toList_ofList]

/-- A text that is a name, and no keyword, is read as an enum value. -/
lemma ofArgumentText?_name {name : String} (hname : Token.isName name = true)
    (hword : name ∉ ["true", "false", "null"]) (htext : text.toList = name.toList) :
    ofArgumentText? text = some (withArgument (.enum name)) := by
  have htokens : LexesBeforeBreak text.toList (Value.enum name).tokens := by
    rw [htext]
    exact Token.lexesBeforeBreak_name hname
  exact ofArgumentText?_of_legible htokens (.enum hname hword)

lemma ofArgumentText?_nan (h : x.isNaN = true) :
    ofArgumentText? (Value.float x).text = some (withArgument (.enum "NaN")) := by
  apply ofArgumentText?_name (by decide) (by decide)
  rw [toList_text_float, NumberLayout.text_of_isNaN h]
  rfl

/-- The text of the positive infinity is a name, and that of the negative one has no tokens. -/
lemma ofArgumentText?_infinity (h : x.magnitude = Binary64.infiniteMagnitude) :
    ofArgumentText? (Value.float x).text =
      (if x.isNegative then none else some (.enum "inf")).map withArgument := by
  have htext := toList_text_float x
  rw [NumberLayout.text_of_magnitude_eq h] at htext
  cases hsign : x.isNegative with
  | true =>
    -- a minus sign begins a number, which needs a digit
    rw [hsign] at htext
    apply ofArgumentText?_eq_none
    rw [htext]
    decide +kernel
  | false =>
    rw [hsign] at htext
    exact ofArgumentText?_name (by decide) (by decide) htext

/-- Whatever the layout, a finite number is read from its text unless its exponent cannot be
read. -/
lemma ofArgumentText?_finite {layout : NumberLayout} (halways : layout.fractionAlways = true)
    (hfinite : x.magnitude < Binary64.infiniteMagnitude) (htext : text.toList = layout.text x) :
    ofArgumentText? text =
      if Token.losesExponent layout x.magnitude then none else some (withArgument (.float x)) := by
  have htokens {rest : List Char} (hr : BeginsBreak rest) :=
    Token.tokenize?_finite halways hfinite hr
  rw [← htext] at htokens
  cases hloses : Token.losesExponent layout x.magnitude with
  | true =>
    apply ofArgumentText?_eq_none
    rw [htokens (Token.beginsBreak_cons.2 rfl), if_pos hloses]
  | false =>
    apply ofArgumentText?_eq_some
    · intro rest hr
      rw [htokens hr, hloses]
      rfl
    · exact .cons rfl rfl .nil
    · exact fun rest => Production.valueOfDepth_of_avoids (by simp [Value.tokens]) Token.maxNesting

/-- The text of a floating-point number is read as that number, unless the number is infinite, no
number at all, or written with an exponent that begins with a nine. -/
theorem Document.ofArgumentText?_float (x : Binary64) :
    ofArgumentText? (Value.float x).text = x.reading?.map withArgument := by
  rw [Binary64.reading?]
  split
  next hnumber => exact ofArgumentText?_nan hnumber
  next hnumber =>
    have hle : x.magnitude ≤ Binary64.infiniteMagnitude := by simpa [Binary64.isNaN] using hnumber
    split
    next hinfinite =>
      exact ofArgumentText?_infinity (by simpa [Binary64.isInfinite] using hinfinite)
    next hinfinite =>
      have hne : x.magnitude ≠ Binary64.infiniteMagnitude := by
        simpa [Binary64.isInfinite] using hinfinite
      have hfinite := Nat.lt_of_le_of_ne hle hne
      simp only [ofArgumentText?_finite rfl hfinite (toList_text_float x),
        Token.losesExponent_standard_iff hfinite]
      split <;> rfl

/-- Two numbers that are read from a text but not from their own: that of `1e+90` is no literal, and
that of a number beyond the finite ones is a name. -/
theorem Document.ofArgumentText?_float_ne :
    (ofArgumentText? "1e+90" = some (withArgument (.float ⟨0x529F6B0F092959C7⟩)) ∧
      (Value.float ⟨0x529F6B0F092959C7⟩).text = "1e90" ∧ ofArgumentText? "1e90" = none) ∧
    ofArgumentText? "1e400" = some (withArgument (.float (.infinity false))) ∧
      (Value.float (.infinity false)).text = "inf" ∧
      ofArgumentText? "inf" = some (withArgument (.enum "inf")) := by
  decide +kernel

end CanonicalSdl
