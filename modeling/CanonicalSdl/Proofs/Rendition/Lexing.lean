import CanonicalSdl.Proofs.Document.Descriptions
import CanonicalSdl.Proofs.Document.Lexing
import CanonicalSdl.Proofs.Rendition.Document
import CanonicalSdl.Proofs.Token.Description

/-!
# The tokens of rendered blocks

Every block of a rendition lexes on its own, to the tokens of the definition it shows, with its
descriptions as far as they are shown.
-/

namespace CanonicalSdl

open Token (BeginsBreak Lexes LexesBeforeBreak beginsBreak_cons beginsBreak_nil
  beginsBreak_space_cons enclosed
  lexes_flatMap lexes_nil lexes_of_isIgnored lexesBeforeBreak_name ofDescription punctuator)

/-- What is shown of a description: its tidy form, if descriptions are rendered. -/
def RenderSettings.shown (c : RenderSettings) (description : Option String) : Option String :=
  if c.descriptions then description.map Text.tidy else none

/-- Two descriptions differ in blanks only. -/
def SameButBlanks (description description' : Option String) : Prop :=
  description.map (fun s => Text.nonBlanks s.toList) =
    description'.map (fun s => Text.nonBlanks s.toList)

lemma RenderSettings.sameButBlanks_shown {c : RenderSettings} (h : c.descriptions = true)
    (description : Option String) : SameButBlanks (c.shown description) description := by
  rw [SameButBlanks, shown, if_pos h]
  cases description with
  | none => rfl
  | some s =>
    rw [Option.map_some, Option.map_some, Option.map_some, Text.nonBlanks_tidy]

namespace Rendering

variable {room : Nat} {c : RenderSettings} {indentation : String} {α : Type}

/-- The text has nothing but spaces. -/
def IsSpaces (s : String) : Prop :=
  ∃ n, s.toList = List.replicate n ' '

/-! ### Layout -/

lemma isSpaces_empty : IsSpaces "" :=
  ⟨0, rfl⟩

lemma isSpaces_spaces (c : RenderSettings) : IsSpaces c.spaces :=
  ⟨_, String.toList_ofList⟩

lemma IsSpaces.append {s t : String} (hs : IsSpaces s) (ht : IsSpaces t) : IsSpaces (s ++ t) := by
  obtain ⟨m, hm⟩ := hs
  obtain ⟨n, hn⟩ := ht
  exact ⟨m + n, by rw [String.toList_append, hm, hn, List.replicate_append_replicate]⟩

lemma IsSpaces.lexes {s : String} (hs : IsSpaces s) : Lexes s.toList [] := by
  obtain ⟨n, hn⟩ := hs
  rw [hn]
  apply lexes_of_isIgnored
  intro c hc
  rw [List.eq_of_mem_replicate hc]
  rfl

lemma lexes_lineBreak : Lexes ['\n'] [] :=
  lexes_nil.cons_ignored rfl

/-- A line break ends what lexes before a break only. -/
lemma lexes_line {xs : List Char} {ts : List Token} (h : LexesBeforeBreak xs ts) :
    Lexes (xs ++ ['\n']) ts := by
  have hline := h.append_lexes (beginsBreak_cons.2 rfl) (List.cons_ne_nil _ _) lexes_lineBreak
  rwa [List.append_nil] at hline

lemma lexes_described (hi : IsSpaces indentation) (d : Option String) :
    Lexes (described c indentation d).toList (ofDescription (c.shown d)) := by
  obtain ⟨n, hn⟩ := hi
  cases d with
  | none => simpa [described, RenderSettings.shown, ofDescription] using lexes_nil
  | some s =>
    rw [described, RenderSettings.shown]
    split
    · exact Token.lexes_descriptionBlock hn s
    · exact lexes_nil

/-! ### Parts of definitions -/

lemma lexes_inputLine (hi : IsSpaces indentation) {v : InputValue} (h : v.Legible room) :
    Lexes (inputLine c indentation v).toList (v.mapDescriptions c.shown).tokens := by
  simp only [inputLine, String.toList_append, List.append_assoc]
  exact (lexes_described hi _).append (hi.lexes.append (lexes_line h.lexesBeforeBreak))

lemma enclosed_map {β : Type} {opening closing : Char} {tokensOf : β → List Token} {g : α → β}
    (as : List α) :
    enclosed opening closing tokensOf (as.map g) =
      enclosed opening closing (fun a => tokensOf (g a)) as := by
  simp only [enclosed, List.isEmpty_map, List.flatMap_map]

lemma shown_eq_none_of_not_onLines {arguments : List InputValue}
    (h : onLines c arguments = false) {v : InputValue} (hv : v ∈ arguments) :
    c.shown v.description = none := by
  rw [onLines, Bool.and_eq_false_iff] at h
  rw [RenderSettings.shown]
  rcases h with h | h
  · simp [h]
  · have := List.any_eq_false.1 h v hv
    simp_all

lemma lexes_arguments (hi : IsSpaces indentation) {as : List InputValue}
    (h : InBrackets InputValue.Legible room as) :
    Lexes (arguments c indentation as).toList
      (enclosed '(' ')' InputValue.tokens (as.map (InputValue.mapDescriptions c.shown))) := by
  obtain ⟨inner, -, hall⟩ := h.exists_room (Nat.le_refl room)
  rw [arguments, enclosed_map, enclosed]
  split
  · exact lexes_nil
  split
  next hlines =>
    -- each argument is on a line of its own, after its description
    have hmany : Lexes (as.flatMap fun v => (inputLine c (indentation ++ c.spaces) v).toList)
        (as.flatMap fun v => (v.mapDescriptions c.shown).tokens) :=
      lexes_flatMap fun v hv => lexes_inputLine (hi.append (isSpaces_spaces c)) (hall v hv)
    have hclosing : Lexes [')'] [punctuator ')'] := Token.lexes_punctuator (by decide)
    simp only [String.toList_append, String.toList_join, List.flatMap_map, List.append_assoc]
    refine Lexes.cons_punctuator (by decide) (.cons_ignored rfl ?_)
    exact hmany.append (hi.lexes.append hclosing)
  next hlines =>
    -- all arguments are on one line, where no description is shown
    have hmany : LexesBeforeBreak (", ".intercalate (as.map (InputValue.text .standard))).toList
        (as.flatMap fun v => (v.mapDescriptions c.shown).tokens) := by
      apply lexesBeforeBreak_commas
      intro v hv
      have hnone := shown_eq_none_of_not_onLines (by simpa using hlines) hv
      rw [InputValue.mapDescriptions, hnone]
      exact (hall v hv).lexesBeforeBreak
    simp only [String.toList_append]
    exact lexes_bracketed (by decide) (by decide) hmany

lemma beginsBreak_arguments (c : RenderSettings) (indentation : String) (as : List InputValue) :
    BeginsBreak (arguments c indentation as).toList := by
  rw [arguments]
  split
  · exact beginsBreak_nil
  split
  · simp only [String.toList_append, List.append_assoc]
    exact beginsBreak_cons.2 rfl
  · simp only [String.toList_append, List.append_assoc]
    exact beginsBreak_cons.2 rfl

lemma lexes_field {f : Field} (h : f.Legible room) :
    Lexes (field c f).toList (f.mapDescriptions c.shown).tokens := by
  have hdirectives := lexesBeforeBreak_directivesText h.directives
  have htype := h.type.lexesBeforeBreak.append (beginsBreak_directivesText _) hdirectives
  have hcolon : Lexes ": ".toList [punctuator ':'] :=
    lexes_nil.cons_space.cons_punctuator (by decide)
  have hname := (lexesBeforeBreak_name h.name).append (beginsBreak_arguments c c.spaces f.arguments)
    (lexes_arguments (isSpaces_spaces c) h.arguments).beforeBreak
  simp only [field, String.toList_append, List.append_assoc]
  refine (lexes_described (isSpaces_spaces c) _).append ((isSpaces_spaces c).lexes.append ?_)
  rw [← List.append_assoc]
  refine hname.append_lexes ?_ ?_ (hcolon.append ?_)
  · exact beginsBreak_cons.2 rfl
  · exact List.cons_ne_nil _ _
  · rw [← List.append_assoc]
    exact lexes_line htype

lemma lexes_enumValue {v : EnumValue} (h : v.Legible room) :
    Lexes (enumValue c v).toList (v.mapDescriptions c.shown).tokens := by
  have hname := (lexesBeforeBreak_name h.name).append (beginsBreak_directivesText _)
    (lexesBeforeBreak_directivesText h.directives)
  simp only [enumValue, String.toList_append, List.append_assoc]
  refine (lexes_described (isSpaces_spaces c) _).append ((isSpaces_spaces c).lexes.append ?_)
  rw [← List.append_assoc]
  exact lexes_line hname

lemma beginsBreak_braced (items : List String) : BeginsBreak (braced items).toList := by
  rw [braced]
  split
  · exact beginsBreak_cons.2 rfl
  · simp only [String.toList_append, List.append_assoc]
    exact beginsBreak_space_cons _

lemma toList_braced_ne_nil (items : List String) : (braced items).toList ≠ [] := by
  rw [braced]
  split <;> simp

/-- Items that lex on their own lex in braces. -/
lemma lexes_braced {text : α → String} {tokensOf : α → List Token} {as : List α}
    (h : ∀ a ∈ as, Lexes (text a).toList (tokensOf a)) :
    Lexes (braced (as.map text)).toList (enclosed '\x7b' '\x7d' tokensOf as) := by
  rw [braced, enclosed, List.isEmpty_map]
  split
  · exact lexes_lineBreak
  · have hclosing : Lexes "\x7d\n".toList [punctuator '\x7d'] :=
      lexes_lineBreak.cons_punctuator (by decide)
    simp only [String.toList_append, String.toList_join, List.flatMap_map, List.append_assoc]
    refine Lexes.cons_space (.cons_punctuator (by decide) ?_)
    exact Lexes.cons_ignored rfl ((lexes_flatMap h).append hclosing)

/-! ### Blocks -/

lemma isName_of_mem_directiveLocations {l : String} (h : l ∈ Production.directiveLocations) :
    Token.isName l = true := by
  have hall : Production.directiveLocations.all Token.isName = true := by decide
  exact List.all_eq_true.1 hall l h

lemma lexes_directiveBlock {d : DirectiveDefinition} (h : d.Legible room) :
    Lexes (directiveBlock c d).toList (d.mapDescriptions c.shown).tokens := by
  have hkeyword : Lexes "directive @".toList [.name "directive", punctuator '@'] := by
    have hword : "directive @".toList = ("directive".toList ++ [' ']) ++ ['@'] := by decide
    rw [hword]
    exact (Token.lexes_keyword (by decide)).append (Token.lexes_punctuator (by decide))
  have hrepeatable : LexesBeforeBreak (if d.repeatable then " repeatable" else "").toList
      (if d.repeatable then [.name "repeatable"] else []) := by
    have hword : " repeatable".toList = ' ' :: "repeatable".toList := by decide
    split
    · rw [hword]
      exact (lexesBeforeBreak_name (by decide)).cons_space
    · exact lexes_nil.beforeBreak
  have hbreak : BeginsBreak (if d.repeatable then " repeatable" else "").toList := by
    split
    · exact beginsBreak_space_cons _
    · exact beginsBreak_nil
  have hon : LexesBeforeBreak (namesText " on " " | " d.locations).toList
      (Token.listed (.name "on") (punctuator '|') d.locations) := by
    have hword : " on ".toList = ' ' :: ("on".toList ++ [' ']) := by decide
    apply lexesBeforeBreak_namesText
    · rw [hword]
      exact Token.lexes_spacedKeyword (by decide)
    · exact Token.lexes_spacedPunctuator (by decide)
    · exact beginsBreak_space_cons _
    · exact List.cons_ne_nil _ _
    · intro l hl
      exact isName_of_mem_directiveLocations (h.locations l hl)
  -- as there are locations, a space follows the name, its arguments and the word before them
  rw [namesText, if_neg (by simpa using h.located), String.toList_append] at hon
  have hspace (tail : List Char) : BeginsBreak (" on ".toList ++ tail) :=
    beginsBreak_space_cons _
  have harguments := (lexes_arguments (c := c) isSpaces_empty h.arguments).append_beforeBreak
    (hrepeatable.append (hspace _) hon)
  have hname := lexes_line ((lexesBeforeBreak_name h.name).append
    ((beginsBreak_arguments c "" _).append (hbreak.append (hspace _))) harguments)
  simp only [List.append_assoc] at hname
  simp only [directiveBlock, String.toList_append, List.append_assoc]
  exact (lexes_described isSpaces_empty _).append (hkeyword.append hname)

/-- The root of an operation on a line. -/
def rootLine (c : RenderSettings) (root : String × String) : String :=
  c.spaces ++ root.1 ++ ": " ++ root.2 ++ "\n"

lemma map_rootLine_roots (c : RenderSettings) (r : Rendition) :
    r.schema.roots.map (rootLine c) =
      (r.query.map (root c .query)).toList ++ (r.mutation.map (root c .mutation)).toList := by
  obtain ⟨query, mutation, -, -, -⟩ := r
  cases query <;> cases mutation <;> rfl

lemma lexes_rootLine {root : String × String} (ho : Token.isName root.1 = true)
    (hn : Token.isName root.2 = true) :
    Lexes (rootLine c root).toList (SchemaDefinition.rootTokens root) := by
  have hcolon (tail : List Char) : BeginsBreak (": ".toList ++ tail) :=
    beginsBreak_cons.2 rfl
  simp only [rootLine, String.toList_append, List.append_assoc]
  refine (isSpaces_spaces c).lexes.append ?_
  refine (lexesBeforeBreak_name ho).append_lexes (hcolon _) (List.cons_ne_nil _ _) ?_
  exact (lexes_line (lexesBeforeBreak_name hn)).cons_space.cons_punctuator (by decide)

/-- The schema definition lexes if it shows a root. -/
lemma lexes_schemaBlock {r : Rendition} (hr : (r.query.isSome || r.mutation.isSome) = true)
    (hquery : ∀ n ∈ r.query, Token.isName n = true)
    (hmutation : ∀ n ∈ r.mutation, Token.isName n = true)
    (h : ∀ d ∈ r.directives, d.Legible room) :
    Lexes (schemaBlock c r).toList r.schema.tokens := by
  have hroots : ∀ root ∈ r.schema.roots,
      Token.isName root.1 = true ∧ Token.isName root.2 = true := by
    intro root hroot
    simp only [SchemaDefinition.roots, Rendition.schema, List.mem_append, Option.mem_toList,
      Option.map_eq_some_iff] at hroot
    rcases hroot with ⟨n, hn, rfl⟩ | ⟨n, hn, rfl⟩
    · exact ⟨(by decide : Token.isName "query" = true), hquery n hn⟩
    · exact ⟨(by decide : Token.isName "mutation" = true), hmutation n hn⟩
  have hne : r.schema.roots ≠ [] := by
    rcases Bool.or_eq_true _ _ ▸ hr with hq | hm
    · obtain ⟨n, hn⟩ := Option.isSome_iff_exists.1 hq
      simp [SchemaDefinition.roots, Rendition.schema, hn]
    · obtain ⟨n, hn⟩ := Option.isSome_iff_exists.1 hm
      simp [SchemaDefinition.roots, Rendition.schema, hn]
  have hbraced : Lexes (braced (r.schema.roots.map (rootLine c))).toList
      (enclosed '\x7b' '\x7d' SchemaDefinition.rootTokens r.schema.roots) :=
    lexes_braced fun root hroot => lexes_rootLine (hroots root hroot).1 (hroots root hroot).2
  -- the tokens have braces even around no roots, but the text does not
  rw [enclosed, if_neg (by simpa using hne), map_rootLine_roots] at hbraced
  have hword : LexesBeforeBreak "schema".toList [.name "schema"] :=
    lexesBeforeBreak_name (by decide)
  simp only [schemaBlock, String.toList_append, List.append_assoc]
  refine hword.append_lexes ?_ ?_ ((lexesBeforeBreak_directivesText h).append_lexes
    (beginsBreak_braced _) (toList_braced_ne_nil _) hbraced)
  · exact (beginsBreak_directivesText _).append (beginsBreak_braced _)
  · exact List.append_ne_nil_of_right_ne_nil _ (toList_braced_ne_nil _)

/-- The beginning of a type, from its keyword to what follows its name. -/
lemma lexes_named {keyword name : String} {tail : List Char} (word : String) {ts : List Token}
    (hkeyword : keyword.toList = word.toList ++ [' ']) (hword : Token.isName word = true)
    (hname : Token.isName name = true) (hb : BeginsBreak tail) (hne : tail ≠ [])
    (h : Lexes tail ts) :
    Lexes (keyword.toList ++ (name.toList ++ tail)) (.name word :: .name name :: ts) := by
  rw [hkeyword]
  exact (Token.lexes_keyword hword).append ((lexesBeforeBreak_name hname).append_lexes hb hne h)

lemma beginsBreak_namesText (introduction : String) (hb : BeginsBreak introduction.toList)
    (hne : introduction.toList ≠ []) (separator : String) (names : List String) :
    BeginsBreak (namesText introduction separator names).toList := by
  rw [namesText]
  split
  · exact beginsBreak_nil
  · rw [String.toList_append]
    exact hb.append_left hne _

section

variable {ds : List Directive} {text : α → String} {tokensOf : α → List Token} {as : List α}

lemma beginsBreak_directives_braced (ds : List Directive) (items : List String) :
    BeginsBreak ((directives ds).toList ++ (braced items).toList) :=
  (beginsBreak_directivesText ds).append (beginsBreak_braced items)

lemma directives_braced_ne_nil (ds : List Directive) (items : List String) :
    (directives ds).toList ++ (braced items).toList ≠ [] :=
  List.append_ne_nil_of_right_ne_nil _ (toList_braced_ne_nil items)

lemma lexes_directives_braced (hds : ∀ d ∈ ds, d.Legible room)
    (h : ∀ a ∈ as, Lexes (text a).toList (tokensOf a)) :
    Lexes ((directives ds).toList ++ (braced (as.map text)).toList)
      (ds.flatMap Directive.tokens ++ enclosed '\x7b' '\x7d' tokensOf as) :=
  (lexesBeforeBreak_directivesText hds).append_lexes (beginsBreak_braced _)
    (toList_braced_ne_nil _) (lexes_braced h)

/-- The interfaces of a type, its directives and its fields. -/
lemma lexes_interfaces_directives_braced {interfaces : List String}
    (hi : ∀ i ∈ interfaces, Token.isName i = true) (hds : ∀ d ∈ ds, d.Legible room)
    (h : ∀ a ∈ as, Lexes (text a).toList (tokensOf a)) :
    Lexes ((namesText " implements " " & " interfaces).toList ++
        ((directives ds).toList ++ (braced (as.map text)).toList))
      (Token.listed (.name "implements") (punctuator '&') interfaces ++
        (ds.flatMap Directive.tokens ++ enclosed '\x7b' '\x7d' tokensOf as)) := by
  have hword : " implements ".toList = ' ' :: ("implements".toList ++ [' ']) := by decide
  have hinterfaces : LexesBeforeBreak (namesText " implements " " & " interfaces).toList
      (Token.listed (.name "implements") (punctuator '&') interfaces) := by
    apply lexesBeforeBreak_namesText
    · rw [hword]
      exact Token.lexes_spacedKeyword (by decide)
    · exact Token.lexes_spacedPunctuator (by decide)
    · exact beginsBreak_space_cons _
    · exact List.cons_ne_nil _ _
    · exact hi
  exact hinterfaces.append_lexes (beginsBreak_directives_braced _ _)
    (directives_braced_ne_nil _ _) (lexes_directives_braced hds h)

/-- An object type or an interface type, from its keyword on. -/
lemma lexes_namedFields {keyword name : String} (word : String) {interfaces : List String}
    {fields : List Field} (hkeyword : keyword.toList = word.toList ++ [' '])
    (hword : Token.isName word = true) (hname : Token.isName name = true)
    (hi : ∀ i ∈ interfaces, Token.isName i = true) (hds : ∀ d ∈ ds, d.Legible room)
    (hfields : InBrackets Field.Legible room fields) :
    Lexes (keyword.toList ++ (name.toList ++ ((namesText " implements " " & " interfaces).toList ++
        ((directives ds).toList ++ (braced (fields.map (field c))).toList))))
      (.name word :: .name name :: (Token.listed (.name "implements") (punctuator '&') interfaces ++
        (ds.flatMap Directive.tokens ++
          enclosed '\x7b' '\x7d' Field.tokens (fields.map (Field.mapDescriptions c.shown))))) := by
  obtain ⟨inner, -, hall⟩ := hfields.exists_room (Nat.le_refl room)
  have himplements : BeginsBreak (namesText " implements " " & " interfaces).toList :=
    beginsBreak_namesText " implements " (beginsBreak_space_cons _) (List.cons_ne_nil _ _) _ _
  rw [enclosed_map]
  refine lexes_named word hkeyword hword hname ?_ ?_
    (lexes_interfaces_directives_braced hi hds fun f hf => lexes_field (hall f hf))
  · -- without interfaces the name is followed by the directives or the brace
    exact himplements.append (beginsBreak_directives_braced _ _)
  · exact List.append_ne_nil_of_right_ne_nil _ (directives_braced_ne_nil _ _)

/-- A type whose items follow its directives, from its keyword on. -/
lemma lexes_namedItems {keyword name : String} (word : String)
    (hkeyword : keyword.toList = word.toList ++ [' ']) (hword : Token.isName word = true)
    (hname : Token.isName name = true) (hds : ∀ d ∈ ds, d.Legible room)
    (h : ∀ a ∈ as, Lexes (text a).toList (tokensOf a)) :
    Lexes (keyword.toList ++ (name.toList ++
        ((directives ds).toList ++ (braced (as.map text)).toList)))
      (.name word :: .name name ::
        (ds.flatMap Directive.tokens ++ enclosed '\x7b' '\x7d' tokensOf as)) :=
  lexes_named word hkeyword hword hname (beginsBreak_directives_braced _ _)
    (directives_braced_ne_nil _ _) (lexes_directives_braced hds h)

end

lemma lexes_members {members : List String} (h : ∀ m ∈ members, Token.isName m = true) :
    LexesBeforeBreak (namesText " = " " | " members).toList
      (Token.listed (punctuator '=') (punctuator '|') members) := by
  apply lexesBeforeBreak_namesText
  · exact Token.lexes_spacedPunctuator (by decide)
  · exact Token.lexes_spacedPunctuator (by decide)
  · exact beginsBreak_space_cons _
  · exact List.cons_ne_nil _ _
  · exact h

lemma lexes_typeBody {t : TypeDefinition} (h : t.Legible room) :
    Lexes (typeBody c t).toList (t.mapDescriptions c.shown).tokensFromKeyword := by
  obtain ⟨description, name, ds, body⟩ := t
  obtain ⟨hname, hds, hbody⟩ := h
  cases body with
  | scalar =>
    simp only [typeBody, String.toList_append, List.append_assoc]
    refine lexes_named "scalar" (by decide) (by decide) hname ?_ ?_
      (lexes_line (lexesBeforeBreak_directivesText hds))
    · exact (beginsBreak_directivesText _).append (beginsBreak_cons.2 rfl)
    · simp
  | object interfaces fields =>
    simp only [typeBody, String.toList_append, List.append_assoc]
    exact lexes_namedFields "type" (by decide) (by decide) hname hbody.1 hds hbody.2
  | interface interfaces fields =>
    simp only [typeBody, String.toList_append, List.append_assoc]
    exact lexes_namedFields "interface" (by decide) (by decide) hname hbody.1 hds hbody.2
  | input fields =>
    obtain ⟨inner, -, hall⟩ := InBrackets.exists_room hbody (Nat.le_refl room)
    simp only [typeBody, String.toList_append, List.append_assoc, TypeDefinition.mapDescriptions,
      TypeBody.mapDescriptions, TypeDefinition.tokensFromKeyword, enclosed_map]
    exact lexes_namedItems "input" (by decide) (by decide) hname hds
      fun v hv => lexes_inputLine (isSpaces_spaces c) (hall v hv)
  | enum values =>
    obtain ⟨inner, -, hall⟩ := InBrackets.exists_room hbody (Nat.le_refl room)
    simp only [typeBody, String.toList_append, List.append_assoc, TypeDefinition.mapDescriptions,
      TypeBody.mapDescriptions, TypeDefinition.tokensFromKeyword, enclosed_map]
    exact lexes_namedItems "enum" (by decide) (by decide) hname hds
      fun v hv => lexes_enumValue (hall v hv)
  | union members =>
    -- the members stand on the line of the name, which a line break ends
    have hb : BeginsBreak (namesText " = " " | " members).toList :=
      beginsBreak_namesText " = " (beginsBreak_space_cons _) (List.cons_ne_nil _ _) _ _
    have htail := lexes_line ((lexesBeforeBreak_directivesText hds).append hb (lexes_members hbody))
    rw [List.append_assoc] at htail
    simp only [typeBody, String.toList_append, List.append_assoc]
    refine lexes_named "union" (by decide) (by decide) hname ?_ ?_ htail
    · exact (beginsBreak_directivesText _).append (hb.append (beginsBreak_cons.2 rfl))
    · simp

lemma lexes_typeBlock {t : TypeDefinition} (h : t.Legible room) :
    Lexes (typeBlock c t).toList (t.mapDescriptions c.shown).tokens := by
  rw [typeBlock, String.toList_append]
  exact (lexes_described isSpaces_empty _).append (lexes_typeBody h)

end Rendering

end CanonicalSdl
