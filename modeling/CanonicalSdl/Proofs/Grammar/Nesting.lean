import CanonicalSdl.Proofs.Grammar.TypeSystem

/-!
# The nesting of legible definitions

How deep the tokens of a definition nest tells how much room its brackets need: a definition that is
legible in some room is legible in any room in which its tokens nest.
-/

namespace CanonicalSdl

open Token (punctuator opens closes nests)

/-- Tokens that nest in the given room only if the condition holds, and that close all brackets they
open. -/
def Token.NestsOnlyIf (room : Nat) (ts : List Token) (P : Prop) : Prop :=
  ∀ rest, nests room (ts ++ rest) = true → P ∧ nests room rest = true

namespace Token

variable {room : Nat} {ts us : List Token} {t : Token} {P Q : Prop} {α : Type}
  {tokensOf : α → List Token} {as : List α} {opening closing : Char}

/-! ### Lists of tokens -/

lemma exists_room_of_opens (h : t.opens = true) (hnests : nests room (t :: ts) = true) :
    ∃ inner, room = inner + 1 ∧ nests inner ts = true := by
  cases room with
  | zero => simp [nests, h] at hnests
  | succ inner => exact ⟨inner, rfl, by simpa only [nests, h, ↓reduceIte] using hnests⟩

lemma nests_cons_of_closes (ho : t.opens = false) (hc : t.closes = true) (rest : List Token) :
    nests room (t :: rest) = nests (room + 1) rest := by
  cases room <;> simp only [nests, ho, hc, Bool.false_eq_true, ↓reduceIte]

lemma nests_cons (ho : t.opens = false) (hc : t.closes = false) (rest : List Token) :
    nests room (t :: rest) = nests room rest := by
  cases room <;> simp only [nests, ho, hc, Bool.false_eq_true, ↓reduceIte]

namespace NestsOnlyIf

lemma nil : NestsOnlyIf room [] True :=
  fun _ hnests => ⟨trivial, hnests⟩

lemma imp (h : NestsOnlyIf room ts P) (hPQ : P → Q) : NestsOnlyIf room ts Q := by
  intro rest hnests
  obtain ⟨hP, hrest⟩ := h rest hnests
  exact ⟨hPQ hP, hrest⟩

lemma append (hts : NestsOnlyIf room ts P) (hus : NestsOnlyIf room us Q) :
    NestsOnlyIf room (ts ++ us) (P ∧ Q) := by
  intro rest hnests
  rw [List.append_assoc] at hnests
  obtain ⟨hP, hnests⟩ := hts _ hnests
  obtain ⟨hQ, hrest⟩ := hus _ hnests
  exact ⟨⟨hP, hQ⟩, hrest⟩

lemma cons (ho : t.opens = false) (hc : t.closes = false) (hts : NestsOnlyIf room ts P) :
    NestsOnlyIf room (t :: ts) P := by
  intro rest hnests
  rw [List.cons_append, nests_cons ho hc] at hnests
  exact hts rest hnests

lemma flatMap {P : α → Prop} (h : ∀ a ∈ as, NestsOnlyIf room (tokensOf a) (P a)) :
    NestsOnlyIf room (as.flatMap tokensOf) (∀ a ∈ as, P a) := by
  induction as with
  | nil => exact nil.imp fun _ => by simp
  | cons a as ih =>
    rw [List.forall_mem_cons] at h
    rw [List.flatMap_cons]
    apply (h.1.append (ih h.2)).imp
    exact List.forall_mem_cons.2

/-- Brackets take one off the room. -/
lemma bracketed {P : Nat → Prop} (ho : (punctuator opening).opens = true)
    (hn : (punctuator closing).opens = false) (hc : (punctuator closing).closes = true)
    (hts : ∀ inner, NestsOnlyIf inner ts (P inner)) :
    NestsOnlyIf room (punctuator opening :: (ts ++ [punctuator closing]))
      (∃ inner, room = inner + 1 ∧ P inner) := by
  intro rest hnests
  rw [List.cons_append, List.append_assoc] at hnests
  obtain ⟨inner, rfl, hinner⟩ := exists_room_of_opens ho hnests
  obtain ⟨hP, hclosing⟩ := hts inner _ hinner
  rw [List.singleton_append, nests_cons_of_closes hn hc] at hclosing
  exact ⟨⟨inner, rfl, hP⟩, hclosing⟩

lemma enclosed {Fits : Nat → α → Prop} (ho : (punctuator opening).opens = true)
    (hn : (punctuator closing).opens = false) (hc : (punctuator closing).closes = true)
    (h : ∀ inner, ∀ a ∈ as, NestsOnlyIf inner (tokensOf a) (Fits inner a)) :
    NestsOnlyIf room (enclosed opening closing tokensOf as) (InBrackets Fits room as) := by
  rw [Token.enclosed]
  split
  next hempty => exact nil.imp fun _ => .inl (by simpa using hempty)
  next =>
    apply (bracketed ho hn hc fun inner => flatMap (h inner)).imp
    exact .inr

lemma listed {introduction separator : Token} {names : List String}
    (hi : introduction.opens = false ∧ introduction.closes = false)
    (hs : separator.opens = false ∧ separator.closes = false) :
    NestsOnlyIf room (listed introduction separator names) True := by
  cases names with
  | nil => exact nil
  | cons first others =>
    have hothers : NestsOnlyIf room (others.flatMap fun s => [separator, name s])
        (∀ s ∈ others, True) := flatMap fun s _ => cons hs.1 hs.2 (cons rfl rfl nil)
    exact cons hi.1 hi.2 (cons rfl rfl (hothers.imp fun _ => trivial))

lemma ofDescription (d : Option String) : NestsOnlyIf room (ofDescription d) True := by
  cases d with
  | none => exact nil
  | some s => exact cons rfl rfl nil

end NestsOnlyIf

/-! ### Tokens that nest -/

/-- Tokens that nest in the given room, and that close all brackets they open. -/
def NestsIn (room : Nat) (ts : List Token) : Prop :=
  ∀ rest, nests room (ts ++ rest) = nests room rest

namespace NestsIn

lemma nil : NestsIn room [] :=
  fun _ => rfl

lemma append (hts : NestsIn room ts) (hus : NestsIn room us) : NestsIn room (ts ++ us) := by
  intro rest
  rw [List.append_assoc, hts, hus]

lemma cons (ho : t.opens = false) (hc : t.closes = false) (hts : NestsIn room ts) :
    NestsIn room (t :: ts) := by
  intro rest
  rw [List.cons_append, nests_cons ho hc, hts]

lemma flatMap (h : ∀ a ∈ as, NestsIn room (tokensOf a)) : NestsIn room (as.flatMap tokensOf) := by
  induction as with
  | nil => exact nil
  | cons a as ih =>
    rw [List.forall_mem_cons] at h
    exact h.1.append (ih h.2)

lemma bracketed (ho : (punctuator opening).opens = true)
    (hn : (punctuator closing).opens = false) (hc : (punctuator closing).closes = true)
    (hts : NestsIn room ts) :
    NestsIn (room + 1) (punctuator opening :: (ts ++ [punctuator closing])) := by
  intro rest
  have hinner : nests (room + 1) (punctuator opening :: (ts ++ (punctuator closing :: rest))) =
      nests room (ts ++ (punctuator closing :: rest)) := by
    simp only [nests, ho, ↓reduceIte]
  rw [List.cons_append, List.append_assoc, List.singleton_append, hinner, hts,
    nests_cons_of_closes hn hc]

end NestsIn

end Token

open Token (NestsIn NestsOnlyIf isName)

variable {room wide : Nat} {variablesAllowed : Bool}

/-! ### Values and types -/

lemma Value.Legible.nestsOnlyIf {v : Value} (h : v.Legible variablesAllowed wide) :
    NestsOnlyIf room v.tokens (v.Legible variablesAllowed room) := by
  induction h generalizing room with
  | null => exact .cons rfl rfl (NestsOnlyIf.nil.imp fun _ => .null)
  | int => exact .cons rfl rfl (NestsOnlyIf.nil.imp fun _ => .int)
  | string => exact .cons rfl rfl (NestsOnlyIf.nil.imp fun _ => .string)
  | boolean => exact .cons rfl rfl (NestsOnlyIf.nil.imp fun _ => .boolean)
  | enum name word => exact .cons rfl rfl (NestsOnlyIf.nil.imp fun _ => .enum name word)
  | variableName allowed name =>
    exact .cons rfl rfl (.cons rfl rfl (NestsOnlyIf.nil.imp fun _ => .variableName allowed name))
  | list elements ih =>
    -- the brackets take one level of the room, and the elements have to fit in what is left
    rw [Value.tokens, Value.elementTokens_eq_flatMap]
    apply (NestsOnlyIf.bracketed rfl rfl rfl fun inner => .flatMap fun v hv => ih v hv).imp
    rintro ⟨inner, rfl, helements⟩
    exact .list helements
  | object names ascending values ih =>
    rw [Value.tokens, Value.fieldTokens_eq_flatMap]
    apply (NestsOnlyIf.bracketed rfl rfl rfl fun inner =>
      .flatMap fun f hf => .cons rfl rfl (.cons rfl rfl (ih f hf))).imp
    rintro ⟨inner, rfl, hvalues⟩
    exact .object names ascending hvalues

/-- A value that is legible in some room nests in it. -/
lemma Value.Legible.nestsIn {v : Value} (h : v.Legible variablesAllowed room) :
    NestsIn room v.tokens := by
  induction h with
  | variableName allowed name => exact .cons rfl rfl (.cons rfl rfl .nil)
  | list elements ih =>
    rw [Value.tokens, Value.elementTokens_eq_flatMap]
    exact .bracketed rfl rfl rfl (.flatMap ih)
  | object names ascending values ih =>
    rw [Value.tokens, Value.fieldTokens_eq_flatMap]
    exact .bracketed rfl rfl rfl (.flatMap fun f hf => .cons rfl rfl (.cons rfl rfl (ih f hf)))
  | _ => exact .cons rfl rfl .nil

lemma TypeRef.Legible.nestsOnlyIf {t : TypeRef} (h : t.Legible wide) :
    NestsOnlyIf room t.tokens (t.Legible room) := by
  induction h generalizing room with
  | named name => exact .cons rfl rfl (NestsOnlyIf.nil.imp fun _ => .named name)
  | list inner ih =>
    apply (NestsOnlyIf.bracketed rfl rfl rfl fun _ => ih).imp
    rintro ⟨inner, rfl, hinner⟩
    exact .list hinner
  | nonNull inner once ih =>
    apply (ih.append (.cons rfl rfl .nil)).imp
    rintro ⟨hinner, -⟩
    exact .nonNull hinner once

/-! ### Parts of definitions -/

lemma Directive.Legible.nestsOnlyIf {d : Directive} (h : d.Legible wide) :
    NestsOnlyIf room d.tokens (d.Legible room) := by
  obtain ⟨_, -, hall⟩ := h.arguments.exists_room (Nat.le_refl wide)
  have harguments : NestsOnlyIf room (Token.enclosed '(' ')' Value.namedTokens d.arguments)
      (InBrackets (fun inner a => isName a.1 = true ∧ a.2.Legible true inner) room
        d.arguments) := by
    refine .enclosed rfl rfl rfl fun inner a ha => .cons rfl rfl (.cons rfl rfl ?_)
    exact (hall a ha).2.nestsOnlyIf.imp fun hvalue => ⟨(hall a ha).1, hvalue⟩
  refine .cons rfl rfl (.cons rfl rfl (harguments.imp ?_))
  intro hfits
  exact ⟨h.name, h.nodup, hfits⟩

lemma nestsOnlyIf_directives {ds : List Directive} (h : ∀ d ∈ ds, d.Legible wide) :
    NestsOnlyIf room (ds.flatMap Directive.tokens) (∀ d ∈ ds, d.Legible room) :=
  .flatMap fun d hd => (h d hd).nestsOnlyIf

lemma InputValue.Legible.nestsOnlyIf {v : InputValue} (h : v.Legible wide) :
    NestsOnlyIf room v.tokens (v.Legible room) := by
  have hdefault : NestsOnlyIf room (Value.defaultTokens v.defaultValue)
      (∀ value ∈ v.defaultValue, value.Legible false room) := by
    cases hv : v.defaultValue with
    | none => exact NestsOnlyIf.nil.imp fun _ => by simp
    | some value =>
      refine .cons rfl rfl ((h.defaultValue value hv).nestsOnlyIf.imp ?_)
      intro hvalue
      simpa using hvalue
  refine ((NestsOnlyIf.ofDescription _).append (.cons rfl rfl (.cons rfl rfl
    (h.type.nestsOnlyIf.append (hdefault.append (nestsOnlyIf_directives h.directives)))))).imp ?_
  rintro ⟨-, htype, hvalue, hdirectives⟩
  exact ⟨h.name, htype, hvalue, hdirectives⟩

lemma InBrackets.nestsOnlyIf_inputValues {vs : List InputValue} {opening closing : Char}
    (h : InBrackets InputValue.Legible wide vs) (ho : (punctuator opening).opens = true)
    (hn : (punctuator closing).opens = false) (hc : (punctuator closing).closes = true) :
    NestsOnlyIf room (Token.enclosed opening closing InputValue.tokens vs)
      (InBrackets InputValue.Legible room vs) := by
  obtain ⟨_, -, hall⟩ := h.exists_room (Nat.le_refl wide)
  exact .enclosed ho hn hc fun inner v hv => (hall v hv).nestsOnlyIf

lemma Field.Legible.nestsOnlyIf {f : Field} (h : f.Legible wide) :
    NestsOnlyIf room f.tokens (f.Legible room) := by
  refine ((NestsOnlyIf.ofDescription _).append (.cons rfl rfl
    ((h.arguments.nestsOnlyIf_inputValues rfl rfl rfl).append (.cons rfl rfl
      (h.type.nestsOnlyIf.append (nestsOnlyIf_directives h.directives)))))).imp ?_
  rintro ⟨-, harguments, htype, hdirectives⟩
  exact ⟨h.name, harguments, htype, hdirectives⟩

lemma EnumValue.Legible.nestsOnlyIf {v : EnumValue} (h : v.Legible wide) :
    NestsOnlyIf room v.tokens (v.Legible room) := by
  refine ((NestsOnlyIf.ofDescription _).append
    (.cons rfl rfl (nestsOnlyIf_directives h.directives))).imp ?_
  rintro ⟨-, hdirectives⟩
  exact ⟨h.name, hdirectives⟩

lemma InBrackets.nestsOnlyIf_fields {fs : List Field} (h : InBrackets Field.Legible wide fs) :
    NestsOnlyIf room (Token.enclosed '\x7b' '\x7d' Field.tokens fs)
      (InBrackets Field.Legible room fs) := by
  obtain ⟨_, -, hall⟩ := h.exists_room (Nat.le_refl wide)
  exact .enclosed rfl rfl rfl fun inner f hf => (hall f hf).nestsOnlyIf

lemma InBrackets.nestsOnlyIf_enumValues {vs : List EnumValue}
    (h : InBrackets EnumValue.Legible wide vs) :
    NestsOnlyIf room (Token.enclosed '\x7b' '\x7d' EnumValue.tokens vs)
      (InBrackets EnumValue.Legible room vs) := by
  obtain ⟨_, -, hall⟩ := h.exists_room (Nat.le_refl wide)
  exact .enclosed rfl rfl rfl fun inner v hv => (hall v hv).nestsOnlyIf

/-! ### Definitions -/

lemma DirectiveDefinition.Legible.nestsOnlyIf {d : DirectiveDefinition} (h : d.Legible wide) :
    NestsOnlyIf room d.tokens (d.Legible room) := by
  have hrepeatable :
      NestsOnlyIf room (if d.repeatable then [Token.name "repeatable"] else []) True := by
    split
    · exact .cons rfl rfl .nil
    · exact .nil
  refine ((NestsOnlyIf.ofDescription _).append (.cons rfl rfl (.cons rfl rfl (.cons rfl rfl
    ((h.arguments.nestsOnlyIf_inputValues rfl rfl rfl).append
      (hrepeatable.append (.listed ⟨rfl, rfl⟩ ⟨rfl, rfl⟩))))))).imp ?_
  rintro ⟨-, harguments, -⟩
  exact ⟨h.name, harguments, h.located, h.locations⟩

lemma SchemaDefinition.nestsOnlyIf {s : SchemaDefinition}
    (h : ∀ d ∈ s.directives, d.Legible wide) :
    NestsOnlyIf room s.tokens (∀ d ∈ s.directives, d.Legible room) := by
  have hroots (inner : Nat) : NestsOnlyIf inner (s.roots.flatMap rootTokens)
      (∀ root ∈ s.roots, True) :=
    .flatMap fun root _ => .cons rfl rfl (.cons rfl rfl (.cons rfl rfl .nil))
  refine .cons rfl rfl (((nestsOnlyIf_directives h).append
    (.bracketed rfl rfl rfl hroots)).imp ?_)
  rintro ⟨hdirectives, -⟩
  exact hdirectives

lemma TypeDefinition.Legible.nestsOnlyIf {t : TypeDefinition} (h : t.Legible wide) :
    NestsOnlyIf room t.tokens (t.Legible room) := by
  obtain ⟨description, name, directives, body⟩ := t
  obtain ⟨hname, hdirectives, hbody⟩ := h
  have hdirectives' : NestsOnlyIf room (directives.flatMap Directive.tokens)
      (∀ d ∈ directives, d.Legible room) := nestsOnlyIf_directives hdirectives
  have hinterfaces (names : List String) :
      NestsOnlyIf room (Token.listed (.name "implements") (punctuator '&') names) True :=
    .listed ⟨rfl, rfl⟩ ⟨rfl, rfl⟩
  -- a description is a single token, without brackets
  suffices hrest : NestsOnlyIf room
      (TypeDefinition.tokensFromKeyword ⟨description, name, directives, body⟩)
      ((∀ d ∈ directives, d.Legible room) ∧ body.Legible room) by
    refine ((NestsOnlyIf.ofDescription _).append hrest).imp ?_
    rintro ⟨-, hdirectives, hbody⟩
    exact ⟨hname, hdirectives, hbody⟩
  cases body with
  | scalar =>
    refine .cons rfl rfl (.cons rfl rfl (hdirectives'.imp ?_))
    intro hdirectives
    exact ⟨hdirectives, trivial⟩
  | object interfaces fields =>
    refine .cons rfl rfl (.cons rfl rfl (((hinterfaces _).append
      (hdirectives'.append (InBrackets.nestsOnlyIf_fields hbody.2))).imp ?_))
    rintro ⟨-, hdirectives, hfields⟩
    exact ⟨hdirectives, hbody.1, hfields⟩
  | interface interfaces fields =>
    refine .cons rfl rfl (.cons rfl rfl (((hinterfaces _).append
      (hdirectives'.append (InBrackets.nestsOnlyIf_fields hbody.2))).imp ?_))
    rintro ⟨-, hdirectives, hfields⟩
    exact ⟨hdirectives, hbody.1, hfields⟩
  | input fields =>
    exact .cons rfl rfl (.cons rfl rfl
      (hdirectives'.append (InBrackets.nestsOnlyIf_inputValues hbody rfl rfl rfl)))
  | enum values =>
    exact .cons rfl rfl (.cons rfl rfl
      (hdirectives'.append (InBrackets.nestsOnlyIf_enumValues hbody)))
  | union members =>
    refine .cons rfl rfl (.cons rfl rfl
      ((hdirectives'.append (.listed ⟨rfl, rfl⟩ ⟨rfl, rfl⟩)).imp ?_))
    rintro ⟨hdirectives, -⟩
    exact ⟨hdirectives, hbody⟩

open Production (TypeSystemItem) in
/-- Definitions that are legible in some room are legible in any room in which their tokens nest. -/
theorem legible_of_nests {items : List TypeSystemItem} (h : ∀ i ∈ items, i.Legible wide)
    (hnests : nests room (items.flatMap TypeSystemItem.tokens) = true) :
    ∀ i ∈ items, i.Legible room := by
  have hall : NestsOnlyIf room (items.flatMap TypeSystemItem.tokens)
      (∀ i ∈ items, i.Legible room) := by
    apply NestsOnlyIf.flatMap
    intro i hi
    have hi := h i hi
    cases i with
    | schema s =>
      apply (SchemaDefinition.nestsOnlyIf hi.2.2).imp
      exact fun hdirectives => ⟨hi.1, hi.2.1, hdirectives⟩
    | directive d => exact DirectiveDefinition.Legible.nestsOnlyIf hi
    | type t => exact TypeDefinition.Legible.nestsOnlyIf hi
    | extension addition => exact hi.elim
  rw [← List.append_nil (items.flatMap _)] at hnests
  exact (hall [] hnests).1

end CanonicalSdl
