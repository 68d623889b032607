import CanonicalSdl.Proofs.Document.Names
import CanonicalSdl.Proofs.Rendition.Lexing
import Mathlib.Data.List.Forall2

/-!
# The layout of a text

A text of a rendition is empty or ends with one line break. It has one block for each definition
that is shown, with one blank line between two blocks. Inside a block, blank lines occur in
descriptions only, and every other line is indented by at most two levels.

The lines of a block are followed from the beginning of a definition on: what comes next either ends
the line or goes on with lines that are laid out on their own.
-/

namespace CanonicalSdl

open Text (IsOneLine isOneLine_append isOneLine_nil)
open Token (AreNames BeginsBreak StaysInBlock areNames_append areNames_cons areNames_flatMap
  beginsBreak_cons beginsBreak_nil beginsBreak_space_cons)

/-- The number of spaces that one level of indentation takes. -/
def RenderSettings.width (c : RenderSettings) : Nat :=
  min c.indent 16

/-- The word that begins the definition of a type. -/
def TypeBody.keyword : TypeBody → String
  | scalar => "scalar"
  | input _ => "input"
  | object _ _ => "type"
  | interface _ _ => "interface"
  | enum _ => "enum"
  | union _ => "union"

namespace Rendering

/-! ### Lines -/

/-- The lines of a text. A line break ends each of them, also the last one. -/
structure HasLines (text : List Char) (lines : List (List Char)) : Prop where
  eq_flatMap : text = lines.flatMap (· ++ ['\n'])
  isOneLine : ∀ line ∈ lines, IsOneLine line

/-- A text ends with a line break and has no other one right before it. -/
def EndsOnce (text : List Char) : Prop :=
  ∃ front c, text = front ++ [c, '\n'] ∧ c ≠ '\n'

/-- A line begins with given spaces and then a character that is none of the excluded ones. -/
def BeginsAt (n : Nat) (excluded line : List Char) : Prop :=
  ∃ c ∉ excluded, List.replicate n ' ' ++ [c] <+: line

/-- The line that opens or closes a description. -/
def quotesLine (n : Nat) : List Char :=
  List.replicate n ' ' ++ ['"', '"', '"']

/-- The lines of a description that is indented by given spaces. The first and the last one are
those with the quotes. The others are blank or indented alike, and do not end the block string. -/
def IsDescription (n : Nat) (lines : List (List Char)) : Prop :=
  ∃ contents, lines = quotesLine n :: (contents ++ [quotesLine n]) ∧
    (∀ line ∈ contents, line = [] ∨ BeginsAt n [' '] line) ∧
    StaysInBlock ('\n' :: (contents.flatMap (· ++ ['\n']) ++ List.replicate n ' '))

/-- Lines laid out at levels of indentation that are given spaces apart. A line that does not belong
to a description begins at one of three levels, and not with a quote, so that it is told from the
lines that open and close descriptions. -/
inductive LaidOut (spaces : Nat) : List (List Char) → Prop where
  | nil : LaidOut spaces []
  | line {level : Nat} {line : List Char} {lines : List (List Char)} (shallow : level ≤ 2)
      (begins : BeginsAt (level * spaces) [' ', '"'] line) (rest : LaidOut spaces lines) :
      LaidOut spaces (line :: lines)
  | description {level : Nat} {description lines : List (List Char)} (shallow : level ≤ 2)
      (isDescription : IsDescription (level * spaces) description) (rest : LaidOut spaces lines) :
      LaidOut spaces (description ++ lines)

/-- A text of lines that are laid out. -/
def IsLaidOut (spaces : Nat) (text : List Char) : Prop :=
  ∃ lines, HasLines text lines ∧ LaidOut spaces lines

/-- A text of lines whose first one begins in a given way and goes on after a break, while the
others are laid out. -/
def Opens (spaces : Nat) (heading text : List Char) : Prop :=
  ∃ tail lines, HasLines text ((heading ++ tail) :: lines) ∧ BeginsBreak tail ∧
    LaidOut spaces lines

variable {n level spaces : Nat} {xs ys line heading tail rest text : List Char}
  {lines others : List (List Char)} {excluded : List Char}

lemma hasLines_nil : HasLines [] [] where
  eq_flatMap := rfl
  isOneLine := by simp

lemma hasLines_line (h : IsOneLine line) : HasLines (line ++ ['\n']) [line] where
  eq_flatMap := by simp
  isOneLine := by simpa using h

lemma HasLines.append (hx : HasLines xs lines) (hy : HasLines ys others) :
    HasLines (xs ++ ys) (lines ++ others) where
  eq_flatMap := by rw [hx.eq_flatMap, hy.eq_flatMap, List.flatMap_append]
  isOneLine := List.forall_mem_append.2 ⟨hx.isOneLine, hy.isOneLine⟩

/-- A text begins like its first line, if that is not blank. -/
lemma HasLines.begins (h : HasLines text lines) (hne : lines ≠ [])
    (hhead : ∀ line ∈ lines.head?, line ≠ []) : ∃ c cs, text = c :: cs ∧ c ≠ '\n' := by
  obtain ⟨line, others, rfl⟩ := List.exists_cons_of_ne_nil hne
  obtain ⟨c, cs, rfl⟩ := List.exists_cons_of_ne_nil (hhead line rfl)
  have hone := h.isOneLine (c :: cs) (by simp)
  refine ⟨c, cs ++ '\n' :: others.flatMap (· ++ ['\n']), ?_, ?_⟩
  · simp [h.eq_flatMap]
  · exact Ne.symm (Text.isOneLine_cons.1 hone).1

/-- A text ends with one line break, if its last line is not blank. -/
lemma HasLines.endsOnce (h : HasLines text lines) (hne : lines ≠ [])
    (hlast : ∀ line ∈ lines.getLast?, line ≠ []) : EndsOnce text := by
  obtain ⟨others, line, rfl⟩ := (List.eq_nil_or_concat lines).resolve_left hne
  rw [List.concat_eq_append] at h hlast
  obtain ⟨front, c, rfl⟩ := (List.eq_nil_or_concat line).resolve_left (hlast line (by simp))
  have hone := h.isOneLine (front.concat c) (by simp)
  rw [List.concat_eq_append, isOneLine_append] at hone
  refine ⟨others.flatMap (· ++ ['\n']) ++ front, c, ?_, ?_⟩
  · simp [h.eq_flatMap]
  · exact Ne.symm (Text.isOneLine_cons.1 hone.2).1

lemma EndsOnce.append_left (h : EndsOnce ys) (xs : List Char) : EndsOnce (xs ++ ys) := by
  obtain ⟨front, c, rfl, hc⟩ := h
  exact ⟨xs ++ front, c, by rw [List.append_assoc], hc⟩

lemma BeginsAt.append (h : BeginsAt n excluded line) (tail : List Char) :
    BeginsAt n excluded (line ++ tail) := by
  obtain ⟨c, hc, hprefix⟩ := h
  exact ⟨c, hc, hprefix.trans (List.prefix_append line tail)⟩

lemma BeginsAt.ne_nil (h : BeginsAt n excluded line) : line ≠ [] := by
  obtain ⟨c, -, hprefix⟩ := h
  rintro rfl
  simp at hprefix

/-! ### Lines that are laid out -/

lemma quotesLine_ne_nil (n : Nat) : quotesLine n ≠ [] := by
  simp [quotesLine]

namespace LaidOut

lemma append (h : LaidOut spaces lines) (h' : LaidOut spaces others) :
    LaidOut spaces (lines ++ others) := by
  induction h with
  | nil => exact h'
  | line shallow begins _ ih => exact .line shallow begins ih
  | description shallow description _ ih =>
    rw [List.append_assoc]
    exact .description shallow description ih

/-- Lines that are laid out do not begin with a blank one. -/
lemma ne_nil_of_mem_head? (h : LaidOut spaces lines) : ∀ line ∈ lines.head?, line ≠ [] := by
  cases h with
  | nil => simp
  | line _ begins _ => simpa using begins.ne_nil
  | description _ description _ =>
    obtain ⟨contents, rfl, -⟩ := description
    simpa using quotesLine_ne_nil _

/-- Lines that are laid out do not end with a blank one. -/
lemma ne_nil_of_mem_getLast? (h : LaidOut spaces lines) : ∀ line ∈ lines.getLast?, line ≠ [] := by
  induction h with
  | nil => simp
  | @line level line lines _ begins _ ih =>
    rcases eq_or_ne lines [] with rfl | hne
    · simpa using begins.ne_nil
    · rwa [List.getLast?_cons_of_ne_nil hne]
  | @description level description lines _ description _ ih =>
    obtain ⟨contents, rfl, -⟩ := description
    rcases eq_or_ne lines [] with rfl | hne
    · simpa [List.getLast?_cons] using quotesLine_ne_nil _
    · rwa [List.getLast?_append_of_ne_nil _ hne]

end LaidOut

lemma isLaidOut_nil : IsLaidOut spaces [] :=
  ⟨[], hasLines_nil, .nil⟩

lemma IsLaidOut.append (hx : IsLaidOut spaces xs) (hy : IsLaidOut spaces ys) :
    IsLaidOut spaces (xs ++ ys) := by
  obtain ⟨lines, hlines, hlaid⟩ := hx
  obtain ⟨others, hothers, hlaid'⟩ := hy
  exact ⟨lines ++ others, hlines.append hothers, hlaid.append hlaid'⟩

lemma isLaidOut_line (hl : level ≤ 2) (hb : BeginsAt (level * spaces) [' ', '"'] line)
    (h : IsOneLine line) : IsLaidOut spaces (line ++ ['\n']) :=
  ⟨[line], hasLines_line h, .line hl hb .nil⟩

lemma isLaidOut_join {items : List String} (h : ∀ item ∈ items, IsLaidOut spaces item.toList) :
    IsLaidOut spaces (String.join items).toList := by
  rw [String.toList_join]
  induction items with
  | nil => exact isLaidOut_nil
  | cons item items ih =>
    rw [List.forall_mem_cons] at h
    exact h.1.append (ih h.2)

/-- The first line may go on and be followed by lines that are laid out. -/
lemma opens_of_isLaidOut (hh : IsOneLine heading) (ht : IsOneLine tail) (hb : BeginsBreak tail)
    (h : IsLaidOut spaces rest) : Opens spaces heading (heading ++ (tail ++ '\n' :: rest)) := by
  obtain ⟨lines, hlines, hlaid⟩ := h
  refine ⟨tail, lines, ?_, hb, hlaid⟩
  have hfirst := hasLines_line (isOneLine_append.2 ⟨hh, ht⟩)
  simpa using hfirst.append hlines

lemma opens_line (hh : IsOneLine heading) (ht : IsOneLine tail) (hb : BeginsBreak tail) :
    Opens spaces heading (heading ++ (tail ++ ['\n'])) :=
  opens_of_isLaidOut hh ht hb isLaidOut_nil

lemma Opens.isLaidOut (h : Opens spaces heading text) (hl : level ≤ 2)
    (hb : BeginsAt (level * spaces) [' ', '"'] heading) : IsLaidOut spaces text := by
  obtain ⟨tail, lines, hlines, -, hlaid⟩ := h
  exact ⟨_, hlines, .line hl (hb.append tail) hlaid⟩

/-! ### Indentation -/

/-- A text of spaces that indents by given levels. -/
def Indents (c : RenderSettings) (level : Nat) (indentation : String) : Prop :=
  indentation.toList = List.replicate (level * c.width) ' '

variable {c : RenderSettings} {indentation : String}

lemma indents_empty (c : RenderSettings) : Indents c 0 "" := by
  simp [Indents]

lemma Indents.append_spaces (h : Indents c level indentation) :
    Indents c (level + 1) (indentation ++ c.spaces) := by
  have hspaces : c.spaces.toList = List.replicate c.width ' ' := String.toList_ofList
  rw [Indents, String.toList_append, h, hspaces, List.replicate_append_replicate, Nat.succ_mul]

lemma indents_spaces (c : RenderSettings) : Indents c 1 c.spaces := by
  simpa using (indents_empty c).append_spaces

lemma Indents.isOneLine (h : Indents c level indentation) : IsOneLine indentation.toList := by
  rw [h]
  intro hc
  exact absurd (List.eq_of_mem_replicate hc) (by decide)

lemma Indents.beginsAt (h : Indents c level indentation) {d : Char} (hd : d ∉ excluded)
    (tail : List Char) : BeginsAt (level * c.width) excluded (indentation.toList ++ d :: tail) := by
  refine ⟨d, hd, ?_⟩
  rw [h]
  exact (List.prefix_append_right_inj _).2 (by simp)

/-- A name begins with a character that a line may begin with. -/
lemma Indents.beginsAt_name (h : Indents c level indentation) {name : String}
    (hname : Token.isName name = true) :
    BeginsAt (level * c.width) [' ', '"'] (indentation.toList ++ name.toList) := by
  obtain ⟨d, ds, hd, hstart⟩ := Token.exists_of_isName hname
  rw [hd]
  exact h.beginsAt (Token.notMem_of_class hstart (by decide)) ds

/-! ### Descriptions -/

/-- A trimmed line has exactly the indentation it is given, if there is anything in it. -/
lemma eq_nil_or_beginsAt_indented (h : Text.IsTrimmed line) :
    Token.indented n line = [] ∨ BeginsAt n [' '] (Token.indented n line) := by
  rw [Token.indented]
  split
  next => exact .inl rfl
  next hne =>
    obtain ⟨d, ds, hd⟩ := List.exists_cons_of_ne_nil
      (mt Text.escapeTriples_eq_nil_iff.1 (by simpa using hne))
    have hblank : Text.isBlank d = false :=
      Text.isBlank_of_mem_head?_escapeTriples h.1 d (by simp [hd])
    have hspace : d ∉ [' '] := Token.notMem_of_class (p := (!Text.isBlank ·)) (by simpa) (by decide)
    refine .inr ⟨d, hspace, ?_⟩
    rw [hd]
    exact (List.prefix_append_right_inj _).2 (by simp)

lemma exists_hasLines_descriptionBlock (hi : indentation.toList = List.replicate n ' ')
    (s : String) :
    ∃ lines, HasLines (descriptionBlock indentation s).toList lines ∧ IsDescription n lines := by
  have htidy := Text.areTidy_tidyLines s.toList
  -- between the quotes are the tidy lines of the description, indented
  let contents := (Text.tidyLines s.toList).map (Token.indented n)
  have htext : Token.blockText n (Text.tidyLines s.toList) =
      '\n' :: (contents.flatMap (· ++ ['\n']) ++ List.replicate n ' ') := by
    rw [Token.blockText, List.flatMap_map]
  have hquotes : IsOneLine (quotesLine n) := by simp [quotesLine, IsOneLine]
  have hcontents : ∀ line ∈ contents, IsOneLine line :=
    List.forall_mem_map.2 fun raw hraw => Token.notMem_indented (htidy.notMem raw hraw)
  refine ⟨quotesLine n :: (contents ++ [quotesLine n]), ⟨?_, ?_⟩, contents, rfl, ?_, ?_⟩
  · rw [Token.toList_descriptionBlock hi, htext]
    simp [quotesLine]
  · simpa [or_imp, forall_and, hquotes] using hcontents
  · exact List.forall_mem_map.2 fun raw hraw =>
      eq_nil_or_beginsAt_indented (htidy.isTrimmed raw hraw)
  · rw [← htext]
    exact Token.staysInBlock_blockText n _

/-- There are no lines where no description is rendered. -/
lemma exists_hasLines_described (hi : indentation.toList = List.replicate n ' ')
    (description : Option String) :
    ∃ lines, HasLines (described c indentation description).toList lines ∧
      (lines = [] ∨ IsDescription n lines) := by
  cases description with
  | none => exact ⟨[], hasLines_nil, .inl rfl⟩
  | some s =>
    rw [described]
    split
    · obtain ⟨lines, hlines, hdescription⟩ := exists_hasLines_descriptionBlock hi s
      exact ⟨lines, hlines, .inr hdescription⟩
    · exact ⟨[], hasLines_nil, .inl rfl⟩

lemma isLaidOut_described (hi : Indents c level indentation) (hl : level ≤ 2)
    (description : Option String) :
    IsLaidOut c.width (described c indentation description).toList := by
  obtain ⟨lines, hlines, rfl | hdescription⟩ := exists_hasLines_described (c := c) hi description
  · exact ⟨[], hlines, .nil⟩
  · refine ⟨lines, hlines, ?_⟩
    rw [← List.append_nil lines]
    exact .description hl hdescription .nil

/-! ### Parts of definitions -/

/-- A line of its own that begins with a name. -/
lemma Indents.isLaidOut_named (hi : Indents c level indentation) (hl : level ≤ 2) {name : String}
    (hname : Token.isName name = true) (h : IsOneLine (name.toList ++ tail)) :
    IsLaidOut c.width (indentation.toList ++ name.toList ++ tail ++ ['\n']) := by
  refine isLaidOut_line hl ((hi.beginsAt_name hname).append tail) ?_
  rw [List.append_assoc]
  exact isOneLine_append.2 ⟨hi.isOneLine, h⟩

lemma isLaidOut_inputLine (hi : Indents c level indentation) (hl : level ≤ 2) {v : InputValue}
    (h : AreNames v.names) : IsLaidOut c.width (inputLine c indentation v).toList := by
  have htext := InputValue.isOneLine_text h
  simp only [InputValue.text, String.toList_append, List.append_assoc] at htext
  simpa [inputLine, InputValue.text] using (isLaidOut_described hi hl v.description).append
    (hi.isLaidOut_named hl (areNames_cons.1 h).1 htext)

/-- Arguments either stay on the line of what they belong to, or end it and take lines up to that of
the closing parenthesis. -/
lemma opens_arguments (hi : Indents c level indentation) (hl : level ≤ 1) {as : List InputValue}
    (has : AreNames (as.flatMap InputValue.names)) (hh : IsOneLine heading) (ht : IsOneLine tail)
    (hb : BeginsBreak tail) :
    Opens c.width heading
      (heading ++ ((arguments c indentation as).toList ++ (tail ++ ['\n']))) := by
  rw [areNames_flatMap] at has
  -- what follows the heading on its line differs in the three cases, but begins with a break
  have hbreak := (beginsBreak_arguments c indentation as).append hb
  rw [arguments] at hbreak ⊢
  split
  next => exact opens_line hh ht hb
  next hne =>
  rw [if_neg hne] at hbreak
  split
  next =>
    -- the opening parenthesis ends the first line, and the closing one begins the last
    have hlines : IsLaidOut c.width
        (String.join (as.map (inputLine c (indentation ++ c.spaces)))).toList :=
      isLaidOut_join (List.forall_mem_map.2 fun v hv =>
        isLaidOut_inputLine hi.append_spaces (by omega) (has v hv))
    have hclosing : IsLaidOut c.width (indentation.toList ++ ')' :: tail ++ ['\n']) := by
      refine isLaidOut_line (by omega) (hi.beginsAt (by decide) tail) ?_
      simpa [hi.isOneLine] using ht
    have hopening : IsOneLine ['('] := by decide
    have hopens := opens_of_isLaidOut hh hopening (beginsBreak_cons.2 rfl)
      (hlines.append hclosing)
    simpa using hopens
  next hlines =>
    rw [if_neg hlines] at hbreak
    have htexts : ∀ text ∈ as.map (InputValue.text .standard), IsOneLine text.toList :=
      List.forall_mem_map.2 fun v hv => InputValue.isOneLine_text (has v hv)
    rw [← List.append_assoc _ tail]
    refine opens_line hh ?_ hbreak
    simpa [ht] using Text.isOneLine_intercalate ", " (by decide) htexts

/-- Items in braces end the line of what they belong to and take lines up to that of the closing
brace. -/
lemma opens_braced {items : List String} (hitems : ∀ item ∈ items, IsLaidOut spaces item.toList)
    (hh : IsOneLine heading) (ht : IsOneLine tail) (hb : BeginsBreak tail) :
    Opens spaces heading (heading ++ (tail ++ (braced items).toList)) := by
  rw [braced]
  split
  · exact opens_line hh ht hb
  · have hclosing : IsLaidOut spaces (['\x7d'] ++ ['\n']) :=
      isLaidOut_line (Nat.zero_le 2) ⟨'\x7d', by decide, by simp⟩ (by decide)
    have hopening : IsOneLine (tail ++ [' ', '\x7b']) := by simpa using ht
    have hopens := opens_of_isLaidOut hh hopening (hb.append (beginsBreak_space_cons _))
      ((isLaidOut_join hitems).append hclosing)
    simpa using hopens

lemma isLaidOut_field {f : Field} (h : AreNames f.names) :
    IsLaidOut c.width (field c f).toList := by
  rw [Field.names, areNames_cons, areNames_cons, areNames_append] at h
  obtain ⟨hname, htype, harguments, hdirectives⟩ := h
  have hi := indents_spaces c
  have hh : IsOneLine (c.spaces.toList ++ f.name.toList) :=
    isOneLine_append.2 ⟨hi.isOneLine, isOneLine_name hname⟩
  have ht :
      IsOneLine (": ".toList ++ (f.type.text.toList ++ (directives f.directives).toList)) := by
    have hdirectives : IsOneLine (directives f.directives).toList :=
      isOneLine_directivesText hdirectives
    simp [TypeRef.isOneLine_text htype, hdirectives]
  have hopens := opens_arguments hi (Nat.le_refl 1) harguments hh ht (beginsBreak_cons.2 rfl)
  simp only [field, String.toList_append, List.append_assoc] at hopens ⊢
  exact (isLaidOut_described hi (by decide) _).append
    (hopens.isLaidOut (by decide) (hi.beginsAt_name hname))

lemma isLaidOut_enumValue {v : EnumValue} (h : AreNames v.names) :
    IsLaidOut c.width (enumValue c v).toList := by
  rw [EnumValue.names, areNames_cons] at h
  have hi := indents_spaces c
  have htext : IsOneLine (v.name.toList ++ (directives v.directives).toList) :=
    isOneLine_append.2 ⟨isOneLine_name h.1, isOneLine_directivesText h.2⟩
  simpa [enumValue] using (isLaidOut_described hi (by decide) v.description).append
    (hi.isLaidOut_named (by decide) h.1 htext)

lemma isLaidOut_root {operation : RootOperation} {name : String} (h : Token.isName name = true) :
    IsLaidOut c.width (root c operation name).toList := by
  have hword : Token.isName operation.word = true := by
    cases operation <;> decide
  have htext : IsOneLine (operation.word.toList ++ (": ".toList ++ name.toList)) := by
    simp [isOneLine_name hword, isOneLine_name h]
  simpa [root] using (indents_spaces c).isLaidOut_named (by decide) hword htext

/-! ### Blocks -/

/-- The text of a definition that begins in a given way. After the lines of a description, if there
is one, the first line begins so and goes on after a break. -/
structure IsBlock (spaces : Nat) (heading block : String) : Prop where
  begins : ∃ c cs, block.toList = c :: cs ∧ c ≠ '\n'
  ends : EndsOnce block.toList
  lines : ∃ description tail lines, (description = [] ∨ IsDescription 0 description) ∧
    BeginsBreak tail ∧
    HasLines block.toList (description ++ (heading.toList ++ tail) :: lines) ∧
    LaidOut spaces (description ++ (heading.toList ++ tail) :: lines)

lemma Opens.isBlock {heading text block : String} {description : Option String}
    (h : Opens c.width heading.toList text.toList) (hb : BeginsAt 0 [' ', '"'] heading.toList)
    (hblock : block = described c "" description ++ text) : IsBlock c.width heading block := by
  obtain ⟨tail, lines, hlines, htail, hlaid⟩ := h
  have hi : "".toList = List.replicate 0 ' ' := rfl
  obtain ⟨before, hbefore, hdescription⟩ := exists_hasLines_described (c := c) hi description
  have hall : HasLines block.toList (before ++ (heading.toList ++ tail) :: lines) := by
    rw [hblock, String.toList_append]
    exact hbefore.append hlines
  have hrest : LaidOut c.width ((heading.toList ++ tail) :: lines) :=
    .line (Nat.zero_le 2) (by simpa using hb.append tail) hlaid
  have hlaid : LaidOut c.width (before ++ (heading.toList ++ tail) :: lines) := by
    rcases hdescription with rfl | hdescription
    · exact hrest
    · exact .description (Nat.zero_le 2) (by simpa using hdescription) hrest
  have hne : before ++ (heading.toList ++ tail) :: lines ≠ [] := by simp
  exact ⟨hall.begins hne hlaid.ne_nil_of_mem_head?, hall.endsOnce hne hlaid.ne_nil_of_mem_getLast?,
    before, tail, lines, hdescription, htail, hall, hlaid⟩

/-- Blocks with a separator between them end like the last one. -/
lemma endsOnce_intercalate {separator : String} {headings blocks : List String}
    (h : List.Forall₂ (IsBlock spaces) headings blocks) (hne : blocks ≠ []) :
    EndsOnce (separator.intercalate blocks).toList := by
  induction h with
  | nil => contradiction
  | cons hblock hblocks ih =>
    cases hblocks with
    | nil => simpa using hblock.ends
    | cons hnext hblocks =>
      rw [String.intercalate_cons_cons, String.toList_append]
      exact (ih (List.cons_ne_nil _ _)).append_left _

lemma isBlock_directiveBlock {d : DirectiveDefinition} (h : AreNames d.names) :
    IsBlock c.width ("directive @" ++ d.name) (directiveBlock c d) := by
  rw [DirectiveDefinition.names, areNames_cons, areNames_append] at h
  obtain ⟨hname, harguments, hlocations⟩ := h
  have hh : IsOneLine ("directive @" ++ d.name).toList := by simp [isOneLine_name hname]
  -- what comes after the arguments on the line on which they end
  let tail := (if d.repeatable then " repeatable" else "") ++ " on " ++
    " | ".intercalate d.locations
  have ht : IsOneLine tail.toList ∧ BeginsBreak tail.toList := by
    have hnames := Text.isOneLine_intercalate " | " (by decide)
      fun name hname => isOneLine_name (hlocations name hname)
    cases hr : d.repeatable <;> simpa [tail, hr, Token.endsNumber] using hnames
  have hopens : Opens c.width ("directive @" ++ d.name).toList
      ("directive @" ++ d.name ++ arguments c "" d.arguments ++ tail ++ "\n").toList := by
    simpa using
      opens_arguments (indents_empty c) (Nat.zero_le 1) harguments hh ht.1 ht.2
  have hblock : directiveBlock c d = described c "" d.description ++
      ("directive @" ++ d.name ++ arguments c "" d.arguments ++ tail ++ "\n") := by
    simp [directiveBlock, tail, String.append_assoc]
  exact hopens.isBlock ⟨'d', by decide, by simp⟩ hblock

/-- Directives before items in braces. -/
lemma opens_directives_braced {ds : List Directive} {items : List String}
    (hds : AreNames (ds.flatMap Directive.names))
    (hitems : ∀ item ∈ items, IsLaidOut spaces item.toList) (hh : IsOneLine heading)
    (ht : IsOneLine tail) (hb : BeginsBreak tail) :
    Opens spaces heading
      (heading ++ (tail ++ ((directives ds).toList ++ (braced items).toList))) := by
  rw [← List.append_assoc tail]
  exact opens_braced hitems hh (isOneLine_append.2 ⟨ht, isOneLine_directivesText hds⟩)
    (hb.append (beginsBreak_directivesText ds))

lemma isBlock_schemaBlock {r : Rendition} (hroots : AreNames (r.query.toList ++ r.mutation.toList))
    (hdirectives : AreNames (r.directives.flatMap Directive.names)) :
    IsBlock c.width "schema" (schemaBlock c r) := by
  rw [areNames_append] at hroots
  let items := (r.query.map (root c .query)).toList ++ (r.mutation.map (root c .mutation)).toList
  have hitems : ∀ item ∈ items, IsLaidOut c.width item.toList := by
    intro item hitem
    simp only [items, List.mem_append, Option.mem_toList, Option.map_eq_some_iff] at hitem
    rcases hitem with ⟨name, hname, rfl⟩ | ⟨name, hname, rfl⟩
    · exact isLaidOut_root (hroots.1 name (Option.mem_toList.2 hname))
    · exact isLaidOut_root (hroots.2 name (Option.mem_toList.2 hname))
  have hword : IsOneLine "schema".toList := by decide
  have hopens : Opens c.width "schema".toList (schemaBlock c r).toList := by
    have hbraced := opens_directives_braced hdirectives hitems hword isOneLine_nil beginsBreak_nil
    rw [List.nil_append] at hbraced
    simp only [schemaBlock, String.toList_append, List.append_assoc]
    exact hbraced
  -- a schema definition is rendered without a description
  have hblock : schemaBlock c r = described c "" none ++ schemaBlock c r :=
    String.empty_append.symm
  exact hopens.isBlock ⟨'s', by decide, by simp⟩ hblock

lemma isName_keyword (body : TypeBody) : Token.isName body.keyword = true := by
  cases body <;> simp only [TypeBody.keyword] <;> decide

/-- The interfaces of a type, its directives and its fields. -/
lemma opens_fields {interfaces : List String} {ds : List Directive} {fields : List Field}
    (hds : AreNames (ds.flatMap Directive.names))
    (h : AreNames (interfaces ++ fields.flatMap Field.names)) (hh : IsOneLine heading) :
    Opens c.width heading (heading ++ ((namesText " implements " " & " interfaces).toList ++
      ((directives ds).toList ++ (braced (fields.map (field c))).toList))) := by
  rw [areNames_append, areNames_flatMap] at h
  apply opens_directives_braced hds _ hh
  · exact isOneLine_namesText (by decide) (by decide) h.1
  · exact beginsBreak_namesText " implements " (beginsBreak_space_cons _) (List.cons_ne_nil _ _) _ _
  · exact List.forall_mem_map.2 fun f hf => isLaidOut_field (h.2 f hf)

lemma opens_typeBody {t : TypeDefinition} (h : AreNames t.names) :
    Opens c.width (t.body.keyword ++ " " ++ t.name).toList (typeBody c t).toList := by
  obtain ⟨description, name, ds, body⟩ := t
  rw [TypeDefinition.names, areNames_cons, areNames_append] at h
  obtain ⟨hname, hds, hbody⟩ := h
  have hh : IsOneLine (body.keyword ++ " " ++ name).toList := by
    simp [isOneLine_name (isName_keyword body), isOneLine_name hname]
  have hdirectives : IsOneLine (directives ds).toList := isOneLine_directivesText hds
  have hbraced {items : List String} (hitems : ∀ item ∈ items, IsLaidOut c.width item.toList) :=
    opens_directives_braced hds hitems hh isOneLine_nil beginsBreak_nil
  cases body with
  | scalar =>
    have hopens : Opens c.width _ _ := opens_line hh hdirectives (beginsBreak_directivesText ds)
    simpa [typeBody, TypeBody.keyword] using hopens
  | object interfaces fields => simpa [typeBody, TypeBody.keyword] using opens_fields hds hbody hh
  | interface interfaces fields =>
    simpa [typeBody, TypeBody.keyword] using opens_fields hds hbody hh
  | input fields =>
    rw [TypeBody.names, areNames_flatMap] at hbody
    have hinputs : ∀ item ∈ fields.map (inputLine c c.spaces), IsLaidOut c.width item.toList :=
      List.forall_mem_map.2 fun v hv =>
        isLaidOut_inputLine (indents_spaces c) (by decide) (hbody v hv)
    simpa [typeBody, TypeBody.keyword] using hbraced hinputs
  | enum values =>
    rw [TypeBody.names, areNames_flatMap] at hbody
    have hvalues : ∀ item ∈ values.map (enumValue c), IsLaidOut c.width item.toList :=
      List.forall_mem_map.2 fun v hv => isLaidOut_enumValue (hbody v hv)
    simpa [typeBody, TypeBody.keyword] using hbraced hvalues
  | union members =>
    have hmembers : IsOneLine (namesText " = " " | " members).toList :=
      isOneLine_namesText (by decide) (by decide) hbody
    have hb : BeginsBreak (namesText " = " " | " members).toList :=
      beginsBreak_namesText " = " (beginsBreak_space_cons _) (List.cons_ne_nil _ _) _ _
    have hopens : Opens c.width _ _ :=
      opens_line hh (isOneLine_append.2 ⟨hdirectives, hmembers⟩)
        ((beginsBreak_directivesText ds).append hb)
    simpa [typeBody, TypeBody.keyword] using hopens

lemma isBlock_typeBlock {t : TypeDefinition} (h : AreNames t.names) :
    IsBlock c.width (t.body.keyword ++ " " ++ t.name) (typeBlock c t) := by
  refine (opens_typeBody h).isBlock ?_ rfl
  simpa using ((indents_empty c).beginsAt_name (isName_keyword t.body)).append _

end Rendering

/-! ### Texts -/

open Rendering (EndsOnce IsBlock)

namespace Rendition

/-- The names in a rendition. -/
def names (r : Rendition) : List String :=
  r.query.toList ++ r.mutation.toList ++ r.directives.flatMap Directive.names ++
    r.directiveDefinitions.flatMap DirectiveDefinition.names ++
    r.types.flatMap TypeDefinition.names

/-- How the blocks of a rendition begin: of its directive definitions, of the schema definition if
it has a root or a directive, and of its types but for built-in scalar types. -/
def headings (r : Rendition) : List String :=
  r.directiveDefinitions.map (fun d => "directive @" ++ d.name) ++
    (if r.query.isSome || r.mutation.isSome || !r.directives.isEmpty then ["schema"] else []) ++
    r.shownTypes.map fun t => t.body.keyword ++ " " ++ t.name

/-- The layout of the text of a rendition. -/
structure HasLayout (r : Rendition) (c : RenderSettings) : Prop where
  eq_empty_iff : r.text c = "" ↔
    r.query = none ∧ r.mutation = none ∧ r.directives = [] ∧ r.directiveDefinitions = [] ∧
      ∀ t ∈ r.types, t.body = .scalar ∧ t.name ∈ builtinScalars
  /-- One block for each definition that is shown, and a line break between two of them. -/
  blocks : r.text c = "\n".intercalate (Rendering.blocks c r) ∧
    List.Forall₂ (IsBlock c.width) r.headings (Rendering.blocks c r)
  ends : r.text c ≠ "" → EndsOnce (r.text c).toList

variable {r : Rendition} {c : RenderSettings}

/-- Each block begins in its own way. -/
lemma forall₂_isBlock (h : AreNames r.names) :
    List.Forall₂ (IsBlock c.width) r.headings (Rendering.blocks c r) := by
  rw [names, areNames_append, areNames_append, areNames_append] at h
  obtain ⟨⟨⟨hroots, hdirectives⟩, hdefinitions⟩, htypes⟩ := h
  refine List.rel_append (List.rel_append ?_ ?_) ?_
  · rw [List.forall₂_map_left_iff, List.forall₂_map_right_iff, List.forall₂_same]
    exact fun d hd => Rendering.isBlock_directiveBlock (areNames_flatMap.1 hdefinitions d hd)
  · rw [Rendering.showsSchema]
    split
    · exact .cons (Rendering.isBlock_schemaBlock hroots hdirectives) .nil
    · exact .nil
  · rw [shownTypes, List.forall₂_map_left_iff, List.forall₂_map_right_iff, List.forall₂_same]
    exact fun t ht =>
      Rendering.isBlock_typeBlock (areNames_flatMap.1 htypes t (List.mem_of_mem_filter ht))

lemma isBuiltinScalar_iff {t : TypeDefinition} :
    Rendering.isBuiltinScalar t = true ↔ t.body = .scalar ∧ t.name ∈ builtinScalars := by
  obtain ⟨description, name, ds, body⟩ := t
  cases body <;> simp [Rendering.isBuiltinScalar]

lemma blocks_eq_nil_iff : Rendering.blocks c r = [] ↔
    r.query = none ∧ r.mutation = none ∧ r.directives = [] ∧ r.directiveDefinitions = [] ∧
      ∀ t ∈ r.types, t.body = .scalar ∧ t.name ∈ builtinScalars := by
  simp [Rendering.blocks, Rendering.showsSchema, isBuiltinScalar_iff]
  tauto

/-- The text of a rendition is laid out as blocks, if the names in it are names, whatever its
descriptions and string values. -/
theorem hasLayout (h : AreNames r.names) (c : RenderSettings) : r.HasLayout c := by
  have hblocks := forall₂_isBlock (c := c) h
  have hends (hne : Rendering.blocks c r ≠ []) : EndsOnce (r.text c).toList :=
    Rendering.endsOnce_intercalate hblocks hne
  have hempty : r.text c = "" ↔ Rendering.blocks c r = [] := by
    constructor
    · -- where there is a block, there is its line break
      intro htext
      by_contra hne
      obtain ⟨front, c, hfront, -⟩ := hends hne
      simp [htext] at hfront
    · intro hnil
      rw [text, hnil]
      rfl
  exact ⟨hempty.trans blocks_eq_nil_iff, ⟨rfl, hblocks⟩, fun hne => hends (mt hempty.2 hne)⟩

/-- A rendition of a type whose description has a blank line and whose field has an argument with a
description. The default value of the argument has a line break. -/
def greeting : Rendition where
  query := some "Query"
  types := [{ name := "Int", body := .scalar }, {
    description := some " Polite\n \nqueries "
    name := "Query"
    body := .object [] [{
      name := "greet"
      type := .named "String"
      arguments := [{
        description := some "Whom?"
        name := "names"
        type := .list (.named "String")
        defaultValue := some (.string "you\n") }] }] }]

theorem hasLayout_greeting : AreNames greeting.names ∧ greeting.HasLayout { indent := 20 } :=
  ⟨by decide, hasLayout (by decide) _⟩

example : greeting.text {} =
    "schema \x7b\n  query: Query\n\x7d\n\n" ++
      "\"\"\"\nPolite\n\nqueries\n\"\"\"\ntype Query \x7b\n  greet(\n" ++
      "    \"\"\"\n    Whom?\n    \"\"\"\n    names: [String] = \"you\\n\"\n" ++
      "  ): String\n\x7d\n" := by decide +kernel

end Rendition

end CanonicalSdl
