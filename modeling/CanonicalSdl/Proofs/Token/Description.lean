import CanonicalSdl.Proofs.Text.Tidy
import CanonicalSdl.Proofs.Token.Lexing
import CanonicalSdl.Rendition.Text

/-!
# Descriptions with known tokens

A description is rendered as a block string whose value is the tidy form of the description. The
escapes keep its own quotes from ending it, and its lines share the indentation they are given,
which reading takes off again.
-/

namespace CanonicalSdl

namespace Text

/-! ### Three quotes -/

variable {cs rest : List Char}

/-- Quotes at the beginning of an escaped text stand at the beginning of the text. -/
lemma replicate_prefix_of_escapeTriples (hr : rest.head? ≠ some '"') {n : Nat}
    (h : List.replicate n '"' <+: escapeTriples cs ++ rest) : List.replicate n '"' <+: cs := by
  induction n generalizing cs with
  | zero => exact List.nil_prefix
  | succ n ih =>
    rw [List.replicate_succ] at h ⊢
    fun_cases escapeTriples cs with
    | case1 =>
      obtain ⟨tail, htail⟩ := h
      rw [escapeTriples, List.nil_append] at htail
      simp [← htail] at hr
    | case2 cs => simp [escapeTriples] at h
    | case3 c cs hc =>
      rw [escapeTriples, List.cons_append, List.cons_prefix_cons] at h
      · exact List.cons_prefix_cons.2 ⟨h.1, ih h.2⟩
      · exact hc

/-- An escaped text does not begin with three quotes. -/
lemma escapeTriples_append_ne (hr : rest.head? ≠ some '"') (tail : List Char) :
    escapeTriples cs ++ rest ≠ '"' :: '"' :: '"' :: tail := by
  intro h
  obtain ⟨after, hafter⟩ : List.replicate 3 '"' <+: cs := by
    apply replicate_prefix_of_escapeTriples hr
    exact ⟨tail, h.symm⟩
  subst cs
  simp [escapeTriples, List.replicate] at h

lemma unescapeTriples_escapeTriples (cs : List Char) :
    unescapeTriples (escapeTriples cs) = cs := by
  fun_induction escapeTriples cs with
  | case1 => rfl
  | case2 cs ih => rw [unescapeTriples, ih]
  | case3 c cs hc ih =>
    rw [unescapeTriples, ih]
    intro tail _ h
    have hne : escapeTriples cs ++ [] ≠ '"' :: '"' :: '"' :: tail :=
      escapeTriples_append_ne (by simp) tail
    exact hne (by simpa using h)

lemma escapeTriples_eq_nil_iff : escapeTriples cs = [] ↔ cs = [] := by
  fun_cases escapeTriples cs <;> simp

/-- Escaping puts no blank at the beginning of a text. -/
lemma isBlank_of_mem_head?_escapeTriples (h : ∀ c ∈ cs.head?, isBlank c = false) :
    ∀ c ∈ (escapeTriples cs).head?, isBlank c = false := by
  fun_cases escapeTriples cs with
  | case1 => simp
  | case2 cs => simpa using (by decide : isBlank '\\' = false)
  | case3 c cs hc => simpa using h

/-- Escaping changes no text at its end. -/
lemma getLast?_escapeTriples (cs : List Char) : (escapeTriples cs).getLast? = cs.getLast? := by
  fun_induction escapeTriples cs with
  | case1 => rfl
  | case2 cs ih => simp [List.getLast?_cons, ih]
  | case3 c cs hc ih => simp [List.getLast?_cons, ih]

/-- Escaping adds backslashes only. -/
lemma mem_escapeTriples {c : Char} (h : c ∈ escapeTriples cs) : c = '\\' ∨ c ∈ cs := by
  fun_induction escapeTriples cs with
  | case1 => simp at h
  | case2 cs ih => grind
  | case3 d cs hc ih => grind

end Text

namespace Token

open Text

/-! ### The end of a block string -/

/-- A text does not end the block string it stands in. -/
def StaysInBlock (xs : List Char) : Prop :=
  ∀ rest, scanBlock? (xs ++ rest) = (scanBlock? rest).map fun read => (xs ++ read.1, read.2)

variable {xs ys : List Char} {c : Char}

lemma StaysInBlock.append (hx : StaysInBlock xs) (hy : StaysInBlock ys) :
    StaysInBlock (xs ++ ys) := by
  intro rest
  rw [List.append_assoc, hx, hy, Option.map_map]
  congr 1
  funext read
  simp

lemma StaysInBlock.cons (hb : c ≠ '\\') (hq : c ≠ '"') (hx : StaysInBlock xs) :
    StaysInBlock (c :: xs) := by
  intro rest
  rw [List.cons_append, scanBlock?, hx]
  · cases scanBlock? rest <;> rfl
  · simp [hb]
  · simp [hq]

lemma staysInBlock_nil : StaysInBlock [] := by
  intro rest
  simp

lemma staysInBlock_replicate (n : Nat) : StaysInBlock (List.replicate n ' ') := by
  induction n with
  | zero => exact staysInBlock_nil
  | succ n ih => exact ih.cons (by decide) (by decide)

/-- An escaped line does not end the block string it stands in. -/
lemma staysInBlock_escapeTriples (cs : List Char) : StaysInBlock (escapeTriples cs ++ ['\n']) := by
  intro rest
  have hr : ('\n' :: rest).head? ≠ some '"' := by simp
  simp only [List.append_assoc, List.singleton_append]
  fun_induction escapeTriples cs with
  | case1 =>
    have h := staysInBlock_nil.cons (c := '\n') (by decide) (by decide) rest
    simpa using h
  | case2 cs ih =>
    simp only [List.cons_append]
    rw [scanBlock?, ih]
    cases scanBlock? rest <;> rfl
  | case3 c cs hc ih =>
    -- neither the character itself nor an escape begins a triple here
    rw [List.cons_append, scanBlock?, ih]
    · cases scanBlock? rest <;> rfl
    · intro tail _ h
      exact escapeTriples_append_ne hr tail h
    · rintro tail rfl h
      obtain ⟨after, hafter⟩ := replicate_prefix_of_escapeTriples hr (n := 2) ⟨tail, h.symm⟩
      exact hc after rfl hafter.symm

/-! ### The value of a block string -/

variable {n : Nat} {line : List Char} {ls : List (List Char)}

/-- A line as it stands in a description that is indented by given spaces. -/
def indented (n : Nat) (line : List Char) : List Char :=
  if line.isEmpty then [] else List.replicate n ' ' ++ escapeTriples line

lemma staysInBlock_indented (n : Nat) (line : List Char) :
    StaysInBlock (indented n line ++ ['\n']) := by
  rw [indented]
  split
  · exact staysInBlock_nil.cons (by decide) (by decide)
  · rw [List.append_assoc]
    exact (staysInBlock_replicate n).append (staysInBlock_escapeTriples line)

/-- The text between the quotes: a line break, the lines and the indentation of the closing
quotes. -/
def blockText (n : Nat) (ls : List (List Char)) : List Char :=
  '\n' :: (ls.flatMap (indented n · ++ ['\n']) ++ List.replicate n ' ')

lemma staysInBlock_blockText (n : Nat) (ls : List (List Char)) :
    StaysInBlock (blockText n ls) := by
  refine StaysInBlock.cons (by decide) (by decide) (.append ?_ (staysInBlock_replicate n))
  induction ls with
  | nil => exact staysInBlock_nil
  | cons line ls ih => exact (staysInBlock_indented n line).append ih

lemma notMem_indented (h : '\n' ∉ line) : '\n' ∉ indented n line := by
  rw [indented]
  split
  · simp
  · intro hmem
    rcases List.mem_append.1 hmem with hmem | hmem
    · simp at hmem
    · rcases mem_escapeTriples hmem with hmem | hmem
      · contradiction
      · exact h hmem

lemma getLast?_indented (h : IsTrimmed line) : (indented n line).getLast? ≠ some '\r' := by
  rw [indented]
  split
  next => simp
  next hne =>
    intro hlast
    rw [List.getLast?_append_of_ne_nil _ (by simpa [escapeTriples_eq_nil_iff] using hne),
      getLast?_escapeTriples] at hlast
    exact absurd (h.2 _ hlast) (by decide)

/-- The lines of the text between the quotes. -/
lemma lines_blockText (h : AreTidy ls) :
    lines (blockText n ls) =
      [] :: (ls.map (indented n) ++ if n = 0 then [] else [List.replicate n ' ']) := by
  have hspaces : lines (List.replicate n ' ') = if n = 0 then [] else [List.replicate n ' '] := by
    split
    next hn => rw [hn]; rfl
    next hn => exact lines_of_notMem (by simp) (by simpa using hn)
  have hlines (ls : List (List Char)) (hn : ∀ line ∈ ls, '\n' ∉ line)
      (ht : ∀ line ∈ ls, IsTrimmed line) (rest : List Char) :
      lines (ls.flatMap (indented n · ++ ['\n']) ++ rest) = ls.map (indented n) ++ lines rest := by
    induction ls with
    | nil => rfl
    | cons line ls ih =>
      simp only [List.mem_cons, forall_eq_or_imp] at hn ht
      rw [List.flatMap_cons, List.append_assoc, List.append_assoc, List.singleton_append,
        lines_append_cons (notMem_indented hn.1) (getLast?_indented ht.1), ih hn.2 ht.2]
      rfl
  rw [blockText, lines, hlines ls h.notMem h.isTrimmed, hspaces]

lemma byteLength_replicate (n : Nat) : byteLength (List.replicate n ' ') = n := by
  induction n with
  | zero => rfl
  | succ n ih => rw [List.replicate_succ, byteLength, ih]; exact Nat.add_comm 1 n

lemma byteLength_append (xs ys : List Char) :
    byteLength (xs ++ ys) = byteLength xs + byteLength ys := by
  induction xs with
  | nil => simp [byteLength]
  | cons c xs ih => rw [List.cons_append, byteLength, byteLength, ih, Nat.add_assoc]

lemma dropBytes_replicate_append (n : Nat) (xs : List Char) :
    dropBytes n (List.replicate n ' ' ++ xs) = xs := by
  induction n with
  | zero => cases xs <;> rfl
  | succ n ih =>
    rw [List.replicate_succ, List.cons_append, dropBytes, if_neg (Nat.succ_ne_zero n)]
    exact ih

lemma isBlankLine_of_head? (hne : line ≠ []) (h : ∀ c ∈ line.head?, isBlank c = false) :
    isBlankLine line = false := by
  cases line with
  | nil => contradiction
  | cons c line => simp [isBlankLine, h c (by simp)]

lemma isBlankLine_replicate (n : Nat) : isBlankLine (List.replicate n ' ') = true := by
  simp [isBlankLine, (by decide : isBlank ' ' = true)]

lemma isBlankLine_escapeTriples (hne : line ≠ []) (h : IsTrimmed line) :
    isBlankLine (escapeTriples line) = false :=
  isBlankLine_of_head? (by simpa [escapeTriples_eq_nil_iff])
    (isBlank_of_mem_head?_escapeTriples h.1)

/-- A line that is not empty has the indentation it is given. -/
lemma indentation_indented (hne : line ≠ []) (h : IsTrimmed line) :
    indentation (indented n line) = n := by
  have hhead := isBlank_of_mem_head?_escapeTriples h.1
  rw [indentation, indented, if_neg (by simpa using hne), takeWhile_append_of_head? _ hhead,
    byteLength_replicate]
  simp [(by decide : isBlank ' ' = true)]

lemma isBlankLine_indented (hne : line ≠ []) (h : IsTrimmed line) :
    isBlankLine (indented n line) = false := by
  have := isBlankLine_escapeTriples hne h
  rw [isBlankLine] at this ⊢
  rw [indented, if_neg (by simpa using hne), List.all_append, this, Bool.and_false]

lemma dedentLine_indented (n : Nat) (line : List Char) :
    dedentLine n (indented n line) = escapeTriples line := by
  rw [indented]
  split
  next h =>
    rw [List.isEmpty_iff.1 h, dedentLine]
    split <;> rfl
  next h =>
    rw [dedentLine, if_pos (by rw [byteLength_append, byteLength_replicate]; omega),
      dropBytes_replicate_append]

/-- The lines of a description share the indentation they are given. -/
lemma commonIndentation_indented (h : AreTidy ls) (hne : ls ≠ []) {tail : List (List Char)}
    (ht : ∀ line ∈ tail, isBlankLine line = true) :
    commonIndentation (ls.map (indented n) ++ tail) = n := by
  -- all lines that count have this indentation, and there is one that counts
  have hall : ∀ k ∈ ((ls.map (indented n) ++ tail).filter (!isBlankLine ·)).map indentation,
      k = n := by
    intro k hk
    obtain ⟨text, htext, rfl⟩ := List.mem_map.1 hk
    obtain ⟨hmem, hblank⟩ := List.mem_filter.1 htext
    rcases List.mem_append.1 hmem with hmem | hmem
    · obtain ⟨line, hline, rfl⟩ := List.mem_map.1 hmem
      refine indentation_indented ?_ (h.isTrimmed line hline)
      rintro rfl
      simp [indented, isBlankLine] at hblank
    · simp [ht text hmem] at hblank
  have hmem : n ∈ ((ls.map (indented n) ++ tail).filter (!isBlankLine ·)).map indentation := by
    obtain ⟨line, others, rfl⟩ := List.exists_cons_of_ne_nil hne
    have hline : line ≠ [] := h.head? line rfl
    have htrimmed := h.isTrimmed line (by simp)
    refine List.mem_map.2 ⟨indented n line, ?_, indentation_indented hline htrimmed⟩
    exact List.mem_filter.2 ⟨by simp, by simp [isBlankLine_indented hline htrimmed]⟩
  rw [commonIndentation, List.eq_replicate_iff.2 ⟨rfl, hall⟩, List.min?_replicate_of_pos]
  · rfl
  · exact List.length_pos_of_mem hmem

/-- Blank lines around lines that are not blank at their ends do not belong to the value. -/
lemma trimBlankLines_append {before after : List (List Char)}
    (hb : ∀ line ∈ before, isBlankLine line = true) (ha : ∀ line ∈ after, isBlankLine line = true)
    (hhead : ∀ line ∈ ls.head?, isBlankLine line = false)
    (hlast : ∀ line ∈ ls.getLast?, isBlankLine line = false) :
    trimBlankLines (before ++ (ls ++ after)) = ls := by
  rcases eq_or_ne ls [] with rfl | hne
  · have hall : ∀ line ∈ before ++ ([] ++ after), isBlankLine line = true := by
      simp only [List.nil_append, List.mem_append]
      rintro line (h | h)
      · exact hb line h
      · exact ha line h
    rw [trimBlankLines, List.dropWhile_eq_nil_iff.2 hall]
    rfl
  · rw [trimBlankLines, dropWhile_append_of_head? hb, List.reverse_append,
      dropWhile_append_of_head?, List.reverse_reverse]
    · simpa using ha
    · simpa using hlast
    · rw [List.head?_append_of_ne_nil _ hne]
      exact hhead

lemma isBlankLine_dedentLine {shared : Nat} (h : isBlankLine line = true) :
    isBlankLine (dedentLine shared line) = true := by
  have hdrop (k : Nat) (cs : List Char) (hcs : isBlankLine cs = true) :
      isBlankLine (dropBytes k cs) = true := by
    fun_induction dropBytes k cs with
    | case1 => rfl
    | case2 => exact hcs
    | case3 k c cs hk ih =>
      simp only [isBlankLine, List.all_cons, Bool.and_eq_true] at hcs
      exact ih hcs.2
  rw [dedentLine]
  split
  · exact hdrop shared line h
  · exact h

/-- Without the shared indentation the lines are those of the description, escaped. -/
lemma dedent_lines_blockText (h : AreTidy ls) :
    ∃ after, (∀ line ∈ after, isBlankLine line = true) ∧
      dedent (lines (blockText n ls)) = [[]] ++ (ls.map escapeTriples ++ after) := by
  have hspaces : ∀ line ∈ if n = 0 then [] else [List.replicate n ' '],
      isBlankLine line = true := by
    split
    · simp
    · simpa using isBlankLine_replicate n
  rw [lines_blockText h]
  -- all that matters of the line of the closing quotes is that it is blank
  generalize (if n = 0 then [] else [List.replicate n ' ']) = closing at hspaces ⊢
  let shared := commonIndentation (ls.map (indented n) ++ closing)
  refine ⟨closing.map (dedentLine shared), ?_, ?_⟩
  · intro line hline
    obtain ⟨raw, hraw, rfl⟩ := List.mem_map.1 hline
    exact isBlankLine_dedentLine (hspaces raw hraw)
  · have hlines : (ls.map (indented n)).map (dedentLine shared) = ls.map escapeTriples := by
      rcases eq_or_ne ls [] with rfl | hne
      · rfl
      · rw [List.map_map]
        simp only [shared, commonIndentation_indented h hne hspaces]
        exact List.map_congr_left fun line _ => dedentLine_indented n line
    rw [dedent, List.map_append, hlines]
    rfl

/-- The value of the block string of tidy lines is these lines. -/
lemma blockContent_blockText (h : AreTidy ls) : blockContent (blockText n ls) = joinLines ls := by
  obtain ⟨after, hafter, hdedent⟩ := dedent_lines_blockText (n := n) h
  have hescaped : ∀ line ∈ ls, line ≠ [] → isBlankLine (escapeTriples line) = false :=
    fun line hline hne => isBlankLine_escapeTriples hne (h.isTrimmed line hline)
  -- the blank lines around are those of the quotes, as the lines themselves are tidy
  have htrim : trimBlankLines ([[]] ++ (ls.map escapeTriples ++ after)) = ls.map escapeTriples := by
    apply trimBlankLines_append (by simp [isBlankLine]) hafter
    · intro line hline
      obtain ⟨raw, hraw, rfl⟩ := Option.map_eq_some_iff.1 (List.head?_map .. ▸ hline)
      exact hescaped raw (List.mem_of_mem_head? hraw) (h.head? raw hraw)
    · intro line hline
      obtain ⟨raw, hraw, rfl⟩ := Option.map_eq_some_iff.1 (List.getLast?_map .. ▸ hline)
      exact hescaped raw (List.mem_of_mem_getLast? hraw) (h.getLast? raw hraw)
  have hunescape : (ls.map escapeTriples).map unescapeTriples = ls := by
    rw [List.map_map]
    exact List.map_id'' unescapeTriples_escapeTriples ls
  rw [blockContent, hdedent, htrim, hunescape]

/-! ### Descriptions -/

lemma toList_descriptionLine {indentation : String}
    (hi : indentation.toList = List.replicate n ' ') (line : List Char) :
    (Rendering.descriptionLine indentation line).toList = indented n (trim line) ++ ['\n'] := by
  rw [Rendering.descriptionLine, indented]
  split <;> simp [hi]

lemma toList_descriptionBlock {indentation : String}
    (hi : indentation.toList = List.replicate n ' ') (s : String) :
    (Rendering.descriptionBlock indentation s).toList =
      List.replicate n ' ' ++ '"' :: '"' :: '"' ::
        (blockText n (tidyLines s.toList) ++ '"' :: '"' :: '"' :: ['\n']) := by
  have hlines : (lines (trim s.toList)).flatMap
      (fun line => (Rendering.descriptionLine indentation line).toList) =
        (tidyLines s.toList).flatMap (indented n · ++ ['\n']) := by
    rw [tidyLines, List.flatMap_map]
    congr 1
    funext line
    exact toList_descriptionLine hi line
  simp [Rendering.descriptionBlock, blockText, hi, String.toList_join, List.flatMap_map, hlines]

/-- The text between the quotes of a description ends at its closing quotes, and its value is the
tidy form of the description. -/
lemma scan?_blockText (n : Nat) (s : String) (rest : List Char) :
    scan? ('"' :: '"' :: '"' :: (blockText n (tidyLines s.toList) ++ '"' :: '"' :: '"' :: rest)) =
      some (string (tidy s), rest) := by
  rw [scan?, staysInBlock_blockText n, scanBlock?]
  simp [blockContent_blockText (areTidy_tidyLines s.toList), tidy]

/-- A description is one token, its tidy form. -/
lemma lexes_descriptionBlock {indentation : String}
    (hi : indentation.toList = List.replicate n ' ') (s : String) :
    Lexes (Rendering.descriptionBlock indentation s).toList [string (tidy s)] := by
  have hblock : Lexes ('"' :: '"' :: '"' ::
      (blockText n (tidyLines s.toList) ++ '"' :: '"' :: '"' :: ['\n'])) [string (tidy s)] := by
    intro rest
    simp only [List.cons_append, List.append_assoc, List.nil_append]
    rw [tokenize?_of_scan? (by decide) (by decide) (scan?_blockText n s _),
      tokenize?_cons_of_isIgnored (by decide)]
  rw [toList_descriptionBlock hi]
  refine (lexes_of_isIgnored ?_).append hblock
  intro c hc
  rw [List.eq_of_mem_replicate hc]
  decide

/-- A description at an indentation of spaces is one block string between three quotes on either
side, which ends at its closing quotes whatever follows them, and whose value is the tidy form of
the description. The tidy form has the same block string, and differs from the description in blanks
only. -/
theorem descriptionBlock_characterization (n : Nat) (s : String) :
    (∃ content : List Char,
      (Rendering.descriptionBlock (String.ofList (List.replicate n ' ')) s).toList =
        List.replicate n ' ' ++ ['"', '"', '"'] ++ content ++ ['"', '"', '"', '\n'] ∧
      ∀ rest,
        scanBlock? (content ++ ['"', '"', '"'] ++ rest) = some (content, rest) ∧
        scan? (['"', '"', '"'] ++ content ++ ['"', '"', '"'] ++ rest) =
          some (string (tidy s), rest)) ∧
    (∀ rest,
      tokenize?
          ((Rendering.descriptionBlock (String.ofList (List.replicate n ' ')) s).toList ++ rest) =
        (tokenize? rest).map (string (tidy s) :: ·)) ∧
    Rendering.descriptionBlock (String.ofList (List.replicate n ' ')) (tidy s) =
      Rendering.descriptionBlock (String.ofList (List.replicate n ' ')) s ∧
    nonBlanks (tidy s).toList = nonBlanks s.toList := by
  have hi : (String.ofList (List.replicate n ' ')).toList = List.replicate n ' ' :=
    String.toList_ofList
  have hblock (s : String) := toList_descriptionBlock hi s
  refine ⟨⟨blockText n (tidyLines s.toList), ?_, ?_⟩, ?_, ?_, nonBlanks_tidy s⟩
  · rw [hblock]
    simp
  · intro rest
    constructor
    · rw [List.append_assoc, staysInBlock_blockText n]
      simp [scanBlock?]
    · simpa using scan?_blockText n s rest
  · exact lexes_descriptionBlock hi s
  · rw [← String.toList_inj, hblock, hblock, tidyLines_tidy]

example : (Rendering.descriptionBlock "  " " a \r\n\r\n \"\"\"\"b\\").toList =
    "  \"\"\"\n  a\n\n  \\\"\"\"\"b\\\n  \"\"\"\n".toList := by decide

end Token

end CanonicalSdl
