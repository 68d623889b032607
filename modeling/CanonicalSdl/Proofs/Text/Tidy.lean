import CanonicalSdl.Text.Blank
import CanonicalSdl.Text.Lines
import CanonicalSdl.Text.TripleQuotes
import Mathlib.Data.List.DropRight
import Mathlib.Data.List.TakeWhile

/-!
# Tidy texts

A text is made tidy by taking the blanks off its ends and off the ends of each of its lines. This
is what rendering keeps of a description. A tidy text has no blank line at either end, and no line
of it begins or ends with a blank.
-/

namespace CanonicalSdl.Text

variable {c d : Char} {cs line : List Char}

/-! ### Trimmed texts -/

/-- A text is trimmed if it neither begins nor ends with a blank. -/
def IsTrimmed (cs : List Char) : Prop :=
  (∀ c ∈ cs.head?, isBlank c = false) ∧ ∀ c ∈ cs.getLast?, isBlank c = false

lemma isBlank_of_mem_head?_trimStart (h : c ∈ (trimStart cs).head?) : isBlank c = false := by
  have hnot := List.head?_dropWhile_not isBlank cs
  rw [Option.mem_def, trimStart] at h
  rwa [h] at hnot

lemma isTrimmed_trim (cs : List Char) : IsTrimmed (trim cs) := by
  constructor
  · intro c hc
    obtain ⟨rest, hrest⟩ := List.rdropWhile_prefix isBlank (trimStart cs)
    have hhead : c ∈ (trimStart cs).head? := by
      rw [← hrest, Option.mem_def, List.head?_append]
      exact Option.or_eq_some_iff.2 (.inl hc)
    exact isBlank_of_mem_head?_trimStart hhead
  · intro c hc
    rw [trim, trimEnd, List.getLast?_reverse] at hc
    have hnot := List.head?_dropWhile_not isBlank (trimStart cs).reverse
    rwa [Option.mem_def.1 hc] at hnot

lemma mem_dropWhile_of_mem {p : Char → Bool} (h : c ∈ cs) (hc : p c = false) :
    c ∈ cs.dropWhile p := by
  rw [← List.takeWhile_append_dropWhile (p := p) (l := cs), List.mem_append] at h
  rcases h with h | h
  · exact absurd (List.mem_takeWhile_imp h) (by simp [hc])
  · exact h

/-- Trimming loses blanks only. -/
lemma mem_trim_of_mem (h : c ∈ cs) (hc : isBlank c = false) : c ∈ trim cs := by
  rw [trim, trimEnd, List.mem_reverse]
  exact mem_dropWhile_of_mem (List.mem_reverse.2 (mem_dropWhile_of_mem h hc)) hc

lemma mem_of_mem_trim (h : c ∈ trim cs) : c ∈ cs :=
  List.dropWhile_subset isBlank ((List.rdropWhile_prefix isBlank (trimStart cs)).subset h)

/-! ### Lines -/

lemma lines_cons_of_ne (hn : c ≠ '\n') (hr : c = '\r' → cs.head? ≠ some '\n') :
    lines (c :: cs) =
      match lines cs with
      | [] => [[c]]
      | line :: rest => (c :: line) :: rest := by
  refine lines.eq_4 c cs hn ?_
  rintro tail rfl rfl
  simp at hr

/-- A line ends at its line feed, if no carriage return stands before it. -/
lemma lines_append_cons (hn : '\n' ∉ line) (hr : line.getLast? ≠ some '\r') (rest : List Char) :
    lines (line ++ '\n' :: rest) = line :: lines rest := by
  induction line with
  | nil => rw [List.nil_append, lines]
  | cons c line ih =>
    simp only [List.mem_cons, not_or] at hn
    rw [List.cons_append, lines_cons_of_ne (Ne.symm hn.1)]
    · rw [ih hn.2]
      intro hlast
      simp_all [List.getLast?_cons]
    · rintro rfl
      cases line with
      | nil => simp at hr
      | cons d line =>
        simp only [List.mem_cons, not_or] at hn
        simpa using Ne.symm hn.2.1

/-- A text without line feeds is one line. -/
lemma lines_of_notMem (hn : '\n' ∉ line) (hne : line ≠ []) : lines line = [line] := by
  induction line with
  | nil => contradiction
  | cons c line ih =>
    simp only [List.mem_cons, not_or] at hn
    rw [lines_cons_of_ne (Ne.symm hn.1)]
    · cases line with
      | nil => rfl
      | cons d line => rw [ih hn.2 (by simp)]
    · intro _ hhead
      exact hn.2 (List.mem_of_mem_head? hhead)

lemma notMem_of_mem_lines (h : line ∈ lines cs) : '\n' ∉ line := by
  fun_induction lines cs generalizing line with
  | case1 => simp at h
  | case2 cs ih => grind
  | case3 cs ih => grind
  | case4 c cs hn hr hl ih => grind
  | case5 c cs hn hr first rest hl ih => grind

/-- The first line begins like the text. -/
lemma lines_cons (hn : c ≠ '\n') (hr : c ≠ '\r') (cs : List Char) :
    ∃ line rest, lines (c :: cs) = (c :: line) :: rest := by
  rw [lines_cons_of_ne hn (fun h => absurd h hr)]
  cases lines cs with
  | nil => exact ⟨[], [], rfl⟩
  | cons line rest => exact ⟨line, rest, rfl⟩

/-- The last line ends like the text. -/
lemma lines_concat (hd : d ≠ '\n') (cs : List Char) :
    ∃ first line, lines (cs ++ [d]) = first ++ [line ++ [d]] := by
  -- a character that breaks no line goes on the first line, which may be the last one as well
  have step (c : Char) (cs : List Char) (hn : c ≠ '\n')
      (hr : ∀ tail, c = '\r' → cs = '\n' :: tail → False)
      (ih : ∃ first line, lines (cs ++ [d]) = first ++ [line ++ [d]]) :
      ∃ first line, lines (c :: cs ++ [d]) = first ++ [line ++ [d]] := by
    obtain ⟨first, line, h⟩ := ih
    have hc : lines (c :: cs ++ [d]) =
        match lines (cs ++ [d]) with
        | [] => [[c]]
        | line :: rest => (c :: line) :: rest := by
      apply lines_cons_of_ne hn
      intro hc
      cases cs with
      | nil => simpa using hd
      | cons e cs => simpa using fun he => hr cs hc (by rw [he])
    cases first with
    | nil => exact ⟨[], c :: line, by rw [hc, h]; rfl⟩
    | cons l first => exact ⟨(c :: l) :: first, line, by rw [hc, h]; rfl⟩
  fun_induction lines cs with
  | case1 => exact ⟨[], [], by simp [lines]⟩
  | case2 cs ih =>
    obtain ⟨first, line, h⟩ := ih
    exact ⟨[] :: first, line, by rw [List.cons_append, lines, h, List.cons_append]⟩
  | case3 cs ih =>
    obtain ⟨first, line, h⟩ := ih
    refine ⟨[] :: first, line, ?_⟩
    rw [List.cons_append, List.cons_append, lines, h, List.cons_append]
  | case4 c cs hn hr hl ih => exact step c cs hn hr ih
  | case5 c cs hn hr l rest hl ih => exact step c cs hn hr ih

/-! ### What is not blank -/

/-- The characters of a text that are no blanks. -/
def nonBlanks (cs : List Char) : List Char :=
  cs.filter (!isBlank ·)

lemma nonBlanks_append (xs ys : List Char) : nonBlanks (xs ++ ys) = nonBlanks xs ++ nonBlanks ys :=
  List.filter_append xs ys

lemma nonBlanks_trimStart (cs : List Char) : nonBlanks (trimStart cs) = nonBlanks cs := by
  induction cs with
  | nil => rfl
  | cons c cs ih =>
    by_cases hc : isBlank c = true
    · have hstep : trimStart (c :: cs) = trimStart cs := List.dropWhile_cons_of_pos hc
      rw [hstep, ih, nonBlanks, nonBlanks, List.filter_cons_of_neg (by simp [hc])]
    · rw [trimStart, List.dropWhile_cons_of_neg hc]

lemma nonBlanks_trim (cs : List Char) : nonBlanks (trim cs) = nonBlanks cs := by
  -- a text is trimmed at its end by trimming its reverse at the start
  have hreverse : nonBlanks (trim cs) = (nonBlanks (trimStart (trimStart cs).reverse)).reverse := by
    rw [nonBlanks, trim, trimEnd, List.filter_reverse]
    rfl
  rw [hreverse, nonBlanks_trimStart, nonBlanks, List.filter_reverse, List.reverse_reverse]
  exact nonBlanks_trimStart cs

/-- Breaking a text into lines loses blanks only. -/
lemma nonBlanks_lines (cs : List Char) : (lines cs).flatMap nonBlanks = nonBlanks cs := by
  have hfeed : isBlank '\n' = true := by decide
  have hreturn : isBlank '\r' = true := by decide
  fun_induction lines cs with
  | case1 => rfl
  | case2 cs ih => simpa [nonBlanks, hfeed] using ih
  | case3 cs ih => simpa [nonBlanks, hfeed, hreturn] using ih
  | case4 c cs hn hr hl ih =>
    have hcons := nonBlanks_append [c] cs
    rw [hl] at ih
    rw [List.singleton_append, ← ih] at hcons
    simpa using hcons.symm
  | case5 c cs hn hr first rest hl ih =>
    have hcons := nonBlanks_append [c] cs
    have hfirst := nonBlanks_append [c] first
    rw [List.singleton_append] at hcons hfirst
    rw [hcons, List.flatMap_cons, hfirst, ← ih, hl, List.flatMap_cons, List.append_assoc]

lemma nonBlanks_joinLines (ls : List (List Char)) :
    nonBlanks (joinLines ls) = ls.flatMap nonBlanks := by
  have hfeed : nonBlanks ['\n'] = [] := by decide
  induction ls with
  | nil => rfl
  | cons line ls ih =>
    cases ls with
    | nil => simp [joinLines]
    | cons next ls =>
      rw [joinLines, List.intercalate_cons_cons, nonBlanks_append, nonBlanks_append, hfeed,
        List.append_nil, List.flatMap_cons, ← ih]
      rfl

/-! ### Tidy texts -/

/-- The lines of a text without blanks at either end of it, each of them trimmed. -/
def tidyLines (cs : List Char) : List (List Char) :=
  (lines (trim cs)).map trim

/-- A text without blanks at its ends and at the ends of its lines. -/
def tidy (s : String) : String :=
  String.ofList (joinLines (tidyLines s.toList))

/-- A text and its tidy form differ in blanks only. -/
theorem nonBlanks_tidy (s : String) : nonBlanks (tidy s).toList = nonBlanks s.toList := by
  have hlines (ls : List (List Char)) : (ls.map trim).flatMap nonBlanks = ls.flatMap nonBlanks := by
    rw [List.flatMap_map]
    congr 1
    funext line
    exact nonBlanks_trim line
  rw [tidy, String.toList_ofList, nonBlanks_joinLines, tidyLines, hlines, nonBlanks_lines,
    nonBlanks_trim]

/-- Lines that can be those of a tidy text. -/
structure AreTidy (ls : List (List Char)) : Prop where
  isTrimmed : ∀ line ∈ ls, IsTrimmed line
  notMem : ∀ line ∈ ls, '\n' ∉ line
  head? : ∀ line ∈ ls.head?, line ≠ []
  getLast? : ∀ line ∈ ls.getLast?, line ≠ []

lemma areTidy_tidyLines (cs : List Char) : AreTidy (tidyLines cs) := by
  have htrimmed := isTrimmed_trim cs
  constructor
  case isTrimmed =>
    intro line hline
    obtain ⟨raw, -, rfl⟩ := List.mem_map.1 hline
    exact isTrimmed_trim raw
  case notMem =>
    intro line hline hn
    obtain ⟨raw, hraw, rfl⟩ := List.mem_map.1 hline
    exact notMem_of_mem_lines hraw (mem_of_mem_trim hn)
  case head? =>
    -- the first character of a trimmed text is not blank, and stays in the first line
    intro line hline
    cases hcs : trim cs with
    | nil => simp [tidyLines, hcs, lines] at hline
    | cons c rest =>
      have hc : isBlank c = false := htrimmed.1 c (by simp [hcs])
      obtain ⟨first, others, hlines⟩ := lines_cons (c := c)
        (by rintro rfl; exact absurd hc (by decide)) (by rintro rfl; exact absurd hc (by decide))
        rest
      obtain rfl : trim (c :: first) = line := by simpa [tidyLines, hcs, hlines] using hline
      exact List.ne_nil_of_mem (mem_trim_of_mem (by simp) hc)
  case getLast? =>
    intro line hline
    rcases List.eq_nil_or_concat (trim cs) with hcs | ⟨rest, d, hcs⟩
    · simp [tidyLines, hcs, lines] at hline
    · have hd : isBlank d = false := htrimmed.2 d (by simp [hcs])
      obtain ⟨others, last, hlines⟩ := lines_concat (d := d)
        (by rintro rfl; exact absurd hd (by decide)) rest
      obtain rfl : trim (last ++ [d]) = line := by simpa [tidyLines, hcs, hlines] using hline
      exact List.ne_nil_of_mem (mem_trim_of_mem (by simp) hd)

/-! ### Texts that are tidy already -/

lemma IsTrimmed.trim_eq (h : IsTrimmed cs) : trim cs = cs := by
  have hstart : trimStart cs = cs := by
    cases cs with
    | nil => rfl
    | cons c cs => exact List.dropWhile_cons_of_neg (by simp [h.1 c (by simp)])
  rw [trim, hstart, trimEnd]
  rcases List.eq_nil_or_concat cs with rfl | ⟨rest, d, rfl⟩
  · rfl
  · have hd : isBlank d = false := h.2 d (by simp)
    rw [List.concat_eq_append, List.reverse_append, List.reverse_singleton, List.singleton_append,
      List.dropWhile_cons_of_neg (by simp [hd])]
    simp

lemma joinLines_cons_cons (line next : List Char) (ls : List (List Char)) :
    joinLines (line :: next :: ls) = line ++ '\n' :: joinLines (next :: ls) := by
  rw [joinLines, List.intercalate_cons_cons, List.append_assoc, List.singleton_append]
  rfl

lemma prefix_joinLines (line : List Char) (ls : List (List Char)) :
    line <+: joinLines (line :: ls) := by
  cases ls with
  | nil => simp [joinLines]
  | cons next ls =>
    rw [joinLines_cons_cons]
    exact List.prefix_append line _

lemma suffix_joinLines (ls : List (List Char)) (line : List Char) :
    line <:+ joinLines (ls ++ [line]) := by
  induction ls with
  | nil => simp [joinLines]
  | cons first ls ih =>
    obtain ⟨next, others, hls⟩ : ∃ next others, ls ++ [line] = next :: others :=
      List.exists_cons_of_ne_nil (by simp)
    rw [List.cons_append, hls, joinLines_cons_cons, ← hls]
    exact ih.trans ((List.suffix_cons _ _).trans (List.suffix_append _ _))

/-- Lines joined together are broken up again, if none holds a line break or ends with half of one
and the last one is not empty. -/
lemma lines_joinLines {ls : List (List Char)} (hn : ∀ line ∈ ls, '\n' ∉ line)
    (hr : ∀ line ∈ ls, line.getLast? ≠ some '\r') (hlast : ∀ line ∈ ls.getLast?, line ≠ []) :
    lines (joinLines ls) = ls := by
  induction ls with
  | nil => rfl
  | cons line ls ih =>
    rw [List.forall_mem_cons] at hn hr
    cases ls with
    | nil =>
      have hjoin : joinLines [line] = line := by simp [joinLines]
      rw [hjoin, lines_of_notMem hn.1 (hlast line (by simp))]
    | cons next ls =>
      -- the line feed in between is the first one, and no carriage return comes before it
      rw [joinLines_cons_cons, lines_append_cons hn.1 hr.1, ih hn.2 hr.2 (by simpa using hlast)]

namespace AreTidy

variable {ls : List (List Char)}

lemma lines_joinLines (h : AreTidy ls) : lines (joinLines ls) = ls := by
  apply Text.lines_joinLines h.notMem _ h.getLast?
  intro line hline hlast
  exact absurd ((h.isTrimmed line hline).2 _ hlast) (by decide)

/-- A tidy text begins like its first line and ends like its last one. -/
lemma isTrimmed_joinLines (h : AreTidy ls) : IsTrimmed (joinLines ls) := by
  constructor
  · intro c hc
    cases ls with
    | nil => simp [joinLines] at hc
    | cons first ls =>
      obtain ⟨rest, hrest⟩ := prefix_joinLines first ls
      rw [← hrest, List.head?_append_of_ne_nil _ (h.head? first rfl)] at hc
      exact (h.isTrimmed first (by simp)).1 c hc
  · intro c hc
    rcases List.eq_nil_or_concat ls with rfl | ⟨ls, last, rfl⟩
    · simp [joinLines] at hc
    · rw [List.concat_eq_append] at h hc
      obtain ⟨rest, hrest⟩ := suffix_joinLines ls last
      rw [← hrest, List.getLast?_append_of_ne_nil _ (h.getLast? last (by simp))] at hc
      exact (h.isTrimmed last (by simp)).2 c hc

/-- The lines of a tidy text are those it was joined from. -/
lemma tidyLines_joinLines (h : AreTidy ls) : tidyLines (joinLines ls) = ls := by
  rw [tidyLines, h.isTrimmed_joinLines.trim_eq, h.lines_joinLines]
  have htrim : ls.map trim = ls.map id :=
    List.map_congr_left fun line hline => (h.isTrimmed line hline).trim_eq
  rw [htrim, List.map_id]

end AreTidy

/-- A tidy text has nothing left to be taken off. -/
theorem tidyLines_tidy (s : String) : tidyLines (tidy s).toList = tidyLines s.toList := by
  rw [tidy, String.toList_ofList, (areTidy_tidyLines s.toList).tidyLines_joinLines]

end CanonicalSdl.Text
