import CanonicalSdl.Token.Lexer
import Mathlib.Data.List.Basic

/-!
# Texts with known tokens

A text lexes to given tokens if, however it goes on, exactly these tokens are read from it first.
A name or a number has its tokens only before a break, since it would take further characters
along otherwise. Both notions are closed under putting texts one after another.
-/

namespace CanonicalSdl.Token

/-- A text begins with a break if it is empty or its first character ends a number. Such a
character ends a name as well. -/
def BeginsBreak (cs : List Char) : Prop :=
  ∀ c ∈ cs.head?, endsNumber c = true

/-- Whatever follows a text, its tokens are the given ones. -/
def Lexes (cs : List Char) (ts : List Token) : Prop :=
  ∀ rest, tokenize? (cs ++ rest) = (tokenize? rest).map (ts ++ ·)

/-- Whatever follows a text after a break, its tokens are the given ones. -/
def LexesBeforeBreak (cs : List Char) (ts : List Token) : Prop :=
  ∀ rest, BeginsBreak rest → tokenize? (cs ++ rest) = (tokenize? rest).map (ts ++ ·)

variable {xs ys rest : List Char} {ts us : List Token} {c : Char} {t : Token}

/-! ### Breaks -/

@[simp] lemma beginsBreak_nil : BeginsBreak [] := by
  simp [BeginsBreak]

@[simp] lemma beginsBreak_cons : BeginsBreak (c :: xs) ↔ endsNumber c = true := by
  simp [BeginsBreak]

lemma BeginsBreak.append (hx : BeginsBreak xs) (hy : BeginsBreak ys) : BeginsBreak (xs ++ ys) := by
  cases xs with
  | nil => exact hy
  | cons c xs => simpa using hx

lemma BeginsBreak.append_left (hx : BeginsBreak xs) (hne : xs ≠ []) (ys : List Char) :
    BeginsBreak (xs ++ ys) := by
  cases xs with
  | nil => contradiction
  | cons c xs => simpa using hx

/-- A character of a class is none of the characters outside it. -/
lemma notMem_of_class {p : Char → Bool} {ds : List Char} (h : p c = true)
    (hds : ds.any p = false) : c ∉ ds := by
  intro hc
  rw [List.any_eq_false] at hds
  exact hds c hc h

/-- A break ends a name. -/
lemma isNamePart_eq_false_of_endsNumber (h : endsNumber c = true) : isNamePart c = false := by
  by_contra hpart
  have hc : c ∉ [' ', '\t', '\r', '\n', ',', '#'] ++ punctuators :=
    notMem_of_class (by simpa using hpart) (by decide)
  apply hc
  simpa [endsNumber, or_assoc] using h

lemma takeWhile_append_of_head? {α : Type} {p : α → Bool} {xs rest : List α}
    (hx : ∀ a ∈ xs, p a = true) (hr : ∀ a ∈ rest.head?, p a = false) :
    (xs ++ rest).takeWhile p = xs := by
  rw [List.takeWhile_append_of_pos hx]
  cases rest with
  | nil => simp
  | cons a rest => simp [hr a (by simp)]

lemma dropWhile_append_of_head? {α : Type} {p : α → Bool} {xs rest : List α}
    (hx : ∀ a ∈ xs, p a = true) (hr : ∀ a ∈ rest.head?, p a = false) :
    (xs ++ rest).dropWhile p = rest := by
  rw [List.dropWhile_append_of_pos hx]
  cases rest with
  | nil => rfl
  | cons a rest => simp [hr a (by simp)]

lemma takeWhile_isNamePart_append (hx : ∀ c ∈ xs, isNamePart c = true) (hr : BeginsBreak rest) :
    (xs ++ rest).takeWhile isNamePart = xs :=
  takeWhile_append_of_head? hx fun c hc => isNamePart_eq_false_of_endsNumber (hr c hc)

lemma dropWhile_isNamePart_append (hx : ∀ c ∈ xs, isNamePart c = true) (hr : BeginsBreak rest) :
    (xs ++ rest).dropWhile isNamePart = rest :=
  dropWhile_append_of_head? hx fun c hc => isNamePart_eq_false_of_endsNumber (hr c hc)

/-! ### Single steps of the lexer -/

lemma tokenize?_nil : tokenize? [] = some [] := by
  rw [tokenize?]; rfl

lemma tokenize?_cons_of_isIgnored (h : isIgnored c = true) (rest : List Char) :
    tokenize? (c :: rest) = tokenize? rest := by
  have hc : c ≠ '#' := by rintro rfl; exact absurd h (by decide)
  have hskip : skip false (c :: rest) = skip false rest := by simp [skip, hc, h]
  rw [tokenize?, tokenize?, hskip]

/-- A character that is neither skipped nor begins a comment begins the next token. -/
lemma tokenize?_cons {cs : List Char} (hi : isIgnored c = false) (hc : c ≠ '#') :
    tokenize? (c :: cs) =
      (scan? (c :: cs)).bind fun read => (tokenize? read.2).map (read.1 :: ·) := by
  have hskip : skip false (c :: cs) = c :: cs := by simp [skip, hc, hi]
  rw [tokenize?, if_neg (by simp [hskip])]
  split
  next h =>
    rw [hskip] at h
    rw [h, Option.bind_none]
  next t rest h =>
    rw [hskip] at h
    rw [h, Option.bind_some]

lemma tokenize?_of_scan? {cs : List Char} (hi : isIgnored c = false) (hc : c ≠ '#')
    (hs : scan? (c :: cs) = some (t, rest)) :
    tokenize? (c :: cs) = (tokenize? rest).map (t :: ·) := by
  rw [tokenize?_cons hi hc, hs, Option.bind_some]

/-! ### Putting texts together -/

lemma Lexes.beforeBreak (h : Lexes xs ts) : LexesBeforeBreak xs ts :=
  fun rest _ => h rest

lemma lexes_nil : Lexes [] [] := by
  intro rest
  simp

lemma Lexes.append (hx : Lexes xs ts) (hy : Lexes ys us) : Lexes (xs ++ ys) (ts ++ us) := by
  intro rest
  rw [List.append_assoc, hx, hy, Option.map_map]
  congr 1
  funext tokens
  simp

lemma Lexes.append_beforeBreak (hx : Lexes xs ts) (hy : LexesBeforeBreak ys us) :
    LexesBeforeBreak (xs ++ ys) (ts ++ us) := by
  intro rest hr
  rw [List.append_assoc, hx, hy rest hr, Option.map_map]
  congr 1
  funext tokens
  simp

lemma LexesBeforeBreak.append (hx : LexesBeforeBreak xs ts) (hb : BeginsBreak ys)
    (hy : LexesBeforeBreak ys us) : LexesBeforeBreak (xs ++ ys) (ts ++ us) := by
  intro rest hr
  rw [List.append_assoc, hx _ (hb.append hr), hy rest hr, Option.map_map]
  congr 1
  funext tokens
  simp

lemma LexesBeforeBreak.append_lexes (hx : LexesBeforeBreak xs ts) (hb : BeginsBreak ys)
    (hne : ys ≠ []) (hy : Lexes ys us) : Lexes (xs ++ ys) (ts ++ us) := by
  intro rest
  rw [List.append_assoc, hx _ (hb.append_left hne rest), hy rest, Option.map_map]
  congr 1
  funext tokens
  simp

section

variable {α : Type} {text : α → List Char} {tokens : α → List Token} {a : α} {as : List α}

/-- Texts that lex on their own lex one after another. -/
lemma lexes_flatMap (h : ∀ a ∈ as, Lexes (text a) (tokens a)) :
    Lexes (as.flatMap text) (as.flatMap tokens) := by
  induction as with
  | nil => exact lexes_nil
  | cons a as ih =>
    simp only [List.flatMap_cons]
    exact (h a (by simp)).append (ih fun b hb => h b (by simp [hb]))

lemma beginsBreak_flatMap (h : ∀ a ∈ as, BeginsBreak (text a)) : BeginsBreak (as.flatMap text) := by
  induction as with
  | nil => exact beginsBreak_nil
  | cons a as ih => exact (h a (by simp)).append (ih fun b hb => h b (by simp [hb]))

/-- Texts that lex before a break, and begin with one themselves, lex one after another. -/
lemma lexesBeforeBreak_flatMap (hb : ∀ a ∈ as, BeginsBreak (text a))
    (h : ∀ a ∈ as, LexesBeforeBreak (text a) (tokens a)) :
    LexesBeforeBreak (as.flatMap text) (as.flatMap tokens) := by
  induction as with
  | nil => exact lexes_nil.beforeBreak
  | cons a as ih =>
    have htail : ∀ b ∈ as, BeginsBreak (text b) := fun b hmem => hb b (by simp [hmem])
    simp only [List.flatMap_cons]
    exact (h a (by simp)).append (beginsBreak_flatMap htail)
      (ih htail fun b hmem => h b (by simp [hmem]))

/-- Texts that lex before a break lex with separators between them, if these begin with one. -/
lemma lexesBeforeBreak_intercalate_cons {separator : List Char} (hs : Lexes separator us)
    (hb : BeginsBreak separator) (hne : separator ≠ [])
    (h : ∀ b ∈ a :: as, LexesBeforeBreak (text b) (tokens b)) :
    LexesBeforeBreak (separator.intercalate ((a :: as).map text))
      (tokens a ++ as.flatMap fun b => us ++ tokens b) := by
  induction as generalizing a with
  | nil => simpa using h a (by simp)
  | cons b as ih =>
    have hmany := ih fun c hc => h c (List.mem_cons_of_mem a hc)
    rw [List.map_cons, List.map_cons, List.intercalate_cons_cons, List.flatMap_cons,
      List.append_assoc, List.append_assoc us]
    rw [List.map_cons] at hmany
    exact (h a (by simp)).append (hb.append_left hne _) (hs.append_beforeBreak hmany)

lemma lexesBeforeBreak_intercalate {separator : List Char} (hs : Lexes separator [])
    (hb : BeginsBreak separator) (hne : separator ≠ [])
    (h : ∀ a ∈ as, LexesBeforeBreak (text a) (tokens a)) :
    LexesBeforeBreak (separator.intercalate (as.map text)) (as.flatMap tokens) := by
  cases as with
  | nil => exact lexes_nil.beforeBreak
  | cons a as => exact lexesBeforeBreak_intercalate_cons hs hb hne h

end

/-! ### Skipped characters, punctuators and names -/

lemma Lexes.cons_ignored (h : isIgnored c = true) (hx : Lexes xs ts) : Lexes (c :: xs) ts := by
  intro rest
  rw [List.cons_append, tokenize?_cons_of_isIgnored h, hx]

lemma LexesBeforeBreak.cons_ignored (h : isIgnored c = true) (hx : LexesBeforeBreak xs ts) :
    LexesBeforeBreak (c :: xs) ts := by
  intro rest hr
  rw [List.cons_append, tokenize?_cons_of_isIgnored h, hx rest hr]

/-- Blanks before a text. -/
lemma Lexes.cons_space (hx : Lexes xs ts) : Lexes (' ' :: xs) ts :=
  hx.cons_ignored rfl

lemma LexesBeforeBreak.cons_space (hx : LexesBeforeBreak xs ts) :
    LexesBeforeBreak (' ' :: xs) ts :=
  hx.cons_ignored rfl

lemma beginsBreak_space_cons (cs : List Char) : BeginsBreak (' ' :: cs) :=
  beginsBreak_cons.2 rfl

lemma lexes_of_isIgnored (h : ∀ c ∈ xs, isIgnored c = true) : Lexes xs [] := by
  induction xs with
  | nil => exact lexes_nil
  | cons c xs ih => exact (ih fun d hd => h d (by simp [hd])).cons_ignored (h c (by simp))

/-- What is read from a character that begins no string and is no dot. -/
lemma scan?_cons (hq : c ≠ '"') (hd : c ≠ '.') (cs : List Char) :
    scan? (c :: cs) =
      if punctuators.contains c then some (punctuator c, cs)
      else if isNameStart c then
        some (name (String.ofList (c :: cs.takeWhile isNamePart)), cs.dropWhile isNamePart)
      else if c = '-' || c.isDigit then
        (ofNumber? (c :: cs.takeWhile (!endsNumber ·))).map fun token =>
          (token, cs.dropWhile (!endsNumber ·))
      else none := by
  rw [scan?]
  · simp [hq]
  · simp [hq]
  · simp [hd]

lemma tokenize?_cons_punctuator (h : c ∈ punctuators) (rest : List Char) :
    tokenize? (c :: rest) = (tokenize? rest).map (punctuator c :: ·) := by
  have hall :
      (punctuators.all fun d => !isIgnored d && d != '#' && d != '"' && d != '.') = true := by
    decide
  have hc := List.all_eq_true.1 hall c h
  simp only [Bool.and_eq_true, Bool.not_eq_true', bne_iff_ne] at hc
  obtain ⟨⟨⟨hignored, hhash⟩, hquote⟩, hdot⟩ := hc
  apply tokenize?_of_scan? hignored hhash
  rw [scan?_cons hquote hdot, if_pos (by simpa using h)]

lemma Lexes.cons_punctuator (h : c ∈ punctuators) (hx : Lexes xs ts) :
    Lexes (c :: xs) (punctuator c :: ts) := by
  intro rest
  rw [List.cons_append, tokenize?_cons_punctuator h, hx, Option.map_map]
  rfl

lemma LexesBeforeBreak.cons_punctuator (h : c ∈ punctuators) (hx : LexesBeforeBreak xs ts) :
    LexesBeforeBreak (c :: xs) (punctuator c :: ts) := by
  intro rest hr
  rw [List.cons_append, tokenize?_cons_punctuator h, hx rest hr, Option.map_map]
  rfl

lemma beginsBreak_punctuator_cons (h : c ∈ punctuators) (cs : List Char) : BeginsBreak (c :: cs) :=
  beginsBreak_cons.2 (by simp [endsNumber, h])

lemma lexes_punctuator (h : c ∈ punctuators) : Lexes [c] [punctuator c] :=
  lexes_nil.cons_punctuator h

/-- A punctuator between spaces. -/
lemma lexes_spacedPunctuator (h : c ∈ punctuators) : Lexes [' ', c, ' '] [punctuator c] :=
  (lexes_nil.cons_space.cons_punctuator h).cons_space

/-- A name is one token. -/
lemma lexesBeforeBreak_name {s : String} (h : isName s = true) :
    LexesBeforeBreak s.toList [name s] := by
  intro rest hr
  rw [isName] at h
  split at h
  · contradiction
  next c cs hs =>
    obtain ⟨hc, hcs⟩ : isNameStart c = true ∧ ∀ d ∈ cs, isNamePart d = true := by simpa using h
    have hp : c ∉ punctuators := notMem_of_class hc (by decide)
    have ho : c ∉ [' ', '\t', '\r', '\n', ',', '\ufeff', '#', '"', '.'] :=
      notMem_of_class hc (by decide)
    simp only [List.mem_cons, List.not_mem_nil, or_false, not_or] at ho
    have hscan : scan? (c :: (cs ++ rest)) = some (name s, rest) := by
      rw [scan?_cons (by simp [ho]) (by simp [ho]), if_neg (by simpa using hp), if_pos hc,
        takeWhile_isNamePart_append hcs hr, dropWhile_isNamePart_append hcs hr, ← hs,
        String.ofList_toList]
    rw [hs, List.cons_append, tokenize?_of_scan? (by simp [isIgnored, ho]) (by simp [ho]) hscan]
    rfl

/-- A keyword and a space after it. -/
lemma lexes_keyword {s : String} (h : isName s = true) : Lexes (s.toList ++ [' ']) [name s] :=
  (lexesBeforeBreak_name h).append_lexes (beginsBreak_space_cons []) (List.cons_ne_nil _ _)
    lexes_nil.cons_space

/-- A keyword between spaces. -/
lemma lexes_spacedKeyword {s : String} (h : isName s = true) :
    Lexes (' ' :: (s.toList ++ [' '])) [name s] :=
  (lexes_keyword h).cons_space

/-- Letters lie in these two ranges. -/
lemma toNat_of_isAlpha (h : c.isAlpha = true) :
    65 ≤ c.toNat ∧ c.toNat ≤ 90 ∨ 97 ≤ c.toNat ∧ c.toNat ≤ 122 := by
  have hletter : c.isUpper = true ∨ c.isLower = true := by rwa [← Bool.or_eq_true]
  rcases hletter with hupper | hlower
  · obtain ⟨ha, hz⟩ := of_decide_eq_true hupper
    exact .inl ⟨UInt32.le_iff_toNat_le.1 ha, UInt32.le_iff_toNat_le.1 hz⟩
  · obtain ⟨ha, hz⟩ := Bool.and_eq_true_iff.1 hlower
    exact .inr ⟨UInt32.le_iff_toNat_le.1 (of_decide_eq_true ha),
      UInt32.le_iff_toNat_le.1 (of_decide_eq_true hz)⟩

/-- Digits lie in this range. -/
lemma toNat_of_isDigit (h : c.isDigit = true) : 48 ≤ c.toNat ∧ c.toNat ≤ 57 :=
  Char.isDigit_iff_toNat.1 h

/-- A blank is neither a letter nor a digit, nor the underscore. -/
lemma isNamePart_eq_false_of_isBlank (h : Text.isBlank c = true) : isNamePart c = false := by
  have hu : c ∉ ['_'] := notMem_of_class h (by decide)
  simp only [Text.isBlank, Text.inRanges, Text.blankRanges, List.any_cons, List.any_nil,
    Bool.or_eq_true, Bool.and_eq_true, decide_eq_true_eq, Bool.false_eq_true, or_false] at h
  have halpha : c.isAlpha = false := by
    by_contra hletter
    have hrange := toNat_of_isAlpha (by simpa using hletter)
    omega
  have hdigit : c.isDigit = false := by
    by_contra hdigit
    have hrange := toNat_of_isDigit (by simpa using hdigit)
    omega
  simpa [isNamePart, Char.isAlphanum, halpha, hdigit] using hu

lemma isNamePart_of_isNameStart (h : isNameStart c = true) : isNamePart c = true := by
  simp only [isNameStart, isNamePart, Char.isAlphanum, Bool.or_eq_true, decide_eq_true_eq] at h ⊢
  tauto

/-- Blanks that the lexer does not skip begin no token, so that a blank text has none. -/
lemma eq_nil_of_tokenize?_of_isBlank (hblank : ∀ c ∈ xs, Text.isBlank c = true)
    (h : tokenize? xs = some ts) : ts = [] := by
  induction xs with
  | nil => simpa [tokenize?_nil] using h.symm
  | cons c xs ih =>
    have hc : Text.isBlank c = true := hblank c (by simp)
    by_cases hi : isIgnored c = true
    · rw [tokenize?_cons_of_isIgnored hi] at h
      exact ih (fun d hd => hblank d (by simp [hd])) h
    · -- there is no token that begins with such a blank
      have ho : c ∉ ['#', '"', '.', '-'] ++ punctuators := notMem_of_class hc (by decide)
      simp only [List.cons_append, List.mem_cons, not_or] at ho
      have hpart := isNamePart_eq_false_of_isBlank hc
      have hstart : isNameStart c = false := by
        by_contra hstart
        simp [isNamePart_of_isNameStart (by simpa using hstart)] at hpart
      have hdigit : c.isDigit = false := by
        by_contra hdigit
        simp [isNamePart, Char.isAlphanum, hdigit] at hpart
      have hscan : scan? (c :: xs) = none := by
        rw [scan?_cons ho.2.1 ho.2.2.1]
        simp_all
      rw [tokenize?_cons (by simpa using hi) ho.1, hscan] at h
      contradiction

end CanonicalSdl.Token
