import CanonicalSdl.Proofs.Decimal.Layout
import CanonicalSdl.Proofs.Token.Lexing
import CanonicalSdl.Text.Quoted

/-!
# Literals with known tokens

The text of an integer is read as that integer, and the quoted form of a string as that string,
whatever characters the string holds.
-/

namespace CanonicalSdl.Token

open Decimal (head?_toDigits_ne_zero isDigit_of_mem_toDigits)

variable {rest : List Char} {c : Char}

/-! ### Integers -/

/-- Digits that do not begin with a zero can be the whole part of a number. -/
lemma isWholePart_of_head?_ne {digits : List Char} (hall : ∀ c ∈ digits, c.isDigit = true)
    (hne : digits ≠ []) (hhead : digits.head? ≠ some '0') : isWholePart digits = true := by
  fun_cases isWholePart digits with
  | case1 => exact absurd rfl hne
  | case2 => rfl
  | case3 c cs => simp_all

lemma isWholePart_toDigits (n : Nat) : isWholePart (Nat.toDigits 10 n) = true := by
  rcases Nat.eq_zero_or_pos n with rfl | hn
  · rfl
  · exact isWholePart_of_head?_ne (fun c => isDigit_of_mem_toDigits) Nat.toDigits_ne_nil
      (head?_toDigits_ne_zero hn)

/-- The digits of a number under a sign are read as the integer, if it fits. -/
lemma ofUnsigned?_toDigits (negative : Bool) (n : Nat) :
    ofUnsigned? negative (Nat.toDigits 10 n) = (Decimal.int64? negative n).map int := by
  have hall : ∀ c ∈ Nat.toDigits 10 n, c.isDigit = true := fun c => isDigit_of_mem_toDigits
  have hwhole : (Nat.toDigits 10 n).takeWhile Char.isDigit = Nat.toDigits 10 n :=
    List.takeWhile_eq_self_iff.2 hall
  have htail : (Nat.toDigits 10 n).dropWhile Char.isDigit = [] :=
    List.dropWhile_eq_nil_iff.2 hall
  rw [ofUnsigned?, hwhole, htail, isWholePart_toDigits, Decimal.valueOf_toDigits]
  rfl

lemma int64?_natAbs (i : Int64) :
    Decimal.int64? (decide (i.toInt < 0)) i.toInt.natAbs = some i := by
  have hlt := Int64.toInt_lt i
  have hle := Int64.le_toInt i
  rw [Decimal.int64?]
  by_cases h : i.toInt < 0
  · have habs : -(i.toInt.natAbs : Int) = i.toInt := by omega
    rw [if_pos (by simpa using h), if_pos (by simp only [Decimal.int64Negatives]; omega), habs,
      Int64.ofInt_toInt]
  · have habs : (i.toInt.natAbs : Int) = i.toInt := by omega
    rw [if_neg (by simpa using h), if_pos (by simp only [Decimal.int64Negatives]; omega), habs,
      Int64.ofInt_toInt]

/-- The text of an integer denotes it. -/
lemma ofNumber?_integer (i : Int64) : ofNumber? (NumberLayout.integer i.toInt) = some (int i) := by
  have hvalue := int64?_natAbs i
  rw [NumberLayout.integer]
  split
  next h =>
    rw [ofNumber?, ofUnsigned?_toDigits]
    simp_all
  next h =>
    have hminus : '-' ∉ Nat.toDigits 10 i.toInt.natAbs := by
      intro hmem
      exact absurd (isDigit_of_mem_toDigits hmem) (by decide)
    rw [ofNumber?, ofUnsigned?_toDigits]
    · simp_all
    · rintro cs hcs
      simp [hcs] at hminus

lemma integer_eq_cons (i : Int) :
    ∃ c cs, NumberLayout.integer i = c :: cs ∧ (c = '-' ∨ c.isDigit = true) ∧
      ∀ d ∈ cs, d.isDigit = true := by
  have hall : ∀ d ∈ Nat.toDigits 10 i.natAbs, d.isDigit = true := fun d => isDigit_of_mem_toDigits
  rw [NumberLayout.integer]
  split
  · exact ⟨'-', _, rfl, .inl rfl, hall⟩
  · cases hd : Nat.toDigits 10 i.natAbs with
    | nil => exact absurd hd Nat.toDigits_ne_nil
    | cons c cs =>
      exact ⟨c, cs, rfl, .inr (hall c (by simp [hd])), fun d h => hall d (by simp [hd, h])⟩

lemma isNameStart_eq_false_of_isDigit (h : c.isDigit = true) : isNameStart c = false := by
  have hu : c ∉ ['_'] := notMem_of_class h (by decide)
  have halpha : c.isAlpha = false := by
    by_contra hletter
    have hrange := toNat_of_isAlpha (by simpa using hletter)
    have hrange' := toNat_of_isDigit h
    omega
  simpa [isNameStart, halpha] using hu

lemma endsNumber_eq_false_of_isDigit (h : c.isDigit = true) : endsNumber c = false := by
  have hp : c ∉ [' ', '\t', '\r', '\n', ',', '#'] ++ punctuators := notMem_of_class h (by decide)
  simpa [endsNumber, and_assoc] using hp

lemma takeWhile_endsNumber_append {cs : List Char} (hcs : ∀ d ∈ cs, endsNumber d = false)
    (hr : BeginsBreak rest) : (cs ++ rest).takeWhile (!endsNumber ·) = cs :=
  takeWhile_append_of_head? (by simpa using hcs) fun d hd => by simp [hr d hd]

lemma dropWhile_endsNumber_append {cs : List Char} (hcs : ∀ d ∈ cs, endsNumber d = false)
    (hr : BeginsBreak rest) : (cs ++ rest).dropWhile (!endsNumber ·) = rest :=
  dropWhile_append_of_head? (by simpa using hcs) fun d hd => by simp [hr d hd]

/-- A text that begins like a number, and that nothing in it ends, is one token before a break, if
it denotes a number at all. -/
lemma tokenize?_number {cs : List Char} (hc : c = '-' ∨ c.isDigit = true)
    (hcs : ∀ d ∈ cs, endsNumber d = false) (hr : BeginsBreak rest) :
    tokenize? (c :: (cs ++ rest)) =
      (ofNumber? (c :: cs)).bind fun t => (tokenize? rest).map (t :: ·) := by
  have hc' : (c = '-' || c.isDigit) = true := by simpa using hc
  have hn : isNameStart c = false := by
    rcases hc with rfl | hc
    · rfl
    · exact isNameStart_eq_false_of_isDigit hc
  have ho : c ∉ [' ', '\t', '\r', '\n', ',', '\ufeff', '#', '"', '.'] ++ punctuators :=
    notMem_of_class (p := fun c => c = '-' || c.isDigit) hc' (by decide)
  simp only [List.mem_append, List.mem_cons, List.not_mem_nil, or_false, not_or] at ho
  have hscan : scan? (c :: (cs ++ rest)) = (ofNumber? (c :: cs)).map fun t => (t, rest) := by
    rw [scan?_cons (by simp [ho]) (by simp [ho]), if_neg (by simpa using ho.2),
      if_neg (by simp [hn]), if_pos hc', takeWhile_endsNumber_append hcs hr,
      dropWhile_endsNumber_append hcs hr]
  rw [tokenize?_cons (by simp [isIgnored, ho]) (by simp [ho]), hscan, Option.bind_map]
  rfl

/-- An integer is one token. -/
lemma lexesBeforeBreak_integer (i : Int64) :
    LexesBeforeBreak (NumberLayout.integer i.toInt) [int i] := by
  intro rest hr
  have hnumber := ofNumber?_integer i
  obtain ⟨c, cs, hi, hc, hcs⟩ := integer_eq_cons i.toInt
  rw [hi] at hnumber ⊢
  have hends : ∀ d ∈ cs, endsNumber d = false :=
    fun d hd => endsNumber_eq_false_of_isDigit (hcs d hd)
  rw [List.cons_append, tokenize?_number hc hends hr, hnumber]
  rfl

/-! ### Strings -/

/-- A numeric escape of a control character denotes it. -/
lemma codePoint?_fourHexDigits {c : Char} (h : Text.isControl c = true) :
    ∃ w x y z, Text.fourHexDigits c.toNat = [w, x, y, z] ∧ codePoint? [w, x, y, z] = some c := by
  have hlt : c.toNat < 0xA0 := by
    simp only [Text.isControl, Bool.or_eq_true, Bool.and_eq_true, decide_eq_true_eq] at h
    omega
  have table : ∀ n < 0xA0, (Text.fourHexDigits n).length = 4 ∧
      codePoint? (Text.fourHexDigits n) = some (Char.ofNat n) := by
    decide +kernel
  obtain ⟨hlength, hcode⟩ := table c.toNat hlt
  rw [Char.ofNat_toNat] at hcode
  obtain ⟨w, x, y, z, hdigits⟩ := List.length_eq_four.1 hlength
  exact ⟨w, x, y, z, hdigits, hdigits ▸ hcode⟩

/-- The escape of a character is read as the character. -/
lemma scanString?_escape (c : Char) (rest : List Char) :
    scanString? (Text.escape c ++ rest) =
      (scanString? rest).map fun read => (c :: read.1, read.2) := by
  fun_cases Text.escape c with
  | case6 hr hn ht hb hq hcontrol =>
    -- a control character is written as its code point
    obtain ⟨w, x, y, z, hdigits, hcode⟩ := codePoint?_fourHexDigits hcontrol
    simp only [hdigits, List.cons_append, List.nil_append]
    rw [scanString?, hcode]
    cases scanString? rest <;> rfl
  | case7 hr hn ht hb hq hcontrol =>
    rw [List.cons_append, List.nil_append, scanString?]
    · cases scanString? rest <;> rfl
    all_goals simp [*]
  | _ =>
    subst c
    rw [List.cons_append, List.cons_append, List.nil_append, scanString?]
    · cases scanString? rest <;> rfl
    all_goals simp

lemma scanString?_flatMap_escape (cs rest : List Char) :
    scanString? (cs.flatMap Text.escape ++ '"' :: rest) = some (cs, rest) := by
  induction cs with
  | nil => rfl
  | cons c cs ih => rw [List.flatMap_cons, List.append_assoc, scanString?_escape, ih]; rfl

lemma toList_quoted (s : String) :
    (Text.quoted s).toList = '"' :: (s.toList.flatMap Text.escape ++ ['"']) := by
  simp [Text.quoted]

lemma escape_ne_nil (c : Char) : Text.escape c ≠ [] := by
  fun_cases Text.escape c <;> simp

/-- The escape of a character does not begin with a quote. -/
lemma head?_escape_ne_quote (c : Char) : (Text.escape c).head? ≠ some '"' := by
  fun_cases Text.escape c <;> simp_all

/-- A quoted string is one token. -/
lemma lexesBeforeBreak_quoted (s : String) :
    LexesBeforeBreak (Text.quoted s).toList [string s] := by
  intro rest hr
  have hscan : scan? ('"' :: (s.toList.flatMap Text.escape ++ '"' :: rest)) =
      some (string s, rest) := by
    rw [scan?, scanString?_flatMap_escape]
    · simp
    · -- two more quotes come neither from an escape nor from what follows the string
      rintro cs hcs
      cases hs : s.toList with
      | nil =>
        rw [hs, List.flatMap_nil, List.nil_append, List.cons.injEq] at hcs
        rw [hcs.2] at hr
        exact absurd (beginsBreak_cons.1 hr) (by decide)
      | cons c tail =>
        have hhead := congrArg List.head? hcs
        rw [hs, List.flatMap_cons, List.append_assoc,
          List.head?_append_of_ne_nil _ (escape_ne_nil c)] at hhead
        exact head?_escape_ne_quote c hhead
  rw [toList_quoted, List.cons_append, List.append_assoc, List.singleton_append,
    tokenize?_of_scan? (by decide) (by decide) hscan]
  rfl

end CanonicalSdl.Token
