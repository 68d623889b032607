import CanonicalSdl.Proofs.Decimal.Value
import CanonicalSdl.Proofs.Token.Literal
import CanonicalSdl.Value

/-!
# The tokens of floating-point numbers

What the standard text of a floating-point number is read as. A finite number is read back, unless
its text has an exponent that begins with a nine; the text of a number that is not finite is read as
a name or not at all.
-/

namespace CanonicalSdl

open Decimal (valueOf isDigit_of_mem_toDigits isDigit_of_mem_digits)

namespace Decimal

variable {d : Decimal} {k n : Nat} {e : Int}

/-! ### Decimals with one value -/

lemma value_pow_mul (k n : Nat) (e : Int) :
    (⟨10 ^ k * n, e⟩ : Decimal).value = (⟨n, e + k⟩ : Decimal).value := by
  simp only [value]
  rw [zpow_add₀ (by norm_num), zpow_natCast]
  push_cast
  ring

/-- The digits and the place of the point give the number. -/
lemma value_digits (d : Decimal) :
    (⟨valueOf d.digits, d.point - d.digits.length⟩ : Decimal).value = d.value := by
  obtain ⟨zeros, hwidth, hsignificand⟩ := exists_significand_eq d
  have hexponent : d.point - d.digits.length = d.exponent + zeros := by
    rw [point, hwidth]
    omega
  rw [hexponent, ← value_pow_mul, ← hsignificand]

end Decimal

namespace Token

open Decimal (readAfterWhole? readExponentPart? readExponent? readDigits?)

variable {c : Char} {whole fraction tail rest digits : List Char} {point : Int}

/-! ### Forms of literals -/

/-- A whole part and something else after it are read as a floating-point number. -/
lemma ofUnsigned?_append (negative : Bool) (hwhole : isWholePart whole = true)
    (hdigits : ∀ c ∈ whole, c.isDigit = true) (hne : tail ≠ [])
    (htail : ∀ c ∈ tail.head?, c.isDigit = false) :
    ofUnsigned? negative (whole ++ tail) =
      if isFloatTail tail then
        (readAfterWhole? whole tail).map fun d => float (.ofDecimal negative d)
      else none := by
  simp only [ofUnsigned?, takeWhile_append_of_head? hdigits htail,
    dropWhile_append_of_head? hdigits htail, hwhole, Bool.not_true, Bool.false_eq_true, ↓reduceIte,
    List.isEmpty_iff, hne]

lemma isFloatTail_point (hne : fraction ≠ []) (hdigits : ∀ c ∈ fraction, c.isDigit = true)
    (hrest : ∀ c ∈ rest.head?, c.isDigit = false) :
    isFloatTail ('.' :: (fraction ++ rest)) = isExponentPart rest := by
  simp [isFloatTail, takeWhile_append_of_head? hdigits hrest,
    dropWhile_append_of_head? hdigits hrest, hne]

lemma readAfterWhole?_point (whole : List Char) (hne : fraction ≠ [])
    (hdigits : ∀ c ∈ fraction, c.isDigit = true) (hrest : ∀ c ∈ rest.head?, c.isDigit = false) :
    readAfterWhole? whole ('.' :: (fraction ++ rest)) =
      (readExponentPart? rest).map fun e => ⟨valueOf (whole ++ fraction), e - fraction.length⟩ := by
  simp [readAfterWhole?, takeWhile_append_of_head? hdigits hrest,
    dropWhile_append_of_head? hdigits hrest, hne]

/-- A number with a point and no exponent. -/
lemma ofUnsigned?_point (negative : Bool) (hwhole : isWholePart whole = true)
    (hdigits : ∀ c ∈ whole, c.isDigit = true) (hne : fraction ≠ [])
    (hfraction : ∀ c ∈ fraction, c.isDigit = true) :
    ofUnsigned? negative (whole ++ '.' :: fraction) =
      some (float (.ofDecimal negative ⟨valueOf (whole ++ fraction), -fraction.length⟩)) := by
  have hrest : ∀ c ∈ ([] : List Char).head?, c.isDigit = false := by simp
  have htail := isFloatTail_point hne hfraction hrest
  have hread := readAfterWhole?_point whole hne hfraction hrest
  rw [List.append_nil] at htail hread
  rw [ofUnsigned?_append negative hwhole hdigits (List.cons_ne_nil _ _) (by simp), htail, hread]
  simp [isExponentPart, readExponentPart?]

/-- One digit, perhaps others after a point, and an exponent. -/
lemma ofUnsigned?_exponential (negative : Bool) (hc : c.isDigit = true) (hzero : c ≠ '0')
    (hfraction : ∀ c ∈ fraction, c.isDigit = true) (exponent : List Char) :
    ofUnsigned? negative
        (c :: ((if fraction.isEmpty then [] else '.' :: fraction) ++ 'e' :: exponent)) =
      if isExponent exponent then
        (readExponent? exponent).map fun e =>
          float (.ofDecimal negative ⟨valueOf (c :: fraction), e - fraction.length⟩)
      else none := by
  have hdigit : ∀ d ∈ [c], d.isDigit = true := by simpa using hc
  have hwhole : isWholePart [c] = true :=
    isWholePart_of_head?_ne hdigit (List.cons_ne_nil c []) (by simpa using hzero)
  have he : ∀ d ∈ ('e' :: exponent).head?, d.isDigit = false := by simp
  cases hf : fraction with
  | nil =>
    have hread := ofUnsigned?_append negative hwhole hdigit (List.cons_ne_nil _ _) he
    simpa [isFloatTail, isExponentPart, readAfterWhole?, readExponentPart?, Function.comp_def]
      using hread
  | cons d ds =>
    have hne : fraction ≠ [] := by simp [hf]
    have hpoint : ∀ c ∈ ('.' :: (fraction ++ 'e' :: exponent)).head?, c.isDigit = false := by simp
    have hread := ofUnsigned?_append negative hwhole hdigit (List.cons_ne_nil _ _) hpoint
    rw [isFloatTail_point hne hfraction he, readAfterWhole?_point [c] hne hfraction he] at hread
    simpa [hf, isExponentPart, readExponentPart?, Function.comp_def] using hread

/-! ### Exponents -/

lemma readDigits?_toDigits (n : Nat) : readDigits? (Nat.toDigits 10 n) = some n := by
  have hdigits : (Nat.toDigits 10 n).all Char.isDigit = true :=
    List.all_eq_true.2 fun c => isDigit_of_mem_toDigits
  simp [readDigits?, hdigits, Decimal.valueOf_toDigits]

lemma readExponent?_integer (e : Int) : readExponent? (NumberLayout.integer e) = some e := by
  rw [NumberLayout.integer]
  split
  next h =>
    simp [readExponent?, readDigits?_toDigits, abs_of_neg h]
  next h =>
    -- the digits are not taken for a sign
    have hsign (c : Char) (hc : c.isDigit = false) (cs : List Char) :
        Nat.toDigits 10 e.natAbs ≠ c :: cs := by
      intro hcs
      have := isDigit_of_mem_toDigits (c := c) (n := e.natAbs) (by simp [hcs])
      simp [hc] at this
    rw [readExponent?, readDigits?_toDigits]
    · simp [abs_of_nonneg (Int.not_lt.1 h)]
    · exact fun cs => hsign '-' (by decide) cs
    · exact fun cs => hsign '+' (by decide) cs

/-! ### Finite numbers -/

/-- Under either sign, a text is read as the floating-point number nearest to a given one. -/
def ReadsAs (cs : List Char) (r : ℚ) : Prop :=
  ∃ d : Decimal, d.value = r ∧
    ∀ negative, ofUnsigned? negative cs = some (float (.ofDecimal negative d))

/-- A text that is read as a decimal is read as every decimal with the same value. -/
lemma ReadsAs.ofUnsigned?_eq {cs : List Char} {d : Decimal} (h : ReadsAs cs d.value)
    (negative : Bool) : ofUnsigned? negative cs = some (float (.ofDecimal negative d)) := by
  obtain ⟨d', hvalue, hread⟩ := h
  rw [hread, Binary64.ofDecimal, Decimal.magnitude_congr hvalue, ← Binary64.ofDecimal]

lemma readsAs_point (hwhole : isWholePart whole = true) (hdigits : ∀ c ∈ whole, c.isDigit = true)
    (hne : fraction ≠ []) (hfraction : ∀ c ∈ fraction, c.isDigit = true) :
    ReadsAs (whole ++ '.' :: fraction)
      (⟨valueOf (whole ++ fraction), -fraction.length⟩ : Decimal).value :=
  ⟨_, rfl, fun negative => ofUnsigned?_point negative hwhole hdigits hne hfraction⟩

lemma isDigit_of_mem_replicate_zero {n : Nat} : ∀ c ∈ List.replicate n '0', c.isDigit = true := by
  intro c hc
  rw [List.eq_of_mem_replicate hc]
  decide

section Positional

variable {layout : NumberLayout} (hdigits : ∀ c ∈ digits, c.isDigit = true) (hne : digits ≠ [])
  (hhead : digits.head? ≠ some '0')

include hdigits hne

lemma readsAs_positional_of_nonpos (hpoint : point ≤ 0) :
    ReadsAs (layout.positional digits point)
      (⟨valueOf digits, point - digits.length⟩ : Decimal).value := by
  have hfraction : ∀ c ∈ List.replicate (-point).toNat '0' ++ digits, c.isDigit = true :=
    List.forall_mem_append.2 ⟨isDigit_of_mem_replicate_zero, hdigits⟩
  have hvalue : valueOf (['0'] ++ (List.replicate (-point).toNat '0' ++ digits)) =
      valueOf digits := by
    rw [← List.append_assoc, List.singleton_append, ← List.replicate_succ,
      Decimal.valueOf_replicate_append]
  have hexponent : -((List.replicate (-point).toNat '0' ++ digits).length : Int) =
      point - digits.length := by
    rw [List.length_append, List.length_replicate]
    omega
  rw [NumberLayout.positional_of_nonpos hpoint, ← hvalue, ← hexponent]
  exact readsAs_point rfl (isDigit_of_mem_replicate_zero (n := 1)) (by simp [hne]) hfraction

include hhead

lemma readsAs_positional_of_lt (hpoint : 0 < point) (hlength : point.toNat < digits.length) :
    ReadsAs (layout.positional digits point)
      (⟨valueOf digits, point - digits.length⟩ : Decimal).value := by
  have htake : ∀ c ∈ digits.take point.toNat, c.isDigit = true :=
    fun c hc => hdigits c (List.mem_of_mem_take hc)
  have hdrop : ∀ c ∈ digits.drop point.toNat, c.isDigit = true :=
    fun c hc => hdigits c (List.mem_of_mem_drop hc)
  have hwhole : isWholePart (digits.take point.toNat) = true := by
    apply isWholePart_of_head?_ne htake
    · simp [hne, hpoint]
    · rwa [List.head?_take, if_neg (by omega)]
  have hread := readsAs_point hwhole htake (by simpa using hlength) hdrop
  have hexponent : -((digits.drop point.toNat).length : Int) = point - digits.length := by
    rw [List.length_drop]
    omega
  rwa [List.take_append_drop, hexponent, ← NumberLayout.positional_of_lt hpoint hlength] at hread

lemma readsAs_positional_of_length_le (halways : layout.fractionAlways = true) (hpoint : 0 < point)
    (hlength : digits.length ≤ point.toNat) :
    ReadsAs (layout.positional digits point)
      (⟨valueOf digits, point - digits.length⟩ : Decimal).value := by
  -- as many zeros are put in as lie between the last digit and the point, and one after it
  generalize hk : point.toNat - digits.length = k
  have hall : ∀ c ∈ digits ++ List.replicate k '0', c.isDigit = true :=
    List.forall_mem_append.2 ⟨hdigits, isDigit_of_mem_replicate_zero⟩
  have hwhole : isWholePart (digits ++ List.replicate k '0') = true := by
    apply isWholePart_of_head?_ne hall
    · simp [hne]
    · rwa [List.head?_append_of_ne_nil _ hne]
  have hread := readsAs_point hwhole hall (List.cons_ne_nil '0' [])
    (isDigit_of_mem_replicate_zero (n := 1))
  have hexponent : -(['0'].length : Int) + (k + 1 : Nat) = point - digits.length := by
    simp only [List.length_singleton]
    omega
  rwa [List.append_assoc digits _ ['0'], ← List.replicate_succ', Decimal.valueOf_append_replicate,
    Decimal.value_pow_mul, hexponent, ← hk,
    ← NumberLayout.positional_of_length_le halways hpoint hlength] at hread

/-- A number without an exponent is read as the number of its digits. -/
lemma readsAs_positional (halways : layout.fractionAlways = true) (point : Int) :
    ReadsAs (layout.positional digits point)
      (⟨valueOf digits, point - digits.length⟩ : Decimal).value := by
  rcases Int.lt_or_le 0 point with hpoint | hpoint
  · rcases Nat.lt_or_ge point.toNat digits.length with hlength | hlength
    · exact readsAs_positional_of_lt hdigits hne hhead hpoint hlength
    · exact readsAs_positional_of_length_le hdigits hne hhead halways hpoint hlength
  · exact readsAs_positional_of_nonpos hdigits hne hpoint

end Positional

/-- A number with an exponent is read as the number of its digits, if the exponent can be read. -/
lemma ofUnsigned?_exponential_digits (hdigits : ∀ c ∈ digits, c.isDigit = true) (hne : digits ≠ [])
    (hhead : digits.head? ≠ some '0') (negative : Bool) (point : Int) :
    ofUnsigned? negative (NumberLayout.exponential digits point) =
      if isExponent (NumberLayout.integer (point - 1)) then
        some (float (.ofDecimal negative ⟨valueOf digits, point - digits.length⟩))
      else none := by
  obtain ⟨c, cs, rfl⟩ := List.exists_cons_of_ne_nil hne
  simp only [List.mem_cons, forall_eq_or_imp] at hdigits
  -- the point is written after the first digit, and the exponent says by how much it is off
  have hexponent : point - 1 - cs.length = point - (c :: cs).length := by
    rw [List.length_cons]
    omega
  have hread := ofUnsigned?_exponential negative hdigits.1 (by simpa using hhead) hdigits.2
    (NumberLayout.integer (point - 1))
  rw [readExponent?_integer, Option.map_some, hexponent] at hread
  simpa [NumberLayout.exponential] using hread

end Token

open Binary64 (infiniteMagnitude shortestDecimal)

namespace Binary64

/-- The exponent of the leading digit of a magnitude as a decimal. -/
def leadingExponent (magnitude : Nat) : Int :=
  (shortestDecimal magnitude).point - 1

/-- A number is made of its sign and its magnitude. -/
lemma ofMagnitude_magnitude (x : Binary64) : ofMagnitude x.isNegative x.magnitude = x := by
  have hlt : x.bits.toNat < 2 * signWeight := x.bits.toNat_lt
  have hbits : (if x.isNegative then signWeight + x.magnitude else x.magnitude) =
      x.bits.toNat := by
    rcases Nat.lt_or_ge x.bits.toNat signWeight with h | h
    · rw [isNegative, if_neg (by simpa using h), magnitude, Nat.mod_eq_of_lt h]
    · rw [isNegative, if_pos (by simpa using h), magnitude, Nat.mod_eq_sub_mod h,
        Nat.mod_eq_of_lt (by omega)]
      omega
  rw [ofMagnitude, hbits, UInt64.ofNat_toNat]

/-- The digits of the shortest decimal and the place of its point give the number, as they give the
same value as the decimal does. -/
lemma ofDecimal_digits {m : Nat} (hm : 0 < m) (hfinite : m < infiniteMagnitude) (negative : Bool) :
    ofDecimal negative ⟨valueOf (shortestDecimal m).digits,
      (shortestDecimal m).point - (shortestDecimal m).digits.length⟩ = ofMagnitude negative m := by
  rw [ofDecimal, Decimal.magnitude_congr (Decimal.value_digits _),
    magnitude_shortestDecimal hm hfinite]

end Binary64

namespace Token

open Binary64 (leadingExponent)

variable {m : Nat} {layout : NumberLayout}

/-- Whether a layout gives a magnitude an exponent that cannot be read. -/
def losesExponent (layout : NumberLayout) (magnitude : Nat) : Bool :=
  layout.scientific (leadingExponent magnitude) &&
    !isExponent (NumberLayout.integer (leadingExponent magnitude))

lemma losesExponent_zero : losesExponent layout 0 = false := by
  have hread : isExponent (NumberLayout.integer (leadingExponent 0)) = true := by decide +kernel
  rw [losesExponent, hread, Bool.not_true, Bool.and_false]

lemma ofUnsigned?_finite_zero (halways : layout.fractionAlways = true) (negative : Bool) :
    ofUnsigned? negative (layout.finite 0) = some (float (.ofMagnitude negative 0)) := by
  have htext : layout.finite 0 = ['0', '.', '0'] := by
    rw [NumberLayout.finite, if_pos rfl, if_pos halways]
  rw [htext]
  cases negative <;> decide +kernel

/-- The text of a finite magnitude is read as it, unless its exponent cannot be read. -/
theorem ofUnsigned?_finite (halways : layout.fractionAlways = true)
    (hfinite : m < infiniteMagnitude) (negative : Bool) :
    ofUnsigned? negative (layout.finite m) =
      if losesExponent layout m then none else some (float (.ofMagnitude negative m)) := by
  rcases Nat.eq_zero_or_pos m with rfl | hm
  · rw [losesExponent_zero, if_neg Bool.false_ne_true, ofUnsigned?_finite_zero halways]
  · obtain ⟨hsignificand, -⟩ := Binary64.shortestDecimal_bounds hm hfinite
    obtain ⟨c, cs, hdigits, hc⟩ := Decimal.exists_digits_eq_cons hsignificand
    have hall : ∀ c ∈ (shortestDecimal m).digits, c.isDigit = true := fun c => isDigit_of_mem_digits
    have hne : (shortestDecimal m).digits ≠ [] := by simp [hdigits]
    have hhead : (shortestDecimal m).digits.head? ≠ some '0' := by simpa [hdigits] using hc
    have hnumber := Binary64.ofDecimal_digits hm hfinite negative
    -- either form is a decimal with the value of the digits, which is read as the magnitude
    rw [losesExponent, leadingExponent]
    simp only [NumberLayout.finite, if_neg hm.ne']
    split
    next hscientific =>
      rw [ofUnsigned?_exponential_digits hall hne hhead, hnumber, hscientific, Bool.true_and]
      cases isExponent (NumberLayout.integer ((shortestDecimal m).point - 1)) <;> rfl
    next hscientific =>
      have hread :
          ReadsAs (layout.positional (shortestDecimal m).digits (shortestDecimal m).point) _ :=
        readsAs_positional hall hne hhead halways _
      rw [hread.ofUnsigned?_eq, hnumber, Bool.eq_false_of_not_eq_true hscientific,
        Bool.false_and, if_neg Bool.false_ne_true]

/-! ### Texts of numbers -/

lemma exists_finite_eq_cons (hfinite : m < infiniteMagnitude) :
    ∃ c cs, layout.finite m = c :: cs ∧ c.isDigit = true := by
  rcases Nat.eq_zero_or_pos m with rfl | hm
  · rw [NumberLayout.finite, if_pos rfl]
    split <;> exact ⟨'0', _, rfl, by decide⟩
  · obtain ⟨hsignificand, -⟩ := Binary64.shortestDecimal_bounds hm hfinite
    obtain ⟨c, cs, hdigits, -⟩ := Decimal.exists_digits_eq_cons hsignificand
    have hc : c.isDigit = true :=
      isDigit_of_mem_digits (d := shortestDecimal m) (by simp [hdigits])
    simp only [NumberLayout.finite, if_neg hm.ne', hdigits]
    split
    · exact ⟨c, _, rfl, hc⟩
    · exact NumberLayout.exists_positional_eq_cons hc

lemma endsNumber_eq_false_of_mem_finite {c : Char} (h : c ∈ layout.finite m) :
    endsNumber c = false := by
  rcases NumberLayout.mem_finite h with h | h
  · simp only [List.mem_cons, List.not_mem_nil, or_false] at h
    rcases h with rfl | rfl | rfl <;> rfl
  · exact endsNumber_eq_false_of_isDigit h

/-- The text of a finite number is one token, unless its exponent cannot be read. -/
theorem tokenize?_finite {x : Binary64} (halways : layout.fractionAlways = true)
    (hfinite : x.magnitude < infiniteMagnitude) (hr : BeginsBreak rest) :
    tokenize? (layout.text x ++ rest) =
      if losesExponent layout x.magnitude then none else (tokenize? rest).map (float x :: ·) := by
  have hends : ∀ d ∈ layout.finite x.magnitude, endsNumber d = false :=
    fun d => endsNumber_eq_false_of_mem_finite
  have hread := ofUnsigned?_finite halways hfinite x.isNegative
  obtain ⟨c, cs, hcs, hc⟩ : ∃ c cs, layout.finite x.magnitude = c :: cs ∧ c.isDigit = true :=
    exists_finite_eq_cons hfinite
  rw [Binary64.ofMagnitude_magnitude] at hread
  rw [NumberLayout.text_of_magnitude_lt hfinite]
  rw [hcs] at hends hread ⊢
  generalize losesExponent layout x.magnitude = loses at hread ⊢
  -- the lexer takes the sign off before it looks at the digits
  cases hsign : x.isNegative with
  | true =>
    rw [hsign] at hread
    rw [if_pos rfl, List.singleton_append, List.cons_append,
      tokenize?_number (.inl rfl) hends hr, ofNumber?, hread]
    cases loses <;> rfl
  | false =>
    have hminus : c ≠ '-' := by
      rintro rfl
      exact absurd hc (by decide)
    rw [hsign] at hread
    rw [if_neg Bool.false_ne_true, List.nil_append, List.cons_append,
      tokenize?_number (.inr hc) (List.forall_mem_cons.1 hends).2 hr, ofNumber?, hread]
    · cases loses <;> rfl
    · simpa using hminus

/-! ### The standard layout -/

open Value (LiteralStyle)

/-- Of the exponents in standard texts, those that begin with a nine cannot be read. -/
lemma isExponent_integer {e : Int} (hstandard : e < -4 ∨ 16 ≤ e) (he : e ≤ 309) :
    isExponent (NumberLayout.integer e) = true ↔ ¬(90 ≤ e ∧ e < 100) := by
  rw [NumberLayout.integer]
  split
  next h =>
    have hdigits : ∀ c ∈ Nat.toDigits 10 e.natAbs, c.isDigit = true :=
      fun c => isDigit_of_mem_toDigits
    have hread : isExponent ('-' :: Nat.toDigits 10 e.natAbs) = true := by
      simpa [isExponent] using hdigits
    rw [iff_true_left hread]
    omega
  next h =>
    -- the exponents that are left are few enough to be looked at one by one
    have table : ∀ n < 310, 16 ≤ n →
        (isExponent (Nat.toDigits 10 n) = true ↔ ¬(90 ≤ n ∧ n < 100)) := by
      decide +kernel
    rw [table e.natAbs (by omega) (by omega)]
    omega

/-- The exponents that the standard layout gives to finite magnitudes can be read, but for those
that begin with a nine. -/
lemma losesExponent_standard_iff (hfinite : m < infiniteMagnitude) :
    losesExponent LiteralStyle.standard.numbers m = true ↔
      90 ≤ leadingExponent m ∧ leadingExponent m < 100 := by
  have hbound : leadingExponent m ≤ 309 := by
    rcases Nat.eq_zero_or_pos m with rfl | hm
    · decide +kernel
    · have hpoint := (Binary64.shortestDecimal_bounds hm hfinite).2
      rw [leadingExponent]
      omega
  have hscientific : LiteralStyle.standard.numbers.scientific (leadingExponent m) = true ↔
      leadingExponent m < -4 ∨ 16 ≤ leadingExponent m := by
    simp [LiteralStyle.standard]
  rw [losesExponent, Bool.and_eq_true, Bool.not_eq_true', hscientific]
  constructor
  · rintro ⟨hstandard, hexponent⟩
    simpa [hexponent] using isExponent_integer hstandard hbound
  · intro hnine
    have hstandard : leadingExponent m < -4 ∨ 16 ≤ leadingExponent m := by omega
    have hexponent := isExponent_integer hstandard hbound
    exact ⟨hstandard, by simpa [hnine] using hexponent⟩

end Token

end CanonicalSdl
