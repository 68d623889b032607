import CanonicalSdl.Grammar.Production
import CanonicalSdl.Proofs.Grammar.Tokens

/-!
# Laws of readers

How readers that are put together act on given symbols, and what repetitions read from the symbols
of their items one after another.
-/

namespace CanonicalSdl

namespace Reader

variable {σ α β : Type} {symbols rest : List σ} {s : σ}

lemma bind_apply (x : Reader σ α) (f : α → Reader σ β) (symbols : List σ) :
    (x >>= f) symbols = (x symbols).bind fun read => f read.1 read.2 :=
  rfl

lemma pure_apply (a : α) (symbols : List σ) :
    (pure a : Reader σ α) symbols = some (a, symbols) :=
  rfl

lemma next_apply (symbols : List σ) : next symbols = some (symbols.head?, symbols) :=
  rfl

section

variable [DecidableEq σ]

@[simp] lemma item_cons (s : σ) (rest : List σ) : item s (s :: rest) = some ((), rest) := by
  simp [item]

@[simp] lemma accept_cons (s : σ) (rest : List σ) : accept s (s :: rest) = some (true, rest) := by
  simp [accept, acceptIf]

lemma accept_of_head?_ne (h : symbols.head? ≠ some s) :
    accept s symbols = some (false, symbols) := by
  cases symbols with
  | nil => rfl
  | cons t rest =>
    have ht : t ≠ s := by simpa using h
    simp [accept, acceptIf, ht]

end

/-! ### Repetitions -/

variable {begins : σ → Bool} {construct : Reader σ α} {symbolsOf : α → List σ} {as : List α}

/-- What a construct needs to be read back where it stands in a repetition: its first symbol can
begin a construct, and it can stand itself after another construct. -/
structure ReadsBack (begins : σ → Bool) (construct : Reader σ α) (symbolsOf : α → List σ)
    (After : List σ → Prop) (a : α) : Prop where
  head : ∃ s rest, symbolsOf a = s :: rest ∧ begins s = true
  after : ∀ rest, After (symbolsOf a ++ rest)
  reads : ∀ rest, After rest → construct (symbolsOf a ++ rest) = some (a, rest)

variable {After : List σ → Prop}

lemma after_flatMap (h : ∀ a ∈ as, ReadsBack begins construct symbolsOf After a)
    (hrest : After rest) : After (as.flatMap symbolsOf ++ rest) := by
  cases as with
  | nil => exact hrest
  | cons a as =>
    rw [List.flatMap_cons, List.append_assoc]
    exact (h a (by simp)).after _

/-- A repetition reads the constructs back that stand one after another. -/
lemma upTo_flatMap
    (h : ∀ a ∈ as, ReadsBack begins construct symbolsOf After a)
    (hrest : After rest) (hend : ∀ s ∈ rest.head?, begins s = false)
    {limit : Nat} (hlimit : as.length ≤ limit) :
    upTo begins construct limit (as.flatMap symbolsOf ++ rest) = some (as, rest) := by
  induction as generalizing limit with
  | nil =>
    -- what follows begins no construct, so that the repetition ends with room left or without
    rw [List.flatMap_nil, List.nil_append]
    cases limit with
    | zero => rfl
    | succ limit =>
      cases rest with
      | nil => rfl
      | cons s rest => rw [upTo, if_neg (by simp [hend s (by simp)])]
  | cons a as ih =>
    obtain ⟨limit, rfl⟩ : ∃ m, limit = m + 1 := ⟨limit - 1, by simp at hlimit; omega⟩
    have ha := h a (by simp)
    have has : ∀ b ∈ as, ReadsBack begins construct symbolsOf After b :=
      fun b hb => h b (by simp [hb])
    have hreads := ha.reads _ (after_flatMap has hrest)
    obtain ⟨s, tail, hs, hb⟩ := ha.head
    rw [List.flatMap_cons, List.append_assoc]
    rw [hs, List.cons_append] at hreads ⊢
    rw [upTo, if_pos hb, hreads]
    simp only [ih has (Nat.le_of_succ_le_succ hlimit)]

lemma length_le_length_flatMap (h : ∀ a ∈ as, symbolsOf a ≠ []) :
    as.length ≤ (as.flatMap symbolsOf).length := by
  induction as with
  | nil => simp
  | cons a as ih =>
    have ha := List.length_pos_iff.2 (h a (by simp))
    have := ih fun b hb => h b (by simp [hb])
    simp only [List.length_cons, List.flatMap_cons, List.length_append]
    omega

lemma many_flatMap
    (h : ∀ a ∈ as, ReadsBack begins construct symbolsOf After a)
    (hrest : After rest) (hend : ∀ s ∈ rest.head?, begins s = false) :
    many begins construct (as.flatMap symbolsOf ++ rest) = some (as, rest) := by
  apply upTo_flatMap h hrest hend
  rw [List.length_append]
  refine Nat.le_add_right_of_le (length_le_length_flatMap fun a ha hnil => ?_)
  obtain ⟨s, tail, hs, -⟩ := (h a ha).head
  simp [hnil] at hs

lemma many1_flatMap (hne : as ≠ [])
    (h : ∀ a ∈ as, ReadsBack begins construct symbolsOf After a)
    (hrest : After rest) (hend : ∀ s ∈ rest.head?, begins s = false) :
    many1 begins construct (as.flatMap symbolsOf ++ rest) = some (as, rest) := by
  obtain ⟨a, as, rfl⟩ := List.exists_cons_of_ne_nil hne
  have has : ∀ b ∈ as, ReadsBack begins construct symbolsOf After b :=
    fun b hb => h b (by simp [hb])
  rw [many1, bind_apply, List.flatMap_cons, List.append_assoc,
    (h a (by simp)).reads _ (after_flatMap has hrest), Option.bind_some, bind_apply,
    many_flatMap has hrest hend]
  rfl

/-- Constructs that read back whatever follows them read back with separators between them. -/
lemma separated_flatMap [DecidableEq σ] {separator : σ} {a : α}
    (h : ∀ b ∈ a :: as, ∀ rest, construct (symbolsOf b ++ rest) = some (b, rest))
    (hend : rest.head? ≠ some separator) :
    separated separator construct
      (symbolsOf a ++ (as.flatMap (fun b => separator :: symbolsOf b) ++ rest)) =
        some (a :: as, rest) := by
  have has : ∀ b ∈ as, ReadsBack (· = separator) (do item separator; construct)
      (fun b => separator :: symbolsOf b) (fun _ => True) b := by
    intro b hb
    constructor
    case head => exact ⟨separator, symbolsOf b, rfl, by simp⟩
    case after => exact fun _ => trivial
    case reads =>
      intro rest _
      rw [bind_apply, List.cons_append, item_cons]
      exact h b (by simp [hb]) rest
  rw [separated, bind_apply, h a (by simp), Option.bind_some, bind_apply,
    many_flatMap has trivial (by simpa using fun s hs h => hend (hs.trans (congrArg some h)))]
  rfl

end Reader

namespace Production

open Reader

variable {α : Type} {rest : List Token} {opening closing : Char} {begins : Token → Bool}
  {construct : Production α} {tokensOf : α → List Token} {After : List Token → Prop} {as : List α}

@[simp] lemma punctuator_cons (c : Char) (rest : List Token) :
    punctuator c (.punctuator c :: rest) = some ((), rest) :=
  item_cons _ rest

@[simp] lemma keyword_cons (word : String) (rest : List Token) :
    keyword word (.name word :: rest) = some ((), rest) :=
  item_cons _ rest

@[simp] lemma name_cons (s : String) (rest : List Token) :
    name (.name s :: rest) = some (s, rest) :=
  rfl

/-- Enclosed constructs read back, if the closing punctuator can stand after a construct and begins
none. -/
lemma enclosed?_enclosed (h : ∀ a ∈ as, ReadsBack begins construct tokensOf After a)
    (hafter : ∀ rest, After (.punctuator closing :: rest))
    (hclosing : begins (.punctuator closing) = false)
    (hrest : rest.head? ≠ some (.punctuator opening)) :
    enclosed? opening closing begins construct
        (Token.enclosed opening closing tokensOf as ++ rest) =
      some (as, rest) := by
  rw [enclosed?, bind_apply, next_apply, Option.bind_some, Token.enclosed]
  split
  next hnil =>
    -- nothing at all is written for no constructs, not even brackets
    rw [List.isEmpty_iff] at hnil
    subst hnil
    simp only [List.nil_append, if_neg hrest]
    rfl
  next hne =>
    have hmany : many1 begins construct (as.flatMap tokensOf ++ .punctuator closing :: rest) =
        some (as, .punctuator closing :: rest) :=
      many1_flatMap (by simpa using hne) h (hafter rest) (by simpa using hclosing)
    simp only [enclosed, bind_apply, pure_apply, List.cons_append, List.append_assoc,
      List.nil_append, List.head?_cons, ↓reduceIte, punctuator_cons, Option.bind_some, hmany]

end Production

end CanonicalSdl
