import CanonicalSdl.Proofs.Toml.Keys
import CanonicalSdl.Rendition.Settings

/-!
# Reading settings

A table holds settings if each of its entries is one. Then each setting has the value given for it,
or else its default, in whatever order the entries stand. Of any other table the first entry that is
no setting is reported, whatever comes after it.
-/

namespace CanonicalSdl.RenderSettings

variable {c c' : RenderSettings} {entry : String × Toml.Value}
  {entries before after : List (String × Toml.Value)} {e : SettingsError} {message : String}

/-! ### Settings and offences -/

/-- The entry is a setting: `indent` with an integer from 0 to 16, or `descriptions` with a
boolean. -/
inductive IsSetting : String × Toml.Value → Prop where
  | indent {i : Int64} (nonneg : 0 ≤ i.toInt) (le : i.toInt ≤ 16) :
      IsSetting ("indent", .integer i)
  | descriptions (b : Bool) : IsSetting ("descriptions", .boolean b)

/-- The message tells why the entry is no setting. -/
inductive Offends : String × Toml.Value → String → Prop where
  | unknownKey {key v} (indent : key ≠ "indent") (descriptions : key ≠ "descriptions") :
      Offends (key, v)
        ("unknown field \x60" ++ key ++ "\x60, expected \x60indent\x60 or \x60descriptions\x60")
  | indentType {v} (type : ∀ i, v ≠ .integer i) :
      Offends ("indent", v) ("invalid type: " ++ v.words ++ ", expected usize")
  | negative {i : Int64} (negative : i.toInt < 0) :
      Offends ("indent", .integer i)
        ("invalid value: " ++ (Toml.Value.integer i).words ++ ", expected usize")
  | tooLarge {i : Int64} (large : 16 < i.toInt) :
      Offends ("indent", .integer i)
        ("indent must be at most 16, got " ++ toString i.toInt.toNat)
  | descriptionsType {v} (type : ∀ b, v ≠ .boolean b) :
      Offends ("descriptions", v) ("invalid type: " ++ v.words ++ ", expected a boolean")

lemma IsSetting.exists_integer {v : Toml.Value} (h : IsSetting ("indent", v)) :
    ∃ i, v = .integer i ∧ 0 ≤ i.toInt ∧ i.toInt ≤ 16 := by
  generalize hentry : ("indent", v) = entry at h
  cases h with
  | @indent i nonneg le => exact ⟨i, (Prod.mk.inj hentry).2, nonneg, le⟩
  | descriptions b => simp at hentry

lemma IsSetting.exists_boolean {v : Toml.Value} (h : IsSetting ("descriptions", v)) :
    ∃ b, v = .boolean b := by
  generalize hentry : ("descriptions", v) = entry at h
  cases h with
  | indent nonneg le => simp at hentry
  | descriptions b => exact ⟨b, (Prod.mk.inj hentry).2⟩

lemma isSetting_or_offends (entry : String × Toml.Value) :
    IsSetting entry ∨ ∃ message, Offends entry message := by
  obtain ⟨key, v⟩ := entry
  by_cases hindent : key = "indent"
  · subst hindent
    by_cases htype : ∃ i, v = .integer i
    · obtain ⟨i, rfl⟩ := htype
      rcases Int.lt_or_le i.toInt 0 with hi | hi
      · exact .inr ⟨_, .negative hi⟩
      rcases Int.lt_or_le 16 i.toInt with hi' | hi'
      · exact .inr ⟨_, .tooLarge hi'⟩
      · exact .inl (.indent hi hi')
    · exact .inr ⟨_, .indentType (not_exists.1 htype)⟩
  by_cases hdescriptions : key = "descriptions"
  · subst hdescriptions
    by_cases htype : ∃ b, v = .boolean b
    · obtain ⟨b, rfl⟩ := htype
      exact .inl (.descriptions b)
    · exact .inr ⟨_, .descriptionsType (not_exists.1 htype)⟩
  · exact .inr ⟨_, .unknownKey hindent hdescriptions⟩

/-! ### Taking one entry over -/

lemma set_indent {i : Int64} (hi : 0 ≤ i.toInt) (hi' : i.toInt ≤ 16) (c : RenderSettings) :
    c.set "indent" (.integer i) = .ok { c with indent := i.toInt.toNat } := by
  have hnonneg : ¬ i < 0 := by
    rw [Int64.lt_iff_toInt_lt, Int64.toInt_zero]
    omega
  have hle : ¬ indentLimit < i.toInt.toNat := by
    rw [indentLimit]
    omega
  rw [set, if_pos rfl, readIndent, if_neg hnonneg, if_neg hle]
  rfl

lemma set_descriptions (b : Bool) (c : RenderSettings) :
    c.set "descriptions" (.boolean b) = .ok { c with descriptions := b } :=
  rfl

/-- An entry that is no setting is an error, whatever the settings are so far. -/
lemma Offends.exists_set_eq (h : Offends entry message) :
    ∃ e, e.message? = some message ∧ ∀ c, set c entry.1 entry.2 = .error e := by
  cases h with
  | @unknownKey key v indent descriptions =>
    refine ⟨.unknownKey key, rfl, fun c => ?_⟩
    rw [set, if_neg indent, if_neg descriptions]
  | @indentType v type =>
    refine ⟨.indentNotInteger v, rfl, fun c => ?_⟩
    cases v with
    | integer i => exact absurd rfl (type i)
    | _ => rfl
  | @negative i negative =>
    have hneg : i < 0 := by rwa [Int64.lt_iff_toInt_lt, Int64.toInt_zero]
    refine ⟨.indentNegative (.integer i), rfl, fun c => ?_⟩
    rw [set, if_pos rfl, readIndent, if_pos hneg]
    rfl
  | @tooLarge i large =>
    have hnonneg : ¬ i < 0 := by
      rw [Int64.lt_iff_toInt_lt, Int64.toInt_zero]
      omega
    have hlarge : indentLimit < i.toInt.toNat := by
      rw [indentLimit]
      omega
    refine ⟨.indentTooLarge i.toInt.toNat, rfl, fun c => ?_⟩
    rw [set, if_pos rfl, readIndent, if_neg hnonneg, if_pos hlarge]
    rfl
  | @descriptionsType v type =>
    refine ⟨.descriptionsNotBoolean v, rfl, fun c => ?_⟩
    cases v with
    | boolean b => exact absurd rfl (type b)
    | _ => rfl

/-! ### Taking all entries over -/

/-- The settings have the values that entries give, and those of other settings where none is
given. -/
structure Takes (c : RenderSettings) (entries : List (String × Toml.Value)) (c' : RenderSettings) :
    Prop where
  indent : ∀ i, ("indent", .integer i) ∈ entries → c'.indent = i.toInt.toNat
  indent_of_notMem : "indent" ∉ entries.map Prod.fst → c'.indent = c.indent
  descriptions : ∀ b, ("descriptions", .boolean b) ∈ entries → c'.descriptions = b
  descriptions_of_notMem : "descriptions" ∉ entries.map Prod.fst → c'.descriptions = c.descriptions

lemma Takes.cons_indent {i : Int64} (hkey : "indent" ∉ entries.map Prod.fst)
    (h : Takes { c with indent := i.toInt.toNat } entries c') :
    Takes c (("indent", .integer i) :: entries) c' where
  indent j hj := by
    rcases List.mem_cons.1 hj with hj | hj
    · cases hj
      exact h.indent_of_notMem hkey
    · exact absurd (List.mem_map_of_mem hj) hkey
  indent_of_notMem hnot := absurd List.mem_cons_self hnot
  descriptions b hb := h.descriptions b (by simpa using hb)
  descriptions_of_notMem hnot := h.descriptions_of_notMem (by simpa using hnot)

lemma Takes.cons_descriptions {b : Bool} (hkey : "descriptions" ∉ entries.map Prod.fst)
    (h : Takes { c with descriptions := b } entries c') :
    Takes c (("descriptions", .boolean b) :: entries) c' where
  indent i hi := h.indent i (by simpa using hi)
  indent_of_notMem hnot := h.indent_of_notMem (by simpa using hnot)
  descriptions b' hb := by
    rcases List.mem_cons.1 hb with hb | hb
    · cases hb
      exact h.descriptions_of_notMem hkey
    · exact absurd (List.mem_map_of_mem hb) hkey
  descriptions_of_notMem hnot := absurd List.mem_cons_self hnot

/-- Settings are taken over without an error. -/
lemma exists_foldlM_eq_ok (hall : ∀ entry ∈ entries, IsSetting entry) (c : RenderSettings) :
    ∃ c', entries.foldlM (fun c entry => c.set entry.1 entry.2) c = .ok c' ∧
      ((entries.map Prod.fst).Nodup → Takes c entries c') := by
  -- by induction on the entries, whatever the settings are so far
  induction entries generalizing c with
  | nil => exact ⟨c, rfl, fun _ => ⟨by simp, fun _ => rfl, by simp, fun _ => rfl⟩⟩
  | cons entry entries ih =>
    rw [List.forall_mem_cons] at hall
    obtain ⟨hentry, hrest⟩ := hall
    cases hentry with
    | indent nonneg le =>
      obtain ⟨c', hc', htakes⟩ := ih hrest _
      refine ⟨c', ?_, fun hnodup => ?_⟩
      · rw [List.foldlM_cons, set_indent nonneg le]
        exact hc'
      · rw [List.map_cons, List.nodup_cons] at hnodup
        exact (htakes hnodup.2).cons_indent hnodup.1
    | descriptions b =>
      obtain ⟨c', hc', htakes⟩ := ih hrest _
      refine ⟨c', ?_, fun hnodup => ?_⟩
      · rw [List.foldlM_cons, set_descriptions]
        exact hc'
      · rw [List.map_cons, List.nodup_cons] at hnodup
        exact (htakes hnodup.2).cons_descriptions hnodup.1

/-- Settings that take the same values are the same. -/
lemma Takes.unique {c₀ : RenderSettings} (hall : ∀ entry ∈ entries, IsSetting entry)
    (h : Takes c₀ entries c) (h' : Takes c₀ entries c') : c = c' := by
  have hindent : c.indent = c'.indent := by
    by_cases hkey : "indent" ∈ entries.map Prod.fst
    · obtain ⟨⟨key, v⟩, hentry, rfl⟩ := List.mem_map.1 hkey
      obtain ⟨i, rfl, -⟩ := (hall _ hentry).exists_integer
      rw [h.indent i hentry, h'.indent i hentry]
    · rw [h.indent_of_notMem hkey, h'.indent_of_notMem hkey]
  have hdescriptions : c.descriptions = c'.descriptions := by
    by_cases hkey : "descriptions" ∈ entries.map Prod.fst
    · obtain ⟨⟨key, v⟩, hentry, rfl⟩ := List.mem_map.1 hkey
      obtain ⟨b, rfl⟩ := (hall _ hentry).exists_boolean
      rw [h.descriptions b hentry, h'.descriptions b hentry]
    · rw [h.descriptions_of_notMem hkey, h'.descriptions_of_notMem hkey]
  cases c
  cases c'
  simp_all

/-- The first entry that is an error decides. -/
lemma ofEntries_append_cons (hall : ∀ entry ∈ before, IsSetting entry)
    (h : ∀ c : RenderSettings, c.set entry.1 entry.2 = .error e)
    (after : List (String × Toml.Value)) :
    ofEntries (before ++ entry :: after) = .error e := by
  obtain ⟨c, hc, -⟩ := exists_foldlM_eq_ok hall {}
  rw [ofEntries, List.foldlM_append, hc]
  exact congrArg (· >>= after.foldlM fun c entry => c.set entry.1 entry.2) (h c)

/-! ### What comes of a table -/

/-- The message tells why the first entry that is no setting is none. -/
def FirstOffence (entries : List (String × Toml.Value)) (message : String) : Prop :=
  ∃ before entry after, entries = before ++ entry :: after ∧
    (∀ entry ∈ before, IsSetting entry) ∧ Offends entry message

/-- What comes of the entries of a table. -/
structure IsReading (entries : List (String × Toml.Value))
    (result : Except SettingsError RenderSettings) : Prop where
  /-- There are settings exactly if all entries are settings. They have the values given, and
  defaults otherwise. -/
  ok_iff : ∀ c, result = .ok c ↔ (∀ entry ∈ entries, IsSetting entry) ∧ Takes {} entries c
  /-- The order of the entries does not matter to the settings. -/
  perm : ∀ c, result = .ok c → ∀ entries', entries'.Perm entries → ofEntries entries' = .ok c
  /-- The settings indent each level by just the number of spaces they say. -/
  spaces : ∀ c, result = .ok c → c.spaces.toList = List.replicate c.indent ' '
  /-- Otherwise there is an error, which tells what is wrong with the first offending entry. -/
  error : (¬ ∀ entry ∈ entries, IsSetting entry) →
    ∃ e message, result = .error e ∧ e.message? = some message ∧ FirstOffence entries message
  /-- Nothing else is reported. -/
  error_iff : ∀ message, (∃ e, result = .error e ∧ e.message? = some message) ↔
    FirstOffence entries message
  /-- Entries after the first offending one do not matter. -/
  independent : ∀ before entry after message, entries = before ++ entry :: after →
    (∀ entry ∈ before, IsSetting entry) → Offends entry message →
    ∀ after', ofEntries (before ++ entry :: after') = result

lemma exists_firstOffence (h : ¬ ∀ entry ∈ entries, IsSetting entry) :
    ∃ message, FirstOffence entries message := by
  induction entries with
  | nil => simp at h
  | cons entry entries ih =>
    rcases isSetting_or_offends entry with hentry | ⟨message, hentry⟩
    · obtain ⟨message, before, offending, after, rfl, hall, hoffends⟩ := ih fun hrest =>
        h (List.forall_mem_cons.2 ⟨hentry, hrest⟩)
      exact ⟨message, entry :: before, offending, after, rfl,
        List.forall_mem_cons.2 ⟨hentry, hall⟩, hoffends⟩
    · exact ⟨message, [], entry, entries, rfl, by simp, hentry⟩

lemma FirstOffence.exists_ofEntries_eq (h : FirstOffence entries message) :
    ∃ e, ofEntries entries = .error e ∧ e.message? = some message := by
  obtain ⟨before, entry, after, rfl, hall, hoffends⟩ := h
  obtain ⟨e, he, hset⟩ := hoffends.exists_set_eq
  exact ⟨e, ofEntries_append_cons hall hset after, he⟩

lemma ofEntries_eq_ok_iff (hnodup : (entries.map Prod.fst).Nodup) :
    ofEntries entries = .ok c ↔ (∀ entry ∈ entries, IsSetting entry) ∧ Takes {} entries c := by
  constructor
  · intro h
    have hall : ∀ entry ∈ entries, IsSetting entry := by
      by_contra hall
      obtain ⟨message, hoffence⟩ := exists_firstOffence hall
      obtain ⟨e, he, -⟩ := hoffence.exists_ofEntries_eq
      rw [he] at h
      contradiction
    obtain ⟨c', hc', htakes⟩ := exists_foldlM_eq_ok hall {}
    obtain rfl : c' = c := Except.ok.inj (hc'.symm.trans h)
    exact ⟨hall, htakes hnodup⟩
  · rintro ⟨hall, h⟩
    obtain ⟨c', hc', htakes⟩ := exists_foldlM_eq_ok hall {}
    rw [h.unique hall (htakes hnodup)]
    exact hc'

lemma Takes.of_perm {c₀ : RenderSettings} {entries' : List (String × Toml.Value)}
    (hperm : entries'.Perm entries) (h : Takes c₀ entries c) : Takes c₀ entries' c where
  indent i hi := h.indent i (hperm.mem_iff.1 hi)
  indent_of_notMem hnot := h.indent_of_notMem (mt (hperm.map _).mem_iff.2 hnot)
  descriptions b hb := h.descriptions b (hperm.mem_iff.1 hb)
  descriptions_of_notMem hnot := h.descriptions_of_notMem (mt (hperm.map _).mem_iff.2 hnot)

/-- Settings that have been read do not exceed the limit. -/
lemma Takes.indent_le (hall : ∀ entry ∈ entries, IsSetting entry) (h : Takes {} entries c) :
    c.indent ≤ indentLimit := by
  by_cases hkey : "indent" ∈ entries.map Prod.fst
  · obtain ⟨⟨key, v⟩, hentry, rfl⟩ := List.mem_map.1 hkey
    obtain ⟨i, rfl, -, hi⟩ := (hall _ hentry).exists_integer
    rw [h.indent i hentry, indentLimit]
    omega
  · rw [h.indent_of_notMem hkey]
    decide

lemma isReading_ofEntries (hnodup : (entries.map Prod.fst).Nodup) :
    IsReading entries (ofEntries entries) where
  ok_iff c := ofEntries_eq_ok_iff hnodup
  perm c hc entries' hperm := by
    obtain ⟨hall, htakes⟩ := (ofEntries_eq_ok_iff hnodup).1 hc
    have hnodup' := (hperm.map _).nodup_iff.2 hnodup
    exact (ofEntries_eq_ok_iff hnodup').2
      ⟨fun entry hentry => hall entry (hperm.mem_iff.1 hentry), htakes.of_perm hperm⟩
  spaces c hc := by
    obtain ⟨hall, htakes⟩ := (ofEntries_eq_ok_iff hnodup).1 hc
    rw [RenderSettings.spaces, String.toList_ofList, Nat.min_eq_left (htakes.indent_le hall)]
  error hall := by
    obtain ⟨message, hoffence⟩ := exists_firstOffence hall
    obtain ⟨e, he, hmessage⟩ := hoffence.exists_ofEntries_eq
    exact ⟨e, message, he, hmessage, hoffence⟩
  error_iff message := by
    constructor
    · -- settings alone are no error, so there is a first offence, and it is the one reported
      rintro ⟨e, he, hmessage⟩
      have hall : ¬ ∀ entry ∈ entries, IsSetting entry := by
        intro hall
        obtain ⟨c, hc, -⟩ := exists_foldlM_eq_ok hall {}
        exact absurd (hc.symm.trans he) (by simp)
      obtain ⟨message', hoffence⟩ := exists_firstOffence hall
      obtain ⟨e', he', hmessage'⟩ := hoffence.exists_ofEntries_eq
      obtain rfl : e = e' := Except.error.inj (he.symm.trans he')
      obtain rfl : message = message' := Option.some.inj (hmessage.symm.trans hmessage')
      exact hoffence
    · exact FirstOffence.exists_ofEntries_eq
  independent before entry after message hentries hall hoffends after' := by
    obtain ⟨e, -, hset⟩ := hoffends.exists_set_eq
    rw [hentries, ofEntries_append_cons hall hset, ofEntries_append_cons hall hset]

/-- What comes of a table of distinct entries depends on which entries are settings, and the entries
of any text that is well formed are such a table. -/
theorem ofToml_characterization :
    (∀ entries, (entries.map Prod.fst).Nodup → IsReading entries (ofEntries entries)) ∧
      ∀ text entries, Toml.entries? text = some entries →
        (entries.map Prod.fst).Nodup ∧ IsReading entries (ofToml text) := by
  refine ⟨fun entries => isReading_ofEntries, ?_⟩
  intro text entries h
  have hnodup := Toml.nodup_keys_of_entries? h
  rw [ofToml, h]
  exact ⟨hnodup, isReading_ofEntries hnodup⟩

/-- Entries of which the second is the first one that is no setting, and a text with these keys. -/
theorem ofToml_characterization_twoOffences :
    IsReading [("descriptions", .boolean false), ("indent", .integer 17), ("color", .integer 1)]
        (ofEntries
          [("descriptions", .boolean false), ("indent", .integer 17), ("color", .integer 1)]) ∧
      ∃ entries, Toml.entries? "descriptions = false\nindent = 17\ncolor = 1\n" = some entries ∧
        entries.map Prod.fst = ["descriptions", "indent", "color"] ∧
        IsReading entries (ofToml "descriptions = false\nindent = 17\ncolor = 1\n") := by
  refine ⟨ofToml_characterization.1 _ (by decide), ?_⟩
  have hkeys : (Toml.entries? "descriptions = false\nindent = 17\ncolor = 1\n").map
      (·.map Prod.fst) = some ["descriptions", "indent", "color"] := by
    decide +kernel
  obtain ⟨entries, hentries, hkeys⟩ := Option.map_eq_some_iff.1 hkeys
  exact ⟨entries, hentries, hkeys, (ofToml_characterization.2 _ _ hentries).2⟩

end CanonicalSdl.RenderSettings
