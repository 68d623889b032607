import CanonicalSdl.Toml.Reading
import Mathlib.Data.List.Nodup

/-!
# Distinct keys

The top-level entries of a TOML text have distinct keys: a statement adds an entry under a new key
only, and whatever else it changes stays under the key it had.
-/

namespace CanonicalSdl.Toml

namespace Node

variable {entries sub : Entries} {key : String} {node : Node}

/-- The keys of entries, in order. -/
def keys (entries : Entries) : List String :=
  entries.map Prod.fst

/-- A change of entries keeps their keys distinct. -/
def KeepsDistinct (change : Entries → Option Entries) : Prop :=
  ∀ entries sub, (keys entries).Nodup → change entries = some sub → (keys sub).Nodup

/-! ### Changing entries -/

lemma keys_replace (key : String) (node : Node) (entries : Entries) :
    keys (replace key node entries) = keys entries := by
  rw [keys, replace, List.map_map]
  refine List.map_congr_left fun entry _ => ?_
  rw [Function.comp_apply]
  split
  next h => exact h.symm
  next => rfl

lemma notMem_keys (h : entries.lookup key = none) : key ∉ keys entries := by
  intro hmem
  obtain ⟨entry, hentry, rfl⟩ := List.mem_map.1 hmem
  exact absurd (List.lookup_eq_none_iff.1 h entry hentry) (by simp)

lemma nodup_keys_append (h : (keys entries).Nodup) (hkey : key ∉ keys entries) (node : Node) :
    (keys (entries ++ [(key, node)])).Nodup := by
  rw [keys, List.map_append, List.map_singleton, List.nodup_append]
  refine ⟨h, List.nodup_singleton _, ?_⟩
  rintro k hk l hl rfl
  rw [List.mem_singleton.1 hl] at hk
  exact hkey hk

/-- What is changed inside a table does not matter to the keys around it. -/
lemma keepsDistinct_change (key : String) (origin : Origin) (inside : Entries → Option Entries) :
    KeepsDistinct (change key origin inside) := by
  intro entries sub hnodup h
  -- a table that is there keeps its place and its key
  have hreplace {α : Type} {changed : Option α} {node : α → Node}
      (h : changed.map (fun a => replace key (node a) entries) = some sub) :
      (keys sub).Nodup := by
    obtain ⟨a, -, rfl⟩ := Option.map_eq_some_iff.1 h
    rwa [keys_replace]
  rw [change] at h
  split at h
  next hlookup =>
    obtain ⟨a, -, rfl⟩ := Option.map_eq_some_iff.1 h
    exact nodup_keys_append hnodup (notMem_keys hlookup) _
  next =>
    split at h
    · contradiction
    · exact hreplace h
  next => exact hreplace h
  next => exact hreplace h
  next => contradiction

lemma keepsDistinct_add (key : String) (v : Value) : KeepsDistinct (add key v) := by
  intro entries sub hnodup h
  rw [add] at h
  split at h
  · contradiction
  next hlookup =>
    obtain rfl := Option.some.inj h
    exact nodup_keys_append hnodup (notMem_keys (Option.not_isSome_iff_eq_none.1 hlookup)) _

lemma keepsDistinct_addDotted (last : String) (v : Value) (front : List String) :
    KeepsDistinct (addDotted last v front) := by
  intro entries sub hnodup h
  match front with
  | [] => exact keepsDistinct_add last v entries sub hnodup h
  | [key] =>
    rw [addDotted] at h
    split at h
    · exact keepsDistinct_change _ _ _ entries sub hnodup h
    · contradiction
  | key :: next :: front => exact keepsDistinct_change _ _ _ entries sub hnodup h

lemma keepsDistinct_openTable (key : String) : KeepsDistinct (openTable key) := by
  intro entries sub hnodup h
  rw [openTable] at h
  split at h
  next hlookup =>
    obtain rfl := Option.some.inj h
    exact nodup_keys_append hnodup (notMem_keys hlookup) _
  next =>
    obtain rfl := Option.some.inj h
    refine nodup_keys_append (hnodup.sublist (List.filter_sublist.map _)) ?_ _
    simp [keys]
  next => contradiction

lemma keepsDistinct_openElement (key : String) : KeepsDistinct (openElement key) := by
  intro entries sub hnodup h
  rw [openElement] at h
  split at h
  next hlookup =>
    obtain rfl := Option.some.inj h
    exact nodup_keys_append hnodup (notMem_keys hlookup) _
  next =>
    obtain rfl := Option.some.inj h
    rwa [keys_replace]
  next => contradiction

lemma KeepsDistinct.changeAt {inside : Entries → Option Entries} (h : KeepsDistinct inside)
    (path : List String) : KeepsDistinct (changeAt inside path) := by
  cases path with
  | nil => exact h
  | cons key path => exact keepsDistinct_change _ _ _

lemma keys_entryValues (entries : Entries) : (entryValues entries).map Prod.fst = keys entries := by
  induction entries with
  | nil => rfl
  | cons entry entries ih =>
    rw [entryValues, List.map_cons, ih]
    rfl

end Node

open Node (keys)

/-! ### Statements -/

lemma nodup_keys_add {a a' : Assembly} {statement : Statement} (hnodup : (keys a.entries).Nodup)
    (h : a.add statement = some a') : (keys a'.entries).Nodup := by
  cases statement with
  | entry path v =>
    obtain ⟨entries, hentries, rfl⟩ := Option.map_eq_some_iff.1 h
    exact (Node.keepsDistinct_addDotted path.last v path.front).changeAt _ _ _ hnodup hentries
  | tableHeader path =>
    obtain ⟨entries, hentries, rfl⟩ := Option.map_eq_some_iff.1 h
    exact (Node.keepsDistinct_openTable path.last).changeAt _ _ _ hnodup hentries
  | elementHeader path =>
    obtain ⟨entries, hentries, rfl⟩ := Option.map_eq_some_iff.1 h
    exact (Node.keepsDistinct_openElement path.last).changeAt _ _ _ hnodup hentries

lemma nodup_keys_foldlM {a a' : Assembly} {statements : List Statement}
    (hnodup : (keys a.entries).Nodup) (h : statements.foldlM Assembly.add a = some a') :
    (keys a'.entries).Nodup := by
  induction statements generalizing a with
  | nil =>
    obtain rfl := Option.some.inj h
    exact hnodup
  | cons statement statements ih =>
    rw [List.foldlM_cons, Option.bind_eq_bind, Option.bind_eq_some_iff] at h
    obtain ⟨next, hnext, hrest⟩ := h
    exact ih (nodup_keys_add hnodup hnext) hrest

/-- The top-level entries of a text have distinct keys. -/
theorem nodup_keys_of_entries? {text : String} {entries : List (String × Value)}
    (h : entries? text = some entries) : (entries.map Prod.fst).Nodup := by
  rw [entries?, Option.bind_eq_bind, Option.bind_eq_some_iff] at h
  obtain ⟨statements, -, h⟩ := h
  obtain ⟨a, ha, rfl⟩ := Option.map_eq_some_iff.1 h
  rw [Node.keys_entryValues]
  exact nodup_keys_foldlM (a := {}) List.nodup_nil ha

end CanonicalSdl.Toml
