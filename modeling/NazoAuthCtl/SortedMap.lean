import Mathlib.Data.Finset.Card
import Mathlib.Data.List.Perm.Basic
import Mathlib.Data.List.Nodup
import Mathlib.Order.Defs.LinearOrder

/-!
# Maps as sorted lists of entries

A map is the list of its entries by increasing key. An entry that is inserted takes the place
of an earlier one under its key.
-/

set_option autoImplicit false
set_option linter.all false

namespace NazoAuthCtl.SortedMap

variable {κ α β : Type} [LinearOrder κ]

def insertEntry (key : κ) (value : α) : List (κ × α) → List (κ × α)
  | [] => [(key, value)]
  | entry :: rest =>
    if key = entry.1 then (key, value) :: rest
    else if key < entry.1 then (key, value) :: entry :: rest
    else entry :: insertEntry key value rest

def insertAll (map entries : List (κ × α)) : List (κ × α) :=
  entries.foldl (fun map entry => insertEntry entry.1 entry.2 map) map

/-- The map of a list of entries, the last one of each key. -/
def collect (entries : List (κ × α)) : List (κ × α) :=
  insertAll [] entries

def keys (map : List (κ × α)) : List κ := map.map (·.1)

def values (map : List (κ × α)) : List α := map.map (·.2)

def get (map : List (κ × α)) (key : κ) : Option α :=
  (map.find? fun entry => entry.1 = key).map (·.2)

def Sorted (map : List (κ × α)) : Prop :=
  (keys map).Pairwise (· < ·)

theorem Sorted.nodup {m : List (κ × α)} (h : Sorted m) : (keys m).Nodup :=
  List.Pairwise.imp (fun less => less.ne) h

omit [LinearOrder κ] in
theorem mem_keys {m : List (κ × α)} {key : κ} :
    key ∈ keys m ↔ ∃ value, (key, value) ∈ m := by
  simp [keys]

theorem keys_insertEntry (key : κ) (a : α) (b : β) {m : List (κ × α)} {n : List (κ × β)}
    (same : keys m = keys n) : keys (insertEntry key a m) = keys (insertEntry key b n) := by
  induction m generalizing n with
  | nil =>
    cases n with
    | nil => rfl
    | cons _ _ => cases same
  | cons x m ih =>
    cases n with
    | nil => cases same
    | cons y n =>
      obtain ⟨first, rest⟩ := List.cons.inj same
      have first : x.1 = y.1 := first
      have rest : keys m = keys n := rest
      unfold insertEntry
      rw [first]
      by_cases equal : key = y.1
      · rw [if_pos equal, if_pos equal]
        exact congrArg (key :: ·) rest
      · rw [if_neg equal, if_neg equal]
        by_cases less : key < y.1
        · rw [if_pos less, if_pos less]
          exact congrArg (key :: ·) same
        · rw [if_neg less, if_neg less]
          show x.1 :: keys (insertEntry key a m) = y.1 :: keys (insertEntry key b n)
          rw [first, ih rest]

/-- The keys of a map do not depend on its values. -/
theorem keys_insertAll {m as : List (κ × α)} {n bs : List (κ × β)} (same : keys m = keys n)
    (entries : as.map (·.1) = bs.map (·.1)) :
    keys (insertAll m as) = keys (insertAll n bs) := by
  induction as generalizing m n bs with
  | nil =>
    cases bs with
    | nil => exact same
    | cons _ _ => cases entries
  | cons a as ih =>
    cases bs with
    | nil => cases entries
    | cons b bs =>
      obtain ⟨first, rest⟩ := List.cons.inj entries
      have first : a.1 = b.1 := first
      have inserted : keys (insertEntry a.1 a.2 m) = keys (insertEntry b.1 b.2 n) := by
        rw [first]
        exact keys_insertEntry b.1 a.2 b.2 same
      show keys (insertAll (insertEntry a.1 a.2 m) as) =
        keys (insertAll (insertEntry b.1 b.2 n) bs)
      exact ih inserted rest

theorem mem_keys_insertEntry (key : κ) (value : α) (m : List (κ × α)) (other : κ) :
    other ∈ keys (insertEntry key value m) ↔ other = key ∨ other ∈ keys m := by
  induction m with
  | nil => simp [insertEntry, keys]
  | cons entry rest ih =>
    unfold insertEntry
    by_cases equal : key = entry.1
    · rw [if_pos equal]
      simp [keys, equal]
    · rw [if_neg equal]
      by_cases less : key < entry.1
      · rw [if_pos less]
        simp [keys]
      · rw [if_neg less]
        have tail : other ∈ keys (entry :: insertEntry key value rest) ↔
            other = entry.1 ∨ other ∈ keys (insertEntry key value rest) := by simp [keys]
        have whole : other ∈ keys (entry :: rest) ↔ other = entry.1 ∨ other ∈ keys rest := by
          simp [keys]
        rw [tail, ih, whole]
        tauto

theorem sorted_insertEntry (key : κ) (value : α) {m : List (κ × α)} (h : Sorted m) :
    Sorted (insertEntry key value m) := by
  induction m with
  | nil => exact List.pairwise_singleton _ _
  | cons entry rest ih =>
    have split : (∀ other ∈ keys rest, entry.1 < other) ∧ (keys rest).Pairwise (· < ·) :=
      List.pairwise_cons.mp h
    obtain ⟨above, tail⟩ := split
    unfold insertEntry
    by_cases equal : key = entry.1
    · rw [if_pos equal]
      have above' : ∀ other ∈ keys rest, key < other := by rwa [equal]
      exact List.pairwise_cons.mpr ⟨above', tail⟩
    · rw [if_neg equal]
      by_cases less : key < entry.1
      · rw [if_pos less]
        have above' : ∀ other ∈ keys (entry :: rest), key < other := by
          intro other inside
          rcases List.mem_cons.mp inside with same | later
          · have same : other = entry.1 := same
            rwa [same]
          · exact less.trans (above other later)
        exact List.pairwise_cons.mpr ⟨above', h⟩
      · rw [if_neg less]
        have higher : entry.1 < key := lt_of_le_of_ne (not_lt.mp less) (Ne.symm equal)
        have above' : ∀ other ∈ keys (insertEntry key value rest), entry.1 < other := by
          intro other inside
          rcases (mem_keys_insertEntry key value rest other).mp inside with same | later
          · rwa [same]
          · exact above other later
        exact List.pairwise_cons.mpr ⟨above', ih tail⟩

theorem sorted_insertAll {m : List (κ × α)} (h : Sorted m) (entries : List (κ × α)) :
    Sorted (insertAll m entries) := by
  induction entries generalizing m with
  | nil => exact h
  | cons entry rest ih => exact ih (sorted_insertEntry entry.1 entry.2 h)

theorem sorted_collect (entries : List (κ × α)) : Sorted (collect entries) := by
  have empty : Sorted ([] : List (κ × α)) := List.Pairwise.nil
  exact sorted_insertAll empty entries

theorem mem_keys_insertAll (m entries : List (κ × α)) (key : κ) :
    key ∈ keys (insertAll m entries) ↔ key ∈ keys m ∨ key ∈ keys entries := by
  induction entries generalizing m with
  | nil => simp [insertAll, keys]
  | cons entry rest ih =>
    have tail : key ∈ keys (entry :: rest) ↔ key = entry.1 ∨ key ∈ keys rest := by simp [keys]
    show key ∈ keys (insertAll (insertEntry entry.1 entry.2 m) rest) ↔ _
    rw [ih, mem_keys_insertEntry, tail]
    tauto

theorem mem_keys_collect (entries : List (κ × α)) (key : κ) :
    key ∈ keys (collect entries) ↔ key ∈ keys entries := by
  rw [collect, mem_keys_insertAll]
  simp [keys]

/-- A map has as many entries as were collected just if their keys are distinct. -/
theorem collect_length_iff (entries : List (κ × α)) :
    (collect entries).length = entries.length ↔ (keys entries).Nodup := by
  have same : (keys (collect entries)).toFinset = (keys entries).toFinset := by
    ext key
    rw [List.mem_toFinset, List.mem_toFinset, mem_keys_collect]
  have size : (collect entries).length = (keys entries).toFinset.card := by
    rw [← same, List.toFinset_card_of_nodup (sorted_collect entries).nodup]
    exact (List.length_map _).symm
  have total : entries.length = Multiset.card (keys entries : Multiset κ) :=
    (List.length_map _).symm
  rw [size, total, ← Multiset.coe_nodup]
  exact Multiset.toFinset_card_eq_card_iff_nodup

theorem insertEntry_perm (key : κ) (value : α) {m : List (κ × α)} (new : key ∉ keys m) :
    (insertEntry key value m).Perm ((key, value) :: m) := by
  induction m with
  | nil => exact .refl _
  | cons entry rest ih =>
    have apart : key ≠ entry.1 ∧ key ∉ keys rest := by
      constructor
      · rintro rfl
        exact new List.mem_cons_self
      · exact fun later => new (List.mem_cons_of_mem _ later)
    unfold insertEntry
    rw [if_neg apart.1]
    by_cases less : key < entry.1
    · rw [if_pos less]
    · rw [if_neg less]
      exact ((ih apart.2).cons entry).trans (.swap _ _ _)

theorem insertAll_perm {m entries : List (κ × α)} (distinct : (keys (m ++ entries)).Nodup) :
    (insertAll m entries).Perm (m ++ entries) := by
  induction entries generalizing m with
  | nil => rw [List.append_nil]; exact .refl _
  | cons entry rest ih =>
    have moved : (m ++ entry :: rest).Perm (entry :: (m ++ rest)) := List.perm_middle
    have distinct' : (keys (entry :: (m ++ rest))).Nodup := (moved.map _).nodup_iff.mp distinct
    have new : entry.1 ∉ keys m := fun inside =>
      (List.nodup_cons.mp distinct').1 (List.mem_map.mpr (by
        obtain ⟨value, there⟩ := mem_keys.mp inside
        exact ⟨(entry.1, value), List.mem_append_left _ there, rfl⟩))
    have inserted := insertEntry_perm entry.1 entry.2 new
    have next : (insertEntry entry.1 entry.2 m ++ rest).Perm (m ++ entry :: rest) :=
      (inserted.append_right rest).trans moved.symm
    exact (ih ((next.map _).nodup_iff.mpr distinct)).trans next

/-- A map of entries with distinct keys is a rearrangement of them. -/
theorem collect_perm {entries : List (κ × α)} (distinct : (keys entries).Nodup) :
    (collect entries).Perm entries :=
  insertAll_perm distinct

theorem get_of_mem {m : List (κ × α)} (distinct : (keys m).Nodup) {key : κ} {value : α}
    (inside : (key, value) ∈ m) : get m key = some value := by
  induction m with
  | nil => cases inside
  | cons entry rest ih =>
    obtain ⟨outside, later⟩ := List.nodup_cons.mp distinct
    rcases List.mem_cons.mp inside with same | below
    · rw [← same]
      simp [get]
    · have apart : ¬entry.1 = key := by
        rintro rfl
        exact outside (mem_keys.mpr ⟨value, below⟩)
      have skipped : get (entry :: rest) key = get rest key := by
        simp [get, apart]
      rw [skipped]
      exact ih later below

theorem mem_of_get {m : List (κ × α)} {key : κ} {value : α} (found : get m key = some value) :
    (key, value) ∈ m := by
  rw [get, Option.map_eq_some_iff] at found
  obtain ⟨entry, first, rfl⟩ := found
  have same : entry.1 = key := by simpa using List.find?_some first
  rw [← same]
  exact List.mem_of_find?_eq_some first

end NazoAuthCtl.SortedMap
