import ChrootScan.Dict
import Mathlib.Data.List.Sort
import Mathlib.Data.String.Basic
import Mathlib.Order.Basic

/-!
# Looking up what was inserted

Inserting an entry changes what is found under its key and nothing else, and the keys of a
dictionary are those inserted, in an order that does not depend on that of the insertions.
-/

namespace ChrootScan

variable {α : Type} {key other : String} {value : α}

/-! ## Entries -/

/-- An entry that was inserted is found, whether its key was new or not. -/
theorem lookup_insertEntry_self (entries : List (String × α)) :
    (insertEntry key value entries).lookup key = some value := by
  induction entries with
  | nil => simp [insertEntry]
  | cons head rest ih =>
    obtain ⟨k, v⟩ := head
    unfold insertEntry
    split
    · simp
    · split
      · simp
      · next hne =>
        have hbeq : (key == k) = false := beq_eq_false_iff_ne.2 hne
        rw [List.lookup_cons, hbeq]
        exact ih

/-- Insertion does not touch what is found under other keys. -/
theorem lookup_insertEntry_of_ne (h : other ≠ key) (entries : List (String × α)) :
    (insertEntry key value entries).lookup other = entries.lookup other := by
  have hkey : (other == key) = false := beq_eq_false_iff_ne.2 h
  induction entries with
  | nil => simp [insertEntry, List.lookup_cons, hkey]
  | cons head rest ih =>
    obtain ⟨k, v⟩ := head
    unfold insertEntry
    split
    · rw [List.lookup_cons, hkey]
    · split
      · next heq =>
        -- the entry that is replaced has another key than the one looked up
        subst heq
        rw [List.lookup_cons, List.lookup_cons, hkey]
      · rw [List.lookup_cons, ih, List.lookup_cons]

/-- Insertion brings in its own key and keeps the others. -/
theorem mem_keys_insertEntry (entries : List (String × α)) :
    other ∈ (insertEntry key value entries).map (·.1) ↔
      other = key ∨ other ∈ entries.map (·.1) := by
  induction entries with
  | nil => simp [insertEntry]
  | cons head rest ih =>
    obtain ⟨k, v⟩ := head
    unfold insertEntry
    split
    · simp
    · split
      · next heq =>
        subst heq
        simp
      · rw [List.map_cons, List.mem_cons, ih, List.map_cons, List.mem_cons]
        tauto

/-! ## Dictionaries -/

namespace Dict

@[simp] theorem get?_insert_self (d : Dict α) : (d.insert key value).get? key = some value :=
  lookup_insertEntry_self d.entries

/-- What is found under other keys stays the same. -/
theorem get?_insert_of_ne (h : other ≠ key) (d : Dict α) :
    (d.insert key value).get? other = d.get? other :=
  lookup_insertEntry_of_ne h d.entries

/-- The keys behind an insertion are those before and the new one. -/
theorem mem_keys_insert (d : Dict α) :
    other ∈ (d.insert key value).keys ↔ other = key ∨ other ∈ d.keys :=
  mem_keys_insertEntry d.entries

/-- Many insertions bring in all their keys. -/
theorem mem_keys_foldl_insert (entries : List (String × α)) (d : Dict α) :
    other ∈ (entries.foldl (fun d e => d.insert e.1 e.2) d).keys ↔
      other ∈ entries.map (·.1) ∨ other ∈ d.keys := by
  induction entries generalizing d with
  | nil => simp
  | cons e entries ih =>
    rw [List.foldl_cons, ih, mem_keys_insert, List.map_cons, List.mem_cons]
    tauto

/-- The keys of a dictionary are those that it was made from. -/
theorem mem_keys_ofList (entries : List (String × α)) :
    other ∈ (ofList entries).keys ↔ other ∈ entries.map (·.1) := by
  have hempty : other ∉ (empty : Dict α).keys := List.not_mem_nil
  rw [ofList, mem_keys_foldl_insert]
  tauto

/-- The keys of a dictionary are listed in ascending order, each of them once. -/
theorem keys_sorted (d : Dict α) : d.keys.Pairwise (· < ·) :=
  List.pairwise_map.2 d.sorted

/-- Dictionaries with the same keys list them in the same order. -/
theorem keys_eq_of_mem_iff {β : Type} {d : Dict α} {d' : Dict β}
    (h : ∀ name, name ∈ d.keys ↔ name ∈ d'.keys) : d.keys = d'.keys :=
  d.keys_sorted.eq_of_mem_iff d'.keys_sorted h

/-- An entry is there exactly if it is found: keys do not repeat. -/
theorem mem_entries_iff (d : Dict α) : (key, value) ∈ d.entries ↔ d.get? key = some value := by
  rw [get?, List.lookup_eq_some_iff]
  constructor
  · intro h
    obtain ⟨before, after, heq⟩ := List.append_of_mem h
    have hsorted := d.sorted
    rw [heq] at hsorted
    refine ⟨before, after, heq, fun e he => bne_iff_ne.2 fun hkey => ?_⟩
    have hlt : e.1 < key := (List.pairwise_append.1 hsorted).2.2 e he (key, value) (by simp)
    rw [← hkey] at hlt
    exact String.lt_irrefl key hlt
  · rintro ⟨before, after, heq, -⟩
    rw [heq]
    exact List.mem_append_right _ (List.mem_cons_self ..)

/-- Dictionaries in which the same is found under every key are equal. -/
theorem ext_get? {d d' : Dict α} (h : ∀ key, d.get? key = d'.get? key) : d = d' := by
  have hirrefl : Std.Irrefl fun e e' : String × α => e.1 < e'.1 := ⟨fun e => String.lt_irrefl e.1⟩
  have hantisymm : Std.Antisymm fun e e' : String × α => e.1 < e'.1 :=
    ⟨fun e e' hlt hlt' => absurd (String.lt_trans hlt hlt') (String.lt_irrefl e.1)⟩
  refine ext (d.sorted.eq_of_mem_iff d'.sorted fun ⟨key, value⟩ => ?_)
  rw [mem_entries_iff, mem_entries_iff, h]

end Dict
end ChrootScan
