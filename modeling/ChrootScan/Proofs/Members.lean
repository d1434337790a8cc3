import ChrootScan.Json
import Mathlib.Data.String.Basic

/-!
# Members of JSON values

What is read from a value tells its form. A member that is put into an object is found there
(`lookup_insertMember`), the others stay as they are (`filter_insertMember`), and their names stay
in order (`Ordered.insertMember`).
-/

namespace ChrootScan.Json

variable {name : String} {value : Json} {members : List (String × Json)}

/-- Only a string is read as a text, and it is read as it is. -/
theorem string?_eq_some_iff {s : String} : value.string? = some s ↔ value = .string s := by
  cases value with
  | string t => rw [string?, Option.some_inj, Json.string.injEq]
  | _ => exact iff_of_false nofun nofun

/-- Only a whole number that is not negative is read as one. -/
theorem natural?_eq_some_iff {n : Nat} :
    value.natural? = some n ↔ value = .number (.natural n) := by
  cases value with
  | number number =>
    cases number with
    | natural m => rw [natural?, Option.some_inj, Json.number.injEq, JsonNumber.natural.injEq]
    | _ => exact iff_of_false nofun nofun
  | _ => exact iff_of_false nofun nofun

/-- Only an array has items. -/
theorem array?_eq_some_iff {items : List Json} : value.array? = some items ↔ value = .array items := by
  cases value with
  | array all => rw [array?, Option.some_inj, Json.array.injEq]
  | _ => exact iff_of_false nofun nofun

/-- A first item is that of an array which is not empty. -/
theorem item?_zero_eq_some_iff {first : Json} :
    value.item? 0 = some first ↔ ∃ rest, value = .array (first :: rest) := by
  cases value with
  | array items =>
    cases items with
    | nil => exact iff_of_false nofun nofun
    | cons item items => simp [item?]
  | _ => exact iff_of_false nofun nofun

/-- What has a member is an object. -/
theorem exists_members_of_get? {found : Json} (h : value.get? name = some found) :
    ∃ members, value = .object members := by
  cases value with
  | object members => exact ⟨members, rfl⟩
  | _ => cases h

/-! ## Insertion -/

/-- A member that was put into an object is found under its name, whatever was there before. -/
theorem lookup_insertMember (name : String) (value : Json) (members : List (String × Json)) :
    (insertMember name value members).lookup name = some value := by
  induction members with
  | nil => exact List.lookup_cons_self
  | cons member rest ih =>
    rw [insertMember]
    split
    · exact List.lookup_cons_self
    · split
      · exact List.lookup_cons_self
      · next hne =>
        rw [List.lookup_cons, beq_false_of_ne hne]
        exact ih

/-- Insertion leaves all members with other names as they were, in the same order. -/
theorem filter_insertMember (name : String) (value : Json) (members : List (String × Json)) :
    (insertMember name value members).filter (·.1 ≠ name) = members.filter (·.1 ≠ name) := by
  have hself {rest : List (String × Json)} :
      ((name, value) :: rest).filter (·.1 ≠ name) = rest.filter (·.1 ≠ name) :=
    List.filter_cons_of_neg (by simp)
  induction members with
  | nil => exact hself
  | cons member rest ih =>
    rw [insertMember]
    split
    · exact hself
    · split
      · next hsame =>
        rw [hself, List.filter_cons_of_neg]
        simpa using hsame.symm
      · rw [List.filter_cons, List.filter_cons, ih]

/-- The names of members are in ascending order, each of them once. -/
def Ordered (members : List (String × Json)) : Prop :=
  (members.map Prod.fst).Pairwise (· < ·)

/-- Insertion brings no name in but the one that is inserted. -/
theorem mem_map_insertMember {other : String}
    (h : other ∈ (insertMember name value members).map Prod.fst) :
    other = name ∨ other ∈ members.map Prod.fst := by
  induction members with
  | nil => exact .inl (List.mem_singleton.1 h)
  | cons member rest ih =>
    rw [insertMember] at h
    split at h
    · exact List.mem_cons.1 h
    · split at h
      · exact (List.mem_cons.1 h).imp_right (List.mem_cons_of_mem _)
      · obtain rfl | h := List.mem_cons.1 h
        · exact .inr List.mem_cons_self
        · exact (ih h).imp_right (List.mem_cons_of_mem _)

/-- Insertion keeps the names in order: a new one is put in front of the first greater one, and one
that was there already is not repeated. -/
theorem Ordered.insertMember (h : Ordered members) (name : String) (value : Json) :
    Ordered (insertMember name value members) := by
  induction members with
  | nil => exact List.pairwise_singleton _ _
  | cons member rest ih =>
    obtain ⟨hfirst, hrest⟩ := List.pairwise_cons.1 h
    rw [Json.insertMember]
    split
    · next hbefore =>
      refine List.pairwise_cons.2 ⟨?_, h⟩
      intro other hother
      obtain rfl | hother := List.mem_cons.1 hother
      · exact hbefore
      · exact hbefore.trans (hfirst other hother)
    · next hafter =>
      split
      · next hsame => exact List.pairwise_cons.2 ⟨hsame ▸ hfirst, hrest⟩
      · next hne =>
        refine List.pairwise_cons.2 ⟨?_, ih hrest⟩
        intro other hother
        obtain rfl | hother := mem_map_insertMember hother
        · exact lt_of_le_of_ne (not_lt.1 hafter) (Ne.symm hne)
        · exact hfirst other hother

end ChrootScan.Json
