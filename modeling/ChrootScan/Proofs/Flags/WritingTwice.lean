import ChrootScan.Proofs.Flags.Writing
import Mathlib.Data.List.TakeWhile

/-!
# Flags written twice

What a matrix has written should be found in the variables again, and writing the matrix once more
should change nothing. Both hang on the colon between the items: a flag that holds a colon is read
back in pieces, so it is not found, and the next write appends it another time. A flag that is empty
is found, but it is dropped when the value is read back and put at the end of it by the next write, so
it has to stand there already (`written_once_iff`).
-/

namespace ChrootScan.FlagMatrix

/-! ## Items of a value -/

/-- What stands in a variable between its colons, empty items included. -/
def pieces (env : Env) (name : String) : List String :=
  ((env.get? name).map (Text.splitAt ':')).getD []

/-- From the first empty flag on, there is none that neither stands before it nor is held. -/
def NoneNewFromEmpty (old flags : List String) : Prop :=
  ∀ f ∈ flags.dropWhile (· ≠ ""), f ≠ "" → f ∈ flags.takeWhile (· ≠ "") ∨ f ∈ old

variable {m : FlagMatrix} {env : Env} {name : String} {old flags : List String}

/-- Among the items of a variable are all flags that were written exactly if none holds a colon. -/
theorem mem_pieces_writeTo_iff (h : name ∈ flagVars) (m : FlagMatrix) (env : Env) :
    (∀ f ∈ m.flagsFor name, f ∈ pieces (m.writeTo env) name) ↔
      ∀ f ∈ m.flagsFor name, ':' ∉ f.toList := by
  have hpieces : pieces (m.writeTo env) name =
      Text.splitAt ':' (Text.join ":" (merge (held env name) (m.flagsFor name))) := by
    rw [pieces, get?_writeTo h]
    rfl
  rw [hpieces]
  constructor
  · intro hall f hf
    exact Text.not_mem_of_mem_splitAt (hall f hf)
  · intro hcolon f hf
    have hmerged : f ∈ merge (held env name) (m.flagsFor name) := mem_merge.2 (.inr hf)
    rw [Text.splitAt_join ':' ":" rfl (List.ne_nil_of_mem hmerged)]
    refine List.mem_flatMap.2 ⟨f, hmerged, ?_⟩
    rw [Text.splitAt_of_not_mem (hcolon f hf)]
    exact List.mem_singleton_self f

/-! ## The second write -/

/-- Without colons, reading back loses the empty flags alone. -/
theorem items_join_of_not_mem (h : ∀ f ∈ flags, ':' ∉ f.toList) :
    items (Text.join ":" flags) = flags.filter (· ≠ "") := by
  by_cases hempty : flags = []
  · subst hempty
    rfl
  · rw [items, Text.splitAt_join_of_not_mem ':' ":" rfl hempty h]

/-- Without colons, a value is known from its items. -/
theorem join_inj (hne : flags ≠ []) (h : ∀ f ∈ flags, ':' ∉ f.toList) (hne' : old ≠ [])
    (hold : ∀ f ∈ old, ':' ∉ f.toList) : Text.join ":" flags = Text.join ":" old ↔ flags = old := by
  constructor
  · intro heq
    rw [← Text.splitAt_join_of_not_mem ':' ":" rfl hne h, heq,
      Text.splitAt_join_of_not_mem ':' ":" rfl hne' hold]
  · intro heq
    rw [heq]

theorem merge_of_subset (h : ∀ f ∈ flags, f ∈ old) : merge old flags = old := by
  have hnone : (Plan.distinct flags).filter (· ∉ old) = [] := by
    refine List.filter_eq_nil_iff.2 fun f hf => ?_
    simpa using h f (Plan.mem_distinct.1 hf)
  rw [merge_eq, hnone, List.append_nil]

theorem merge_cons_of_not_mem {flag : String} (h : flag ∉ old) (flags : List String) :
    merge old (flag :: flags) = merge (old ++ [flag]) flags := by
  show merge (if old.contains flag then old else old ++ [flag]) flags = _
  rw [if_neg (mt List.contains_iff_mem.1 h)]

/-- If only one flag is missing, it comes behind the others. -/
theorem merge_of_missing {flag : String} (hmem : flag ∈ flags) (hnot : flag ∉ old)
    (h : ∀ f ∈ flags, f ≠ flag → f ∈ old) : merge old flags = old ++ [flag] := by
  have hmissing : (Plan.distinct flags).filter (· ∉ old) = (Plan.distinct flags).filter (· = flag) := by
    refine List.filter_congr fun f hf => ?_
    by_cases hflag : f = flag
    · simp [hflag, hnot]
    · simp [hflag, h f (Plan.mem_distinct.1 hf) hflag]
  have hcount : (Plan.distinct flags).count flag = 1 :=
    List.count_eq_one_of_mem (Plan.nodup_distinct flags) (Plan.mem_distinct.2 hmem)
  rw [merge_eq, hmissing, List.filter_eq, hcount]
  rfl

theorem filter_nonempty_eq_self (h : "" ∉ flags) : flags.filter (· ≠ "") = flags := by
  refine List.filter_eq_self.2 fun f hf => ?_
  simpa using fun hempty : f = "" => h (hempty ▸ hf)

section

variable {before after : List String}

/-- The flags that are new behind a first empty one. -/
def newBehindEmpty (old before after : List String) : List String :=
  (Plan.distinct after).filter (· ∉ merge old before ++ [""])

theorem not_mem_newBehindEmpty : "" ∉ newBehindEmpty old before after := by
  simp [newBehindEmpty]

theorem merge_first_empty (h : "" ∉ merge old before) (after : List String) :
    merge old (before ++ "" :: after) =
      merge old before ++ "" :: newBehindEmpty old before after := by
  rw [merge_append, merge_cons_of_not_mem h, merge_eq, List.append_assoc, List.singleton_append,
    newBehindEmpty]

/-- Nothing is new behind an empty flag exactly if all flags there were in front of it, or before.
-/
theorem newBehindEmpty_eq_nil_iff :
    newBehindEmpty old before after = [] ↔ ∀ f ∈ after, f ≠ "" → f ∈ before ∨ f ∈ old := by
  rw [newBehindEmpty, List.filter_eq_nil_iff]
  constructor
  · intro hnone f hf hne
    have hmerged : f ∈ merge old before := by
      simpa [hne] using hnone f (Plan.mem_distinct.2 hf)
    exact (mem_merge.1 hmerged).symm
  · intro hall f hf
    by_cases hne : f = ""
    · simp [hne]
    · have hmerged : f ∈ merge old before :=
        mem_merge.2 (hall f (Plan.mem_distinct.1 hf) hne).symm
      simp [hmerged]

/-- Nothing is new from the first empty flag on exactly if nothing is new behind it. -/
theorem noneNewFromEmpty_iff (h : "" ∉ before) :
    NoneNewFromEmpty old (before ++ "" :: after) ↔ newBehindEmpty old before after = [] := by
  have hbefore : ∀ f ∈ before, decide (f ≠ "") = true := by
    intro f hf
    simpa using fun hempty : f = "" => h (hempty ▸ hf)
  rw [NoneNewFromEmpty, List.takeWhile_append_of_pos hbefore, List.dropWhile_append_of_pos hbefore,
    newBehindEmpty_eq_nil_iff]
  simp

/-- An empty flag that is put to the end stands where it stood only if it was the last one. -/
theorem move_to_end_iff {front new : List String} (h : "" ∉ new) :
    front ++ new ++ [""] = front ++ "" :: new ↔ new = [] := by
  rw [List.append_assoc, List.append_cancel_left_eq]
  cases new with
  | nil => simp
  | cons f new =>
    have hne : f ≠ "" := fun heq => h (heq ▸ List.mem_cons_self)
    simp [hne]

end

/-- Without colons, the second value is the first one exactly if no flag is new from the first empty
one on. -/
theorem join_merge_again_iff (hold : ∀ f ∈ old, IsItem f) (h : ∀ f ∈ flags, ':' ∉ f.toList) :
    Text.join ":" (merge (items (Text.join ":" (merge old flags))) flags) =
        Text.join ":" (merge old flags) ↔ NoneNewFromEmpty old flags := by
  have hcolon : ∀ f ∈ merge old flags, ':' ∉ f.toList := fun f hf =>
    (mem_merge.1 hf).elim (fun hf => (hold f hf).2) (h f)
  have hempty : "" ∉ old := fun hmem => (hold "" hmem).1 rfl
  rw [items_join_of_not_mem hcolon]
  by_cases hmem : "" ∈ flags
  · -- the empty flag is lost, and is put to the end again
    obtain ⟨before, after, rfl, hbefore⟩ := List.eq_append_cons_of_mem hmem
    have hfront : "" ∉ merge old before := fun hmem => (mem_merge.1 hmem).elim hempty hbefore
    have hmerge := merge_first_empty hfront after
    have hread : (merge old (before ++ "" :: after)).filter (· ≠ "") =
        merge old before ++ newBehindEmpty old before after := by
      rw [hmerge, List.filter_append, List.filter_cons_of_neg (by simp),
        filter_nonempty_eq_self hfront, filter_nonempty_eq_self not_mem_newBehindEmpty]
    have hagain : merge (merge old before ++ newBehindEmpty old before after)
        (before ++ "" :: after) = merge old before ++ newBehindEmpty old before after ++ [""] := by
      refine merge_of_missing hmem (List.not_mem_append hfront not_mem_newBehindEmpty) ?_
      intro f hf hne
      have hmerged : f ∈ merge old (before ++ "" :: after) := mem_merge.2 (.inr hf)
      rw [hmerge] at hmerged
      simpa [hne] using hmerged
    rw [hread, hagain, noneNewFromEmpty_iff hbefore, ← move_to_end_iff not_mem_newBehindEmpty]
    rw [hmerge] at hcolon ⊢
    refine join_inj (by simp) (fun f hf => hcolon f ?_) (by simp) hcolon
    simp only [List.mem_append, List.mem_cons] at hf ⊢
    tauto
  · -- nothing is lost, so all flags are there already
    have hmerged : "" ∉ merge old flags := fun h => (mem_merge.1 h).elim hempty hmem
    have hnone : NoneNewFromEmpty old flags := by
      have hdrop : flags.dropWhile (· ≠ "") = [] := by
        refine List.dropWhile_eq_nil_iff.2 fun f hf => ?_
        simpa using fun heq : f = "" => hmem (heq ▸ hf)
      rw [NoneNewFromEmpty, hdrop]
      exact nofun
    rw [filter_nonempty_eq_self hmerged, merge_of_subset fun f hf => mem_merge.2 (.inr hf)]
    exact iff_of_true rfl hnone

/-- A second write changes nothing exactly if the values of the variables stay. -/
theorem writeTo_again_iff (m : FlagMatrix) (env : Env) :
    m.writeTo (m.writeTo env) = m.writeTo env ↔ ∀ name ∈ flagVars,
      Text.join ":" (merge (items (Text.join ":" (merge (held env name) (m.flagsFor name))))
        (m.flagsFor name)) = Text.join ":" (merge (held env name) (m.flagsFor name)) := by
  have hvalue {name : String} (h : name ∈ flagVars) : held (m.writeTo env) name =
      items (Text.join ":" (merge (held env name) (m.flagsFor name))) := by
    rw [held, get?_writeTo h]
    rfl
  constructor
  · intro heq name h
    have hget := congrArg (Dict.get? · name) heq
    rw [get?_writeTo h, get?_writeTo h, hvalue h] at hget
    exact Option.some.inj hget
  · intro hall
    refine Dict.ext_get? fun name => ?_
    by_cases h : name ∈ flagVars
    · rw [get?_writeTo h, get?_writeTo h, hvalue h, hall name h]
    · rw [get?_writeTo_of_not_mem h]

/-- Every flag is an item of its variable after a write, and a second write changes nothing, exactly
if no flag holds a colon and, from the first empty flag for a variable on, none is new there. All
flags are read back as items exactly if none is empty, either. -/
theorem written_once_iff (m : FlagMatrix) (env : Env) :
    ((∀ name ∈ flagVars, ∀ f ∈ m.flagsFor name, f ∈ pieces (m.writeTo env) name) ∧
        m.writeTo (m.writeTo env) = m.writeTo env ↔
      ∀ name ∈ flagVars, (∀ f ∈ m.flagsFor name, ':' ∉ f.toList) ∧
        NoneNewFromEmpty (held env name) (m.flagsFor name)) ∧
    ((∀ name ∈ flagVars, ∀ f ∈ m.flagsFor name, f ∈ held (m.writeTo env) name) ↔
      m.Itemized) := by
  refine ⟨?_, ?_⟩
  · constructor
    · rintro ⟨hitems, hagain⟩ name h
      have hcolon := (mem_pieces_writeTo_iff h m env).1 (hitems name h)
      -- the second write reads what the first one has written
      have hvalue := (writeTo_again_iff m env).1 hagain name h
      exact ⟨hcolon, (join_merge_again_iff (fun _ => isItem_of_mem_held) hcolon).1 hvalue⟩
    · intro hall
      refine ⟨fun name h => (mem_pieces_writeTo_iff h m env).2 (hall name h).1, ?_⟩
      refine (writeTo_again_iff m env).2 fun name h => ?_
      exact (join_merge_again_iff (fun _ => isItem_of_mem_held) (hall name h).1).2 (hall name h).2
  · constructor
    · intro hall name h f hf
      exact isItem_of_mem_held (hall name h f hf)
    · intro hm name h f hf
      exact mem_held_writeTo h (hm name h f hf) (.inr hf)

/-- A search path of two directories is cut at its colon, and appended once more by a second write. -/
theorem not_written_once_path :
    let flag := "-Wl,-rpath,/opt/a:/opt/b"
    let m := ({} : FlagMatrix).appendCustom { add := [flag] }
    let env : Env := Dict.empty
    flag ∈ m.flagsFor addCVar ∧
      pieces (m.writeTo env) addCVar = ["-Wl,-rpath,/opt/a", "/opt/b"] ∧
      (m.writeTo env).get? addCVar = some flag ∧
      (m.writeTo (m.writeTo env)).get? addCVar = some (flag ++ ":" ++ flag) := by
  decide +kernel

end ChrootScan.FlagMatrix
