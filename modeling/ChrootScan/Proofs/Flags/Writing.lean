import ChrootScan.Plan
import ChrootScan.Proofs.Dict
import ChrootScan.Proofs.Text.Fields

/-!
# Flags written one matrix after another

Every write decodes the variables, merges its flags and encodes the result again. What is decoded is
what was encoded (`items_join`), so writing several matrices is writing all their flags at once
(`writeTo_writeTo`): what a variable held is followed by the flags that it did not hold, each once
and in the order of the writes.
-/

namespace ChrootScan

/-! ## Lists without repetitions -/

namespace Plan

/-- Dropping repetitions drops no element altogether. -/
theorem mem_distinct {x : String} {l : List String} : x ∈ distinct l ↔ x ∈ l := by
  induction l with
  | nil => rfl
  | cons y l ih =>
    rw [distinct, List.mem_cons, List.mem_cons, List.mem_filter, ih, decide_eq_true_iff]
    tauto

/-- Once repetitions are dropped, every element is there once. -/
theorem nodup_distinct (l : List String) : (distinct l).Nodup := by
  induction l with
  | nil => exact List.nodup_nil
  | cons x l ih =>
    rw [distinct, List.nodup_cons]
    exact ⟨by simp, ih.filter _⟩

/-- Dropping repetitions keeps the order. -/
theorem distinct_sublist (l : List String) : (distinct l).Sublist l := by
  induction l with
  | nil => exact List.Sublist.refl _
  | cons x l ih => exact (List.filter_sublist.trans ih).cons_cons x

end Plan

namespace FlagMatrix

/-! ## Items -/

/-- A flag that can be an item of a colon-separated value. -/
def IsItem (flag : String) : Prop :=
  flag ≠ "" ∧ ':' ∉ flag.toList

variable {flag value : String} {flags more old : List String}

/-- A flag without a colon is the only item of its value. -/
theorem items_of_isItem (h : IsItem flag) : items flag = [flag] := by
  rw [items, Text.splitAt_of_not_mem h.2]
  simp [h.1]

/-- What is read from a value has no colon and is not empty. -/
theorem isItem_of_mem_items (h : flag ∈ items value) : IsItem flag := by
  rw [items, List.mem_filter, decide_eq_true_iff] at h
  exact ⟨h.2, Text.not_mem_of_mem_splitAt h.1⟩

/-- The items of a joined text are those of its pieces. -/
theorem items_join (flags : List String) :
    items (Text.join ":" flags) = flags.flatMap items := by
  by_cases hempty : flags = []
  · subst hempty
    rfl
  · rw [items, Text.splitAt_join ':' ":" rfl hempty, List.filter_flatMap]
    rfl

/-- Flags without colons are read back as they were written. -/
theorem items_join_of_isItem (h : ∀ f ∈ flags, IsItem f) :
    items (Text.join ":" flags) = flags := by
  rw [items_join, List.flatMap_congr fun f hf => items_of_isItem (h f hf)]
  exact List.flatMap_singleton' flags

/-! ## Merging -/

/-- Flags that are merged in two portions are merged as if they were one. -/
theorem merge_append : merge old (flags ++ more) = merge (merge old flags) more :=
  List.foldl_append

/-- Merging puts the flags that are not there yet behind those that are, each once. -/
theorem merge_eq (old flags : List String) :
    merge old flags = old ++ (Plan.distinct flags).filter (· ∉ old) := by
  induction flags generalizing old with
  | nil => simp [merge, Plan.distinct]
  | cons f flags ih =>
    have hstep : merge old (f :: flags) =
        merge (if old.contains f then old else old ++ [f]) flags := rfl
    rw [hstep, ih, Plan.distinct]
    by_cases hf : f ∈ old
    · rw [if_pos (List.contains_iff_mem.2 hf), List.filter_cons_of_neg (by simpa using hf),
        List.filter_filter]
      -- whatever is not in `old` is another flag than `f`
      refine congrArg (old ++ ·) (List.filter_congr fun x _ => ?_)
      by_cases hx : x = f
      · simp [hx, hf]
      · simp [hx]
    · rw [if_neg (mt List.contains_iff_mem.1 hf), List.filter_cons_of_pos (by simpa using hf),
        List.filter_filter, List.append_assoc]
      refine congrArg (fun l => old ++ f :: l) (List.filter_congr fun x _ => ?_)
      simp

/-- Merging drops no flag altogether. -/
theorem mem_merge : flag ∈ merge old flags ↔ flag ∈ old ∨ flag ∈ flags := by
  rw [merge_eq, List.mem_append, List.mem_filter, Plan.mem_distinct, decide_eq_true_iff]
  tauto

/-- Merging keeps what was there in front, and the order of what is added. -/
theorem merge_sublist (old flags : List String) : (merge old flags).Sublist (old ++ flags) := by
  rw [merge_eq]
  exact (List.filter_sublist.trans (Plan.distinct_sublist flags)).append_left old

/-- Merging repeats no flag that was not repeated. -/
theorem count_merge_le (old flags : List String) (f : String) :
    (merge old flags).count f ≤ max (old.count f) 1 := by
  have hnew := List.nodup_iff_count_le_one.1 ((Plan.nodup_distinct flags).filter (· ∉ old)) f
  rw [merge_eq, List.count_append]
  by_cases hf : f ∈ old
  · have hnone : ((Plan.distinct flags).filter (· ∉ old)).count f = 0 :=
      List.count_eq_zero.2 (by simp [hf])
    omega
  · have hnone : old.count f = 0 := List.count_eq_zero.2 hf
    omega

/-! ## One matrix -/

/-- The variables that flags travel in. -/
def flagVars : List String :=
  [addCVar, delCVar, addCxxVar, delCxxVar]

/-- The flags that a matrix has for a variable. -/
def flagsFor (m : FlagMatrix) (name : String) : List String :=
  (m.entries.lookup name).getD []

/-- The items that a variable holds. -/
def held (env : Env) (name : String) : List String :=
  ((env.get? name).map items).getD []

variable {m m' : FlagMatrix} {ms : List FlagMatrix} {env : Env} {name : String}

/-- Writing flags leaves variables of other names alone. -/
theorem get?_foldl_writeVariable {entries : List (String × List String)}
    (h : ∀ entry ∈ entries, name ≠ entry.1) (env : Env) :
    (entries.foldl writeVariable env).get? name = env.get? name := by
  induction entries generalizing env with
  | nil => rfl
  | cons entry entries ih =>
    obtain ⟨hentry, hentries⟩ := List.forall_mem_cons.1 h
    rw [List.foldl_cons, ih hentries, writeVariable, Dict.get?_insert_of_ne hentry]

/-- Flags have variables of their own. -/
theorem get?_writeTo_of_not_mem (h : name ∉ flagVars) (m : FlagMatrix) (env : Env) :
    (m.writeTo env).get? name = env.get? name := by
  refine get?_foldl_writeVariable (fun entry hentry heq => h ?_) env
  have hnames : m.entries.map (·.1) = flagVars := rfl
  rw [← hnames, heq]
  exact List.mem_map_of_mem hentry

/-- A variable that flags travel in holds what it held, and the flags of the matrix that it did not
hold. -/
theorem get?_writeTo (h : name ∈ flagVars) (m : FlagMatrix) (env : Env) :
    (m.writeTo env).get? name = some (Text.join ":" (merge (held env name) (m.flagsFor name))) := by
  have hwrite (before : List (String × List String)) {after : List (String × List String)}
      {flags : List String}
      (hentries : m.entries = before ++ (name, flags) :: after) (hlookup : m.flagsFor name = flags)
      (hbefore : ∀ entry ∈ before, name ≠ entry.1) (hafter : ∀ entry ∈ after, name ≠ entry.1) :
      (m.writeTo env).get? name =
        some (Text.join ":" (merge (held env name) (m.flagsFor name))) := by
    rw [writeTo, hentries, List.foldl_append, List.foldl_cons, get?_foldl_writeVariable hafter,
      writeVariable, Dict.get?_insert_self, get?_foldl_writeVariable hbefore, hlookup]
    rfl
  simp only [flagVars, List.mem_cons, List.not_mem_nil, or_false] at h
  rcases h with rfl | rfl | rfl | rfl
  · exact hwrite [] rfl rfl (by simp) (by simp; decide)
  · exact hwrite [_] rfl rfl (by simp; decide) (by simp; decide)
  · exact hwrite [_, _] rfl rfl (by simp; decide) (by simp; decide)
  · exact hwrite [_, _, _] rfl rfl (by simp; decide) (by simp)

/-- What a variable holds behind a write is read from the flags that were merged. -/
theorem held_writeTo (h : name ∈ flagVars) (m : FlagMatrix) (env : Env) :
    held (m.writeTo env) name = (merge (held env name) (m.flagsFor name)).flatMap items := by
  rw [held, get?_writeTo h, Option.map_some, Option.getD_some, items_join]

/-- What a variable holds is items. -/
theorem isItem_of_mem_held {flag : String} (h : flag ∈ held env name) : IsItem flag := by
  unfold held at h
  cases hvalue : env.get? name with
  | none =>
    rw [hvalue] at h
    cases h
  | some value =>
    rw [hvalue] at h
    exact isItem_of_mem_items h

/-- What a variable held is kept, and flags that can be items are added, whatever other flags are
written with them. -/
theorem mem_held_writeTo (h : name ∈ flagVars) {flag : String} (hflag : IsItem flag)
    (hmem : flag ∈ held env name ∨ flag ∈ m.flagsFor name) : flag ∈ held (m.writeTo env) name := by
  rw [held_writeTo h]
  refine List.mem_flatMap.2 ⟨flag, mem_merge.2 hmem, ?_⟩
  rw [items_of_isItem hflag]
  exact List.mem_singleton_self flag

/-! ## Several matrices -/

/-- The environment behind several matrices that are written one after another. -/
def writeAll (ms : List FlagMatrix) (env : Env) : Env :=
  ms.foldl (fun env m => m.writeTo env) env

/-- Each flag of a matrix can be an item. -/
def Itemized (m : FlagMatrix) : Prop :=
  ∀ name ∈ flagVars, ∀ f ∈ m.flagsFor name, IsItem f

/-- All flags of several matrices. -/
def concat (ms : List FlagMatrix) : FlagMatrix where
  addC := ms.flatMap addC
  delC := ms.flatMap delC
  addCxx := ms.flatMap addCxx
  delCxx := ms.flatMap delCxx

/-- The flags of several matrices for a variable are those of each one, in order. -/
theorem flagsFor_concat (h : name ∈ flagVars) (ms : List FlagMatrix) :
    (concat ms).flagsFor name = ms.flatMap (·.flagsFor name) := by
  simp only [flagVars, List.mem_cons, List.not_mem_nil, or_false] at h
  rcases h with rfl | rfl | rfl | rfl <;> rfl

/-- What a variable holds are items, so those of a matrix are read back as they were written. -/
theorem held_writeTo_of_itemized (hm : m.Itemized) (h : name ∈ flagVars) (env : Env) :
    held (m.writeTo env) name = merge (held env name) (m.flagsFor name) := by
  have hitems : ∀ f ∈ merge (held env name) (m.flagsFor name), IsItem f := fun f hf =>
    (mem_merge.1 hf).elim isItem_of_mem_held (hm name h f)
  rw [held, get?_writeTo h, Option.map_some, Option.getD_some, items_join_of_isItem hitems]

/-- Writing one matrix after another is writing the flags of both at once. -/
theorem writeTo_writeTo {both : FlagMatrix} (hm : m.Itemized)
    (hboth : ∀ name ∈ flagVars, both.flagsFor name = m.flagsFor name ++ m'.flagsFor name)
    (env : Env) : m'.writeTo (m.writeTo env) = both.writeTo env := by
  refine Dict.ext_get? fun name => ?_
  by_cases h : name ∈ flagVars
  · rw [get?_writeTo h, get?_writeTo h, held_writeTo_of_itemized hm h, hboth name h, merge_append]
  · rw [get?_writeTo_of_not_mem h, get?_writeTo_of_not_mem h, get?_writeTo_of_not_mem h]

/-- Writing several matrices writes all their flags at once. -/
theorem writeAll_eq (hne : ms ≠ []) (hms : ∀ m ∈ ms, m.Itemized) (env : Env) :
    writeAll ms env = (concat ms).writeTo env := by
  induction ms generalizing env with
  | nil => exact absurd rfl hne
  | cons m ms ih =>
    obtain ⟨hm, hrest⟩ := List.forall_mem_cons.1 hms
    by_cases hlast : ms = []
    · subst hlast
      have hsingle : concat [m] = m := by simp [concat]
      rw [hsingle]
      rfl
    · have hstep : writeAll (m :: ms) env = writeAll ms (m.writeTo env) := rfl
      rw [hstep, ih hlast hrest]
      refine writeTo_writeTo hm (fun name h => ?_) env
      rw [flagsFor_concat h, flagsFor_concat h, List.flatMap_cons]

/-- Several matrices have flags without colons if each of them does. -/
theorem itemized_concat (hms : ∀ m ∈ ms, m.Itemized) : (concat ms).Itemized := by
  intro name h f hf
  rw [flagsFor_concat h] at hf
  obtain ⟨m, hm, hf⟩ := List.mem_flatMap.1 hf
  exact hms m hm name h f hf

/-- Matrices written one after another. What a variable held stays in front, in its order; behind it
come the flags of all matrices in the order of the writes, each once and only if it was not held
before. So no flag is lost and none is repeated that was not, the environment is the one that all
flags written at once give, and no other variable changes. -/
theorem writes_merge (hne : ms ≠ []) (hms : ∀ m ∈ ms, m.Itemized) (env : Env) :
    (∀ name ∈ flagVars,
      ((writeAll ms env).get? name).isSome = true ∧
      held (writeAll ms env) name = held env name ++
        (Plan.distinct (ms.flatMap (·.flagsFor name))).filter (· ∉ held env name) ∧
      (held (writeAll ms env) name).Sublist (held env name ++ ms.flatMap (·.flagsFor name)) ∧
      (∀ m ∈ ms, ∀ f ∈ m.flagsFor name, f ∈ held (writeAll ms env) name) ∧
      ∀ f, (held (writeAll ms env) name).count f ≤ max ((held env name).count f) 1) ∧
    writeAll ms env = (concat ms).writeTo env ∧
    ∀ name ∉ flagVars, (writeAll ms env).get? name = env.get? name := by
  rw [writeAll_eq hne hms env]
  refine ⟨fun name h => ?_, rfl, fun name h => get?_writeTo_of_not_mem h _ _⟩
  have hheld : held ((concat ms).writeTo env) name =
      merge (held env name) (ms.flatMap (·.flagsFor name)) := by
    rw [held_writeTo_of_itemized (itemized_concat hms) h, flagsFor_concat h]
  rw [hheld]
  refine ⟨?_, merge_eq _ _, merge_sublist _ _, fun m hm f hf => ?_, count_merge_le _ _⟩
  · rw [get?_writeTo h]
    rfl
  · exact mem_merge.2 (.inr (List.mem_flatMap.2 ⟨m, hm, hf⟩))

/-- A flag that two matrices share is written once, behind one that stood in the variable twice. -/
theorem writes_merge_shared :
    held (writeAll
      [({} : FlagMatrix).append ["-Wall", "-g"], ({} : FlagMatrix).append ["-g", "-O0"]]
      (Dict.ofList [(addCVar, "-g0::-g0")])) addCVar =
        ["-g0", "-g0", "-Wall", "-g", "-O0"] := by
  have hitems : ∀ m ∈ [({} : FlagMatrix).append ["-Wall", "-g"],
      ({} : FlagMatrix).append ["-g", "-O0"]], m.Itemized := by
    unfold Itemized IsItem
    decide
  obtain ⟨hvars, -, -⟩ := writes_merge (List.cons_ne_nil _ _) hitems
    (Dict.ofList [(addCVar, "-g0::-g0")])
  obtain ⟨-, hheld, -⟩ := hvars addCVar (by decide)
  rw [hheld]
  decide

end FlagMatrix
end ChrootScan
