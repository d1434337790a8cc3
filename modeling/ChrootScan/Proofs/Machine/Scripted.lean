import ChrootScan.Machine.Scripted
import ChrootScan.Proofs.Record.Routine

/-!
# Endings of canned programs

A machine with canned programs keeps the promise that the exit code of a scan rests on, if its table
does (`Scripted.exits`): a program of the table ends by its rule or by a signal, and a script with
the number of an `exit`.
-/

namespace ChrootScan

/-! ## Scripts -/

/-- A script ends with a code that is not below zero, as none of its lines does. -/
theorem Script.nonneg_runLines (argv : List String) (lines : List (List Char)) :
    0 ≤ (runLines argv lines).2 := by
  induction lines with
  | nil => exact le_rfl
  | cons line rest ih =>
    rw [runLines]
    dsimp only
    split
    · exact ih
    · exact ih
    · exact Int.natCast_nonneg _
    · exact le_rfl
    · exact ih

/-! ## Rules -/

/-- Neither the code nor the signal of a rule is below zero. -/
structure Rule.Proper (rule : Rule) : Prop where
  code : 0 ≤ rule.code
  signal : ∀ signal ∈ rule.signal, 0 ≤ signal

namespace Rule

variable {rule : Rule} {rules : List Rule}

/-- A rule ends a program with a code that is not below zero, whichever signal is passed on. -/
theorem Proper.nonneg_ending (h : rule.Proper) (base location : String) {passedOn : Option Int}
    (hpassed : ∀ signal ∈ passedOn, 0 ≤ signal) :
    0 ≤ ((rule.run base location).ending passedOn).code := by
  have hkilled {signal : Int} (hsignal : 0 ≤ signal) : 0 ≤ (Ending.killed signal).code := by
    rw [Ending.code]
    omega
  unfold run
  dsimp only
  split
  · exact hkilled (hpassed _ rfl)
  · next hsignal _ => exact hkilled (h.signal _ hsignal)
  · exact h.code

/-- Where no rule answers, a program exits with zero. -/
theorem proper_select (h : ∀ rule ∈ rules, rule.Proper) (argv : List String) :
    (select rules argv).Proper := by
  rw [select]
  cases hfind : rules.find? fun r => Text.contains r.pattern (line argv) with
  | none => exact ⟨le_rfl, nofun⟩
  | some rule => exact h rule (List.mem_of_find?_eq_some hfind)

end Rule

/-! ## Machines -/

/-- No program of a machine with canned programs ends with a code below zero, if none of its rules
says so and no such signal waits for one of them. -/
theorem Scripted.exits {base bin : String} {rules : List Rule} {m : Machine}
    (hrules : ∀ rule ∈ rules, rule.Proper) (hbehaviour : m.behaviour = behaviour base bin rules)
    (hawaited : ∀ signal ∈ m.awaited, 0 ≤ signal) : m.Exits := by
  intro n t vars argv run hrun passedOn hpassed
  rw [hbehaviour, behaviour] at hrun
  dsimp only at hrun
  split at hrun
  · cases hrun
  split at hrun
  · cases hrun
  split at hrun
  · cases hrun
    exact (Rule.proper_select hrules argv).nonneg_ending _ _ fun signal hsignal =>
      hawaited signal (hpassed signal hsignal)
  · split at hrun
    · cases hrun
    · cases hrun
      exact Script.nonneg_runLines argv _

end ChrootScan
