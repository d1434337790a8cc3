import ChrootScan.Machine
import Mathlib.Tactic

/-!
# What the machine does

The two things that a scan sees of its surroundings while it runs are signals and program starts.
`start_cases` says all that a program start can do to a machine. `Heeding` is the promise that only
signals with a handler reach the scan; no step breaks it.
-/

namespace ChrootScan
namespace Machine

/-! ## Signals -/

/-- The signals with a handler: interrupt, quit, broken pipe and termination. -/
def handled : List Int := [2, 3, 13, 15]

/-- Only handled signals reach the scan, whatever programs it starts. -/
structure Heeding (m : Machine) : Prop where
  pending : m.pending = 0 ∨ m.pending ∈ handled
  arrivals : ∀ n signal, m.arrivals n = some signal → signal ∈ handled
  awaited : ∀ signal ∈ m.awaited, signal ∈ handled
  children : ∀ n t vars argv run, m.behaviour n t vars argv = .started run →
    ∀ signal ∈ run.arrivals, signal ∈ handled

/-- Handled signals are small enough for a code below 192. -/
theorem lt_of_mem_handled {signal : Int} (h : signal ∈ handled) : 0 < signal ∧ signal < 64 := by
  simp only [handled, List.mem_cons, List.not_mem_nil, or_false] at h
  omega

/-- A look takes a signal that arrives just then, or else the pending one. -/
theorem takeSignal_fst (m : Machine) :
    m.takeSignal.1 = if (m.arrivals m.looks).getD m.pending = 0 then none
      else some ((m.arrivals m.looks).getD m.pending) := rfl

namespace Heeding

variable {m : Machine}

/-- Where only handled signals reach the scan, a look finds no other one. -/
theorem mem_of_takeSignal (h : m.Heeding) {signal : Int} (htake : m.takeSignal.1 = some signal) :
    signal ∈ handled := by
  rw [takeSignal_fst] at htake
  split at htake
  · cases htake
  · next hne =>
    obtain rfl := Option.some.inj htake
    rcases harrival : m.arrivals m.looks with _ | arrived
    · rw [harrival] at hne
      exact h.pending.resolve_left hne
    · exact h.arrivals _ _ harrival

theorem takeSignal (h : m.Heeding) : m.takeSignal.2.Heeding :=
  ⟨.inl rfl, h.arrivals, h.awaited, h.children⟩

theorem raise (h : m.Heeding) {signal : Int} (hsignal : signal ∈ handled) :
    (m.raise signal).Heeding :=
  ⟨.inr hsignal, h.arrivals, h.awaited, h.children⟩

theorem withTree (h : m.Heeding) (t : FileTree) : { m with tree := t }.Heeding :=
  ⟨h.pending, h.arrivals, h.awaited, h.children⟩

theorem withStdout (h : m.Heeding) (out : ByteArray) : { m with stdout := out }.Heeding :=
  ⟨h.pending, h.arrivals, h.awaited, h.children⟩

end Heeding

/-! ## Programs -/

/-- Programs write nothing but files. -/
theorem foldl_writeFor (files : List (String × ByteArray)) (m : Machine) :
    ∃ t, files.foldl writeFor m = { m with tree := t } := by
  induction files generalizing m with
  | nil => exact ⟨m.tree, rfl⟩
  | cons file files ih =>
    obtain ⟨t, ht⟩ := ih (m.writeFor file)
    exact ⟨t, by rw [List.foldl_cons, ht]; rfl⟩

/-- A program is refused, or it is on record from then on. -/
theorem start_cases (m : Machine) (argv : List String) :
    (∃ cause, m.behaviour m.starts m.tree m.vars argv = .refused cause ∧
      m.start argv = (.error cause, { m with starts := m.starts + 1 })) ∨
    (∃ run t, m.behaviour m.starts m.tree m.vars argv = .started run ∧
      m.start argv =
        (.ok { run with arrivals := run.arrivals ++ if run.waits then m.awaited else [] },
          { m with
            starts := m.starts + 1
            calls := m.calls ++ [⟨run.location, argv⟩]
            tree := t
            awaited := if run.waits then [] else m.awaited })) := by
  rcases hbehaviour : m.behaviour m.starts m.tree m.vars argv with cause | run
  · refine .inl ⟨cause, rfl, ?_⟩
    simp only [start, hbehaviour]
  · -- the program counts as started before it writes its files
    obtain ⟨t, ht⟩ := foldl_writeFor run.writes
      { m with starts := m.starts + 1, calls := m.calls ++ [⟨run.location, argv⟩] }
    refine .inr ⟨run, t, rfl, ?_⟩
    simp only [start, hbehaviour, ht]
    rcases run with ⟨location, writes, out, err, _ | _, arrivals, ending⟩
    · simp only [Bool.false_eq_true, if_false, List.append_nil]
    · simp only [if_true]

/-- A call is added to those on record exactly if the program has started. -/
theorem start_calls (m : Machine) (argv : List String) :
    (m.start argv).2.calls = m.calls ++
      match (m.start argv).1 with
      | .error _ => []
      | .ok run => [⟨run.location, argv⟩] := by
  obtain ⟨cause, -, hstart⟩ | ⟨run, t, -, hstart⟩ := m.start_cases argv
  · rw [hstart, List.append_nil]
  · rw [hstart]

/-- Programs that were started before stay in the list of calls. -/
theorem prefix_calls_start (m : Machine) (argv : List String) :
    m.calls <+: (m.start argv).2.calls := by
  rw [start_calls]
  exact List.prefix_append _ _

namespace Heeding

variable {m : Machine}

/-- A program start adds no signals but handled ones. -/
theorem start (h : m.Heeding) (argv : List String) : (m.start argv).2.Heeding := by
  obtain ⟨cause, -, hstart⟩ | ⟨run, t, -, hstart⟩ := m.start_cases argv
  · rw [hstart]
    exact ⟨h.pending, h.arrivals, h.awaited, h.children⟩
  · rw [hstart]
    refine ⟨h.pending, h.arrivals, ?_, h.children⟩
    intro signal hsignal
    dsimp only at hsignal
    split at hsignal
    · cases hsignal
    · exact h.awaited signal hsignal

/-- Signals that arrive while a program runs are handled ones. -/
theorem mem_of_start (h : m.Heeding) {argv : List String} {run : ChildRun} {m' : Machine}
    (hstart : m.start argv = (.ok run, m')) : ∀ signal ∈ run.arrivals, signal ∈ handled := by
  obtain ⟨cause, -, hstart'⟩ | ⟨started, t, hbehaviour, hstart'⟩ := m.start_cases argv
  · rw [hstart'] at hstart
    cases hstart
  · rw [hstart'] at hstart
    cases hstart
    intro signal hsignal
    obtain hsignal | hsignal := List.mem_append.1 hsignal
    · exact h.children _ _ _ _ _ hbehaviour signal hsignal
    · split at hsignal
      · exact h.awaited signal hsignal
      · cases hsignal

end Heeding

/-- Running a program to its end is one program start. -/
theorem runToEnd_snd (m : Machine) (argv : List String) :
    (m.runToEnd argv).2 = (m.start argv).2 := by
  rw [runToEnd]
  split
  · next h => rw [h]
  · next h => rw [h]

/-- A program whose output goes where that of the scan goes is one program start, and what it writes
to standard output. -/
theorem runInherited_eq (m : Machine) (argv : List String) :
    ∃ out, (m.runInherited argv).2 = { (m.start argv).2 with stdout := out } := by
  obtain ⟨cause, -, hstart⟩ | ⟨run, t, -, hstart⟩ := m.start_cases argv
  · refine ⟨m.stdout, ?_⟩
    simp only [runInherited, runToEnd, hstart]
  · refine ⟨m.stdout ++ run.out, ?_⟩
    simp only [runInherited, runToEnd, hstart]

theorem prefix_calls_runInherited (m : Machine) (argv : List String) :
    m.calls <+: (m.runInherited argv).2.calls := by
  obtain ⟨out, hrun⟩ := m.runInherited_eq argv
  rw [hrun]
  exact m.prefix_calls_start argv

/-- Passing a signal on is running one more program. -/
theorem forward_snd (m : Machine) (signal : Int) (process : String) :
    (m.forward signal process).2 =
      (m.runInherited ["kill", "-s", toString signal, process]).2 := by
  rw [forward]
  split
  · next h => rw [h]
  · next h =>
    rw [h]
    split <;> rfl

/-- A program that passes a signal on brings no other signals in. -/
theorem Heeding.forward {m : Machine} (h : m.Heeding) (signal : Int) (process : String) :
    (m.forward signal process).2.Heeding := by
  obtain ⟨out, hrun⟩ := m.runInherited_eq ["kill", "-s", toString signal, process]
  rw [forward_snd, hrun]
  exact (h.start _).withStdout out

theorem prefix_calls_forward (m : Machine) (signal : Int) (process : String) :
    m.calls <+: (m.forward signal process).2.calls := by
  rw [forward_snd]
  exact m.prefix_calls_runInherited _

end Machine
end ChrootScan
