import ChrootScan.Chroot.Run
import ChrootScan.Plan
import ChrootScan.Proofs.Effect
import ChrootScan.Proofs.Shell.Pieces

/-!
# Commands of the build

The commands that build a package pass through two shells: the one that `mock` runs in the chroot as
root, which calls `su`, and the one that `su` runs for the user of the build. Each takes its quotes
off, and what is left are the words that were put in: variables of the environment, options for
`rpmbuild` and the command of the user, whatever they hold.
-/

namespace ChrootScan

open Effect Shell

/-! ## Commands for the user of the build -/

namespace Chroot

/-- A command for the user of the build is one word of the line that is handed to `su`. -/
theorem split_asBuilder (command : String) :
    split (asBuilder command) = .ok ["su", "mockbuild", "-c", command] := by
  have hhead : split "su mockbuild -c" = .ok ["su", "mockbuild", "-c"] := by decide +kernel
  have htext : asBuilder command = "su mockbuild -c" ++ " " ++ quote command := rfl
  rw [htext, split_append_space hhead (split_quote command)]
  rfl

/-- A command reaches the user of the build with these words: the program that manages the chroot is
given a line that is split into a call of `su` with the command, and the command is split into the
words. -/
def HandsOver (command : String) (words : List String) : Prop :=
  ∃ line, (∀ bench, eval (execBuilder command) bench =
      eval (Scan.exec (.argv (bench.chroot.call ["--chroot", line]))) bench) ∧
    split line = .ok ["su", "mockbuild", "-c", command] ∧ split command = .ok words

/-- A command that a shell splits into words reaches the user of the build with these words. -/
theorem handsOver_of_split {command : String} {words : List String}
    (h : split command = .ok words) : HandsOver command words := by
  refine ⟨asBuilder command, fun bench => ?_, split_asBuilder command, h⟩
  rw [execBuilder, execRoot, exec, eval_get_bind]

end Chroot

/-! ## The environment -/

namespace Plan

variable {η : Type}

/-- The words that export the environment of the build. -/
def assignments (p : Plan η) : List String :=
  p.env.entries.map (fun (k, v) => k ++ "=" ++ v) ++ ["PATH=" ++ Text.join ":" (p.path ++ ["$PATH"])]

/-- Names of variables and directories can stand without quotes. -/
structure Quotable (p : Plan η) : Prop where
  keys : ∀ entry ∈ p.env.entries, Unquoted entry.1
  path : ∀ dir ∈ p.path, Unquoted dir

/-- An assignment keeps its value, quoted as it is. -/
theorem spells_assignment {key : String} (hkey : Unquoted key) (value : String) :
    Spells (key ++ "=" ++ quote value).toList (key ++ "=" ++ value).toList := by
  have hname : Unquoted (key ++ "=") := hkey.append (by decide +kernel)
  have hne : key ++ "=" ≠ "" := by simp
  rw [String.toList_append, String.toList_append (t := value)]
  exact (hname.spells hne).append (spells_quote value)

/-- The path needs no quotes if its directories need none. -/
theorem Quotable.unquoted_buildPath {p : Plan η} (hp : p.Quotable) :
    Unquoted ("PATH=" ++ p.buildPath) := by
  have hdirs : ∀ dir ∈ p.path ++ ["$PATH"], Unquoted dir := by
    intro dir hdir
    rcases List.mem_append.1 hdir with hdir | hdir
    · exact hp.path dir hdir
    · rw [List.mem_singleton.1 hdir]
      decide +kernel
  have hname : Unquoted "PATH=" := by decide +kernel
  have hcolon : Unquoted ":" := by decide +kernel
  exact hname.append (hcolon.join hdirs)

/-- The variables and the path of the build are one word each. -/
theorem split_envPrefix {p : Plan η} (hp : p.Quotable) : split p.envPrefix = .ok p.assignments := by
  apply split_pieces
  refine List.rel_append ?_ (.cons ?_ .nil)
  · rw [List.forall₂_map_left_iff, List.forall₂_map_right_iff, List.forall₂_same]
    intro entry hentry
    exact spells_assignment (hp.keys entry hentry) entry.2
  · exact hp.unquoted_buildPath.spells (by simp)

/-! ## The commands -/

/-- The command of the user is one word behind the environment and the shell. -/
theorem split_shellBuildCmd {p : Plan η} (hp : p.Quotable) (command : String) :
    split (p.shellBuildCmd command) =
      .ok (["cd", "/builddir/build/BUILD", "&&"] ++ p.assignments ++ ["sh", "-c", command]) := by
  have hhead : split "cd /builddir/build/BUILD &&" = .ok ["cd", "/builddir/build/BUILD", "&&"] := by
    decide +kernel
  have hshell : split "sh -c" = .ok ["sh", "-c"] := by decide +kernel
  have henv := split_append_space hhead (split_envPrefix hp)
  have hcall := split_append_space (split_append_space henv hshell) (split_quote command)
  have htext : p.shellBuildCmd command =
      "cd /builddir/build/BUILD &&" ++ " " ++ p.envPrefix ++ " " ++ "sh -c" ++ " " ++
        quote command := by
    simp [shellBuildCmd, buildDir, String.append_assoc]
  rw [htext, hcall, List.append_assoc]
  rfl

/-- A call of `rpmbuild` up to the options that come from outside. -/
theorem split_rpmbuildCall {p : Plan η} (hp : p.Quotable) {stage : String}
    (hstage : stage = "-bc" ∨ stage = "-bi") :
    split (p.envPrefix ++ " rpmbuild " ++ stage ++ " --nodeps --short-circuit"
      ++ (if stage == "-bi" && !p.runCheck then " --nocheck" else "")) =
      .ok (p.assignments ++ ["rpmbuild", stage, "--nodeps", "--short-circuit"]
        ++ (if stage = "-bi" ∧ p.runCheck = false then ["--nocheck"] else [])) := by
  have hplain : Unquoted stage ∧ stage ≠ "" := by
    rcases hstage with rfl | rfl
    · decide +kernel
    · decide +kernel
  have hrpmbuild : split "rpmbuild" = .ok ["rpmbuild"] := by decide +kernel
  have hflags : split "--nodeps --short-circuit" = .ok ["--nodeps", "--short-circuit"] := by
    decide +kernel
  have hname := split_append_space (split_envPrefix hp) hrpmbuild
  have hstaged := split_append_space hname (split_of_spells (hplain.1.spells hplain.2))
  have hcall : split (p.envPrefix ++ " rpmbuild " ++ stage ++ " --nodeps --short-circuit") =
      .ok (p.assignments ++ ["rpmbuild", stage, "--nodeps", "--short-circuit"]) := by
    simpa [String.append_assoc] using split_append_space hstaged hflags
  -- the option is added by a test on Booleans, its words by a proposition
  have hguard : (stage == "-bi" && !p.runCheck) = true ↔ stage = "-bi" ∧ p.runCheck = false := by
    simp
  by_cases hcheck : stage = "-bi" ∧ p.runCheck = false
  · have hnocheck : split "--nocheck" = .ok ["--nocheck"] := by decide +kernel
    have htext : " --nocheck" = " " ++ "--nocheck" := rfl
    rw [if_pos (hguard.2 hcheck), if_pos hcheck, htext, ← String.append_assoc]
    exact split_append_space hcall hnocheck
  · rw [if_neg (hguard.not.2 hcheck), if_neg hcheck, String.append_empty, List.append_nil]
    exact hcall

/-- The options of `rpmbuild` are one word each, between its own options and the spec file. -/
theorem split_rpmbuildCmd {p : Plan η} (hp : p.Quotable) {stage : String}
    (hstage : stage = "-bc" ∨ stage = "-bi") :
    split (p.rpmbuildCmd stage) =
      .ok (p.assignments ++ ["rpmbuild", stage, "--nodeps", "--short-circuit"]
        ++ (if stage = "-bi" ∧ p.runCheck = false then ["--nocheck"] else [])
        ++ p.rpmOpts ++ ["/builddir/build/SPECS/*.spec"]) := by
  have hcall := split_rpmbuildCall hp hstage
  have hglob : split "/builddir/build/SPECS/*.spec" = .ok ["/builddir/build/SPECS/*.spec"] := by
    decide +kernel
  have hopts : split (commandLine .escaped p.rpmOpts) = .ok p.rpmOpts :=
    split_join spells_quote p.rpmOpts
  rw [rpmbuildCmd, specGlob]
  -- without options there is no space for them either
  by_cases hempty : p.rpmOpts.isEmpty = true
  · rw [if_pos hempty, String.append_empty, split_append_space hcall hglob,
      List.isEmpty_iff.1 hempty, List.append_nil]
  · rw [if_neg hempty, ← String.append_assoc,
      split_append_space (split_append_space hcall hopts) hglob]

/-- Whatever the values of the environment, the options of `rpmbuild` and the command of the user
hold, they reach the user of the build as they are, each as one word. -/
theorem build_commands_arrive {p : Plan η} (hp : p.Quotable) :
    (∀ command, Chroot.HandsOver (p.shellBuildCmd command)
      (["cd", "/builddir/build/BUILD", "&&"] ++ p.assignments ++ ["sh", "-c", command])) ∧
    ∀ stage, stage = "-bc" ∨ stage = "-bi" → Chroot.HandsOver (p.rpmbuildCmd stage)
      (p.assignments ++ ["rpmbuild", stage, "--nodeps", "--short-circuit"]
        ++ (if stage = "-bi" ∧ p.runCheck = false then ["--nocheck"] else [])
        ++ p.rpmOpts ++ ["/builddir/build/SPECS/*.spec"]) := by
  constructor
  · intro command
    exact Chroot.handsOver_of_split (split_shellBuildCmd hp command)
  · intro stage hstage
    exact Chroot.handsOver_of_split (split_rpmbuildCmd hp hstage)

/-- A plan whose values are full of quotes. -/
def quotedPlan : Plan Unit :=
  { env := Dict.ofList [("CC", "gcc \"-O2\" $x"), ("A", "\\'`")]
    path := ["/usr/lib64/cswrap"]
    rpmOpts := ["--define", "summary \"a b\""] }

/-- Values full of quotes, a dollar sign, a backquote and a backslash arrive as they are. -/
theorem build_commands_arrive_quoted :
    Chroot.HandsOver (quotedPlan.shellBuildCmd "echo \"$HOME\" 'x'")
      ["cd", "/builddir/build/BUILD", "&&", "A=\\'`", "CC=gcc \"-O2\" $x",
        "PATH=/usr/lib64/cswrap:$PATH", "sh", "-c", "echo \"$HOME\" 'x'"] ∧
    Chroot.HandsOver (quotedPlan.rpmbuildCmd "-bi")
      ["A=\\'`", "CC=gcc \"-O2\" $x", "PATH=/usr/lib64/cswrap:$PATH", "rpmbuild", "-bi",
        "--nodeps", "--short-circuit", "--nocheck", "--define", "summary \"a b\"",
        "/builddir/build/SPECS/*.spec"] := by
  have hp : quotedPlan.Quotable := ⟨by decide +kernel, by decide +kernel⟩
  have hwords : quotedPlan.assignments =
      ["A=\\'`", "CC=gcc \"-O2\" $x", "PATH=/usr/lib64/cswrap:$PATH"] := by
    decide +kernel
  obtain ⟨hshell, hrpmbuild⟩ := build_commands_arrive hp
  rw [hwords] at hshell hrpmbuild
  exact ⟨hshell _, hrpmbuild "-bi" (.inr rfl)⟩

end Plan
end ChrootScan
