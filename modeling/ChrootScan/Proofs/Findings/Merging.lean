import ChrootScan.Findings
import ChrootScan.Proofs.Shell.Pieces
import ChrootScan.Proofs.Text.Fields

/-!
# Merging findings

The results of the analyzers are merged by one command, which carries every entry of the metadata as
a property of the scan. Each of its values is one word of the command, whatever characters it has
(`split_mergeCmd`).
-/

namespace ChrootScan.Findings

open Shell

theorem operand_eq (path : String) : operand path = " " ++ wrapSingle path :=
  String.append_assoc ..

/-- One property of the scan as it is written. -/
def propertyPiece (property : String × String) : String :=
  "--set-scan-prop=" ++ singleQuote (property.1 ++ ":" ++ property.2)

/-- One property of the scan as a word. -/
def propertyWord (property : String × String) : String :=
  "--set-scan-prop=" ++ (property.1 ++ ":" ++ property.2)

theorem propertyArg_eq (property : String × String) :
    propertyArg property = " " ++ propertyPiece property :=
  have hoption : " --set-scan-prop=" = " " ++ "--set-scan-prop=" := rfl
  (congrArg (· ++ singleQuote (property.1 ++ ":" ++ property.2)) hoption).trans
    String.append_assoc

theorem spells_propertyPiece (property : String × String) :
    Spells (propertyPiece property).toList (propertyWord property).toList := by
  have hoption : Spells "--set-scan-prop=".toList "--set-scan-prop=".toList :=
    Unquoted.spells (by decide) (by decide)
  exact hoption.append_toList (spells_singleQuote _)

/-- What a merge begins with. -/
def mergeProgram : List String :=
  ["csgrep", "--mode=json", "--remove-duplicates"]

/-- A merge is written in pieces with single spaces between them. -/
theorem mergeCmd_eq (inputs : List String) (properties : List (String × String))
    (target : String) :
    mergeCmd inputs properties target = Text.join " " (mergeProgram ++
      (properties.map propertyPiece ++ inputs.map wrapSingle ++ [">", wrapSingle target])) := by
  have hprogram : Text.join " " mergeProgram = "csgrep --mode=json --remove-duplicates" := by
    decide +kernel
  have hproperties : (properties.map propertyPiece).map (" " ++ ·) = properties.map propertyArg := by
    rw [List.map_map]
    exact List.map_congr_left fun property _ => (propertyArg_eq property).symm
  have hinputs : (inputs.map wrapSingle).map (" " ++ ·) = inputs.map operand := by
    rw [List.map_map]
    exact List.map_congr_left fun path _ => (operand_eq path).symm
  have hredirect : String.join ([">", wrapSingle target].map (" " ++ ·)) = redirect target := by
    simp [redirect, operand_eq, String.join_cons]
  have hne : mergeProgram ≠ [] := List.cons_ne_nil _ _
  have hassoc (a b c d : String) : a ++ b ++ c ++ d = a ++ (b ++ c ++ d) := by
    simp only [String.append_assoc]
  rw [Text.join_append " " hne, hprogram, List.map_append, List.map_append, hproperties, hinputs,
    String.join_append, String.join_append, hredirect]
  exact hassoc ..

/-- A merge is split into its program, one word for each property of the scan, the inputs, and the
redirection into the target, all of them in order. -/
theorem split_mergeCmd {inputs : List String} (properties : List (String × String))
    {target : String} (hinputs : ∀ path ∈ inputs, '\'' ∉ path.toList)
    (htarget : '\'' ∉ target.toList) :
    split (mergeCmd inputs properties target) =
      .ok (["csgrep", "--mode=json", "--remove-duplicates"]
        ++ (properties.map (fun (key, value) => "--set-scan-prop=" ++ (key ++ ":" ++ value))
          ++ inputs ++ [">", target])) := by
  have hprogram : Spell mergeProgram mergeProgram := .unquoted (by decide)
  have hproperties : Spell (properties.map propertyPiece) (properties.map propertyWord) :=
    .map fun property _ => spells_propertyPiece property
  have hpaths : Spell (inputs.map wrapSingle) inputs := by
    have hspell : Spell (inputs.map wrapSingle) (inputs.map id) :=
      .map fun path hpath => spells_wrapSingle (hinputs path hpath)
    rwa [List.map_id] at hspell
  have hinto : Spell [">"] [">"] := .unquoted (by decide)
  have hredirect : Spell [">", wrapSingle target] [">", target] :=
    hinto.append (.cons (spells_wrapSingle htarget) .nil)
  rw [mergeCmd_eq]
  exact (hprogram.append ((hproperties.append hpaths).append hredirect)).split_join

/-- A value with quotes, blanks and a newline is one word of the merge. -/
theorem split_mergeCmd_quoted :
    (∀ path ∈ ["/tmp/my scan/uni/gcc.js"], '\'' ∉ path.toList) ∧
      '\'' ∉ "/tmp/my scan/all.js".toList ∧
      split (mergeCmd ["/tmp/my scan/uni/gcc.js"] [("host", "h"), ("tool-args", "'-o' 'x\"$y\n`;'")]
        "/tmp/my scan/all.js") =
        .ok ["csgrep", "--mode=json", "--remove-duplicates", "--set-scan-prop=host:h",
          "--set-scan-prop=tool-args:'-o' 'x\"$y\n`;'", "/tmp/my scan/uni/gcc.js", ">",
          "/tmp/my scan/all.js"] := by
  have hinputs : ∀ path ∈ ["/tmp/my scan/uni/gcc.js"], '\'' ∉ path.toList := by decide
  have htarget : '\'' ∉ "/tmp/my scan/all.js".toList := by decide
  exact ⟨hinputs, htarget, split_mergeCmd _ hinputs htarget⟩

end ChrootScan.Findings
