import ChrootScan.Proofs.Record.Ledger
import ChrootScan.Proofs.Record.Layout
import ChrootScan.Proofs.Text.Blanks
import ChrootScan.Proofs.Text.Utf8
import ChrootScan.Proofs.Traversal

/-!
# Reading the metadata back

The metadata is a header and one line for each entry, so who reads it line by line finds the entries
again, unless a value goes on in the next line: blanks are cut off at both ends of a value, but
newlines inside stay (`entries_read_back_iff`).
-/

namespace ChrootScan

open Effect

/-! ## Texts of metadata -/

namespace Record

/-- A key that ends where its line says so. -/
def IsKey (key : String) : Prop :=
  '\n' ∉ key.toList ∧ '=' ∉ key.toList

instance (key : String) : Decidable (IsKey key) :=
  inferInstanceAs (Decidable (_ ∧ _))

/-- An entry as its line has it. -/
def entryLine (entry : String × String) : List Char :=
  entry.1.toList ++ ' ' :: '=' :: ' ' :: entry.2.toList

/-- The line in front of all entries. -/
def headerLine : List Char := "[scan]".toList

/-- The metadata with these entries, as a text. -/
def metadataText (entries : List (String × String)) : String :=
  String.ofList (headerLine ++ '\n' :: entries.flatMap (entryLine · ++ ['\n']))

/-- The entry in a line: what stands before and behind the first equals sign between spaces. -/
def readLine (line : List Char) : Option (String × String) :=
  (Text.cut? [' ', '=', ' '] line).map fun cut => (String.ofList cut.1, String.ofList cut.2)

/-- The entries in the lines below the header. -/
def readEntries (text : String) : Option (List (String × String)) :=
  match Text.linesChars text.toList with
  | [] => none
  | header :: lines => if header = headerLine then lines.mapM readLine else none

/-- The first equals sign between spaces is the one behind the key. -/
theorem cut?_key {key : List Char} (hkey : '=' ∉ key) (value : List Char) :
    Text.cut? [' ', '=', ' '] (key ++ ' ' :: '=' :: ' ' :: value) = some (key, value) := by
  have hnone : ∀ s, s ≠ [] → s <:+ key → ¬ [' ', '=', ' '] <+: s ++ ([' ', '=', ' '] ++ value) := by
    intro s hs hsuffix hmark
    obtain ⟨c, more, rfl⟩ := List.exists_cons_of_ne_nil hs
    obtain ⟨-, hequals⟩ := List.cons_prefix_cons.1 hmark
    -- no equals sign comes right behind a character of the key
    cases more with
    | nil => exact absurd (List.cons_prefix_cons.1 hequals).1 (by decide)
    | cons d more =>
      obtain ⟨rfl, -⟩ := List.cons_prefix_cons.1 hequals
      exact hkey (hsuffix.subset (List.mem_cons_of_mem c List.mem_cons_self))
  exact Text.cut?_append hnone

theorem readLine_entryLine {entry : String × String} (hkey : '=' ∉ entry.1.toList) :
    readLine (entryLine entry) = some entry := by
  rw [readLine, entryLine, cut?_key hkey, Option.map_some,
    String.ofList_toList, String.ofList_toList]

/-- The lines below the header. -/
def entryLines (entries : List (String × String)) : List (List Char) :=
  entries.flatMap fun entry => (Text.fields '\n' (entryLine entry)).map Text.dropReturn

/-- The lines of entries are those of each one, in order. -/
theorem linesChars_entries (entries : List (String × String)) :
    Text.linesChars (entries.flatMap (entryLine · ++ ['\n'])) = entryLines entries := by
  induction entries with
  | nil => rfl
  | cons entry entries ih =>
    rw [List.flatMap_cons, List.append_assoc, List.singleton_append, Text.linesChars_append_cons,
      ih, entryLines, entryLines, List.flatMap_cons]

/-- What is written of entries is read line by line, behind its header. -/
theorem readEntries_metadataText (entries : List (String × String)) :
    readEntries (metadataText entries) = (entryLines entries).mapM readLine := by
  have hheader : (Text.fields '\n' headerLine).map Text.dropReturn = [headerLine] := by decide
  have hlines :
      Text.linesChars (metadataText entries).toList = headerLine :: entryLines entries := by
    rw [metadataText, String.toList_ofList, Text.linesChars_append_cons, hheader,
      linesChars_entries, List.singleton_append]
  rw [readEntries, hlines]
  exact if_pos rfl

/-- An entry has one line, and one more for each newline in it. -/
theorem length_entryLines_cons (entry : String × String) (entries : List (String × String)) :
    (entryLines (entry :: entries)).length =
      (entryLine entry).count '\n' + 1 + (entryLines entries).length := by
  rw [entryLines, List.flatMap_cons, List.length_append, List.length_map, Text.length_fields,
    entryLines]

/-- Every entry has at least one line. -/
theorem length_le_length_entryLines (entries : List (String × String)) :
    entries.length ≤ (entryLines entries).length := by
  induction entries with
  | nil => exact Nat.zero_le _
  | cons entry entries ih =>
    rw [length_entryLines_cons, List.length_cons]
    omega

/-- There are as many lines as entries only if no entry goes on in the next line. -/
theorem newline_not_mem_of_length {entries : List (String × String)}
    (h : (entryLines entries).length = entries.length) :
    ∀ entry ∈ entries, '\n' ∉ entryLine entry := by
  induction entries with
  | nil => exact List.forall_mem_nil _
  | cons entry entries ih =>
    -- the entries behind have no fewer lines, so this one has no more than its own
    have hrest := length_le_length_entryLines entries
    rw [length_entryLines_cons, List.length_cons] at h
    refine List.forall_mem_cons.2 ⟨List.count_eq_zero.1 ?_, ih ?_⟩
    · omega
    · omega

/-- Entries that are lines are read line by line. -/
theorem mapM_readLine_entryLine {entries : List (String × String)}
    (hkeys : ∀ entry ∈ entries, '=' ∉ entry.1.toList) :
    (entries.map entryLine).mapM readLine = some entries := by
  rw [mapM_eq_some_iff, List.forall₂_map_left_iff]
  exact List.forall₂_same.2 fun entry hentry => readLine_entryLine (hkeys entry hentry)

/-- Entries without newlines, and without returns at their ends, have one line each, which is
theirs. -/
theorem entryLines_of_newline_not_mem {entries : List (String × String)}
    (hlines : ∀ entry ∈ entries, '\n' ∉ entryLine entry)
    (hreturn : ∀ entry ∈ entries, entry.2.toList.getLast? ≠ some '\r') :
    entryLines entries = entries.map entryLine := by
  induction entries with
  | nil => rfl
  | cons entry entries ih =>
    obtain ⟨hline, hlines⟩ := List.forall_mem_cons.1 hlines
    obtain ⟨hlast, hreturn⟩ := List.forall_mem_cons.1 hreturn
    have hkept : Text.dropReturn (entryLine entry) = entryLine entry := by
      refine Text.dropReturn_eq_self ?_
      -- the line ends with its value, or with the space in front of it
      rw [entryLine]
      cases hvalue : entry.2.toList with
      | nil => simp
      | cons c rest =>
        rw [List.append_cons, List.append_cons, List.append_cons,
          List.getLast?_append_of_ne_nil _ (List.cons_ne_nil c rest), ← hvalue]
        exact hlast
    rw [entryLines, List.flatMap_cons, Text.fields_of_not_mem hline, List.map_singleton, hkept,
      ← entryLines, ih hlines hreturn, List.map_cons, List.singleton_append]

/-- Metadata reads as its entries exactly if no value has a newline. -/
theorem readEntries_metadataText_iff {entries : List (String × String)}
    (hkeys : ∀ entry ∈ entries, IsKey entry.1)
    (hreturn : ∀ entry ∈ entries, entry.2.toList.getLast? ≠ some '\r') :
    readEntries (metadataText entries) = some entries ↔
      ∀ entry ∈ entries, '\n' ∉ entry.2.toList := by
  have hline {entry : String × String} (hentry : entry ∈ entries) :
      '\n' ∉ entryLine entry ↔ '\n' ∉ entry.2.toList := by
    simp [entryLine, (hkeys entry hentry).1]
  rw [readEntries_metadataText]
  constructor
  · intro hread entry hentry
    have hlength := (mapM_eq_some_iff.1 hread).length_eq
    exact (hline hentry).1 (newline_not_mem_of_length hlength entry hentry)
  · intro hvalues
    have hlines : ∀ entry ∈ entries, '\n' ∉ entryLine entry := fun entry hentry =>
      (hline hentry).2 (hvalues entry hentry)
    rw [entryLines_of_newline_not_mem hlines hreturn]
    exact mapM_readLine_entryLine fun entry hentry => (hkeys entry hentry).2

/-- One entry more is one line more. -/
theorem metadataText_concat (entries : List (String × String)) (key value : String) :
    metadataText (entries ++ [(key, Text.trim value)]) =
      metadataText entries ++ metadataLine key value := by
  rw [← String.toList_inj]
  simp [metadataText, metadataLine, entryLine, List.append_assoc]

end Record

/-! ## Metadata on record -/

/-- The metadata is still written, and its file holds a line for each entry on record. -/
structure Bench.Described (b : Bench) : Prop where
  isOpen : b.record.metadataOpen = true
  holds : b.MetadataHolds (Text.encode (Record.metadataText b.record.entries))
  noReturn : ∀ entry ∈ b.record.entries, entry.2.toList.getLast? ≠ some '\r'

namespace Bench.Described

variable {b : Bench}

/-- One entry more is on record, and stands in the file. -/
theorem putMetadata (h : b.Described) (key value : String) :
    ∃ b', eval (Scan.putMetadata key value) b = (.ok (), b') ∧ b'.Described ∧
      b'.record.entries = b.record.entries ++ [(key, Text.trim value)] := by
  obtain ⟨t, hput, hholds⟩ := Scan.eval_putMetadata h.isOpen key value
  refine ⟨_, hput, ⟨h.isOpen, ?_, ?_⟩, rfl⟩
  · have hbytes : Text.encode (Record.metadataText b.record.entries) ++
        Text.encode (Record.metadataLine key value) =
        Text.encode (Record.metadataText (b.record.entries ++ [(key, Text.trim value)])) := by
      rw [Record.metadataText_concat]
      exact String.toByteArray_append.symm
    have hmore := hholds _ h.holds
    rw [hbytes] at hmore
    exact hmore
  · have hvalue : (Text.trim value).toList.getLast? ≠ some '\r' := Text.getLast?_trim_ne rfl value
    exact List.forall_mem_append.2 ⟨h.noReturn, List.forall_mem_singleton.2 hvalue⟩

/-- So it is with one entry after another. -/
theorem putAll (h : b.Described) (calls : List (String × String)) :
    ∃ b', eval (calls.forM fun call => Scan.putMetadata call.1 call.2) b = (.ok (), b') ∧
      b'.Described ∧
      b'.record.entries = b.record.entries ++ calls.map fun call => (call.1, Text.trim call.2) := by
  induction calls generalizing b with
  | nil => exact ⟨b, rfl, h, (List.append_nil _).symm⟩
  | cons call calls ih =>
    obtain ⟨b₁, hput, h₁, hentries₁⟩ := h.putMetadata call.1 call.2
    obtain ⟨b₂, hrest, h₂, hentries₂⟩ := ih h₁
    refine ⟨b₂, ?_, h₂, ?_⟩
    · exact (eval_bind_ok hput _).trans hrest
    · rw [hentries₂, hentries₁, List.map_cons, List.append_assoc, List.singleton_append]

/-- The file is read as text. -/
theorem readText (h : b.Described) :
    b.machine.tree.readText b.record.metadataPath =
      .ok (Record.metadataText b.record.entries) := by
  rw [FileTree.readText, h.holds.readBytes, Except.bind, Text.decode?_encode]

end Bench.Described

namespace Record

/-- Where there is room for new results, their first entries can be written. -/
theorem exists_begin {o : Options} {m : Machine} {tmpdir : String} {tree t : FileTree}
    (hground : tree.Grounded) (hroom : makeRoom (ofOptions o tmpdir) tree = (.ok (), t)) :
    ∃ b, eval (begin o) { machine := { m with tree := t }, record := ofOptions o tmpdir } =
        (.ok (), b) ∧
      b.Described ∧
      b.record.entries = (firstEntries o m).map fun entry => (entry.1, Text.trim entry.2) := by
  set fresh : Bench := { machine := { m with tree := t }, record := ofOptions o tmpdir } with hfresh
  have hempty : fresh.MetadataHolds .empty := by
    obtain ⟨hread, hapart⟩ := apart_of_makeRoom hground hroom
    exact ⟨hread, hapart⟩
  obtain ⟨t', hheader, hholds⟩ := Scan.eval_writeMetadata (b := fresh) rfl "[scan]\n"
  have hdescribed : (fresh.withTree t').Described := by
    have htext : "[scan]\n" = metadataText [] := by decide
    have hbytes := hholds .empty hempty
    rw [ByteArray.empty_append, htext] at hbytes
    exact ⟨rfl, hbytes, List.forall_mem_nil _⟩
  obtain ⟨b, hput, hb, hentries⟩ := hdescribed.putAll (firstEntries o m)
  refine ⟨b, ?_, hb, hentries⟩
  rw [begin, eval_bind_ok hheader, eval_get_bind]
  exact hput

/-- The metadata of new results has their first entries. -/
theorem described_of_create {o : Options} {m m' : Machine} {b : Bench} (hground : m.tree.Grounded)
    (h : create o m = (.ok b, m')) :
    b.Described ∧
      b.record.entries = (firstEntries o m).map fun entry => (entry.1, Text.trim entry.2) := by
  obtain ⟨tmpdir, tree, t, hmade, hroom, hrun⟩ := exists_of_create h
  obtain ⟨place, hcreates⟩ := FileTree.exists_creates hmade
  obtain ⟨b', hbegin, hb', hentries⟩ := exists_begin (hcreates.grounded hground) hroom
  rw [hbegin] at hrun
  obtain rfl : b' = b := congrArg Prod.snd hrun
  exact ⟨hb', hentries⟩

theorem isKey_firstEntries (o : Options) (m : Machine) :
    ∀ entry ∈ firstEntries o m, IsKey entry.1 := by
  intro entry hentry
  have hkey : entry.1 ∈ ["tool", "tool-version", "tool-args", "host", "store-results-to",
      "time-created"] := List.mem_map_of_mem (f := Prod.fst) hentry
  revert hkey
  generalize entry.1 = key
  revert key
  decide

/-- Entries written from new results on are all on record, behind the first ones, and the file of
the metadata is text that reads as the entries on record exactly if no value has a newline in it. -/
theorem entries_read_back_iff {o : Options} {m m' : Machine} {b : Bench}
    {calls : List (String × String)} (hground : m.tree.Grounded)
    (hcreate : create o m = (.ok b, m')) (hkeys : ∀ call ∈ calls, IsKey call.1) :
    ∃ b' text, eval (calls.forM fun call => Scan.putMetadata call.1 call.2) b = (.ok (), b') ∧
      b'.record.entries =
        (firstEntries o m ++ calls).map (fun entry => (entry.1, Text.trim entry.2)) ∧
      b'.machine.tree.readText b'.record.metadataPath = .ok text ∧
      (readEntries text = some b'.record.entries ↔
        ∀ entry ∈ b'.record.entries, '\n' ∉ entry.2.toList) := by
  obtain ⟨hdescribed, hfirst⟩ := described_of_create hground hcreate
  obtain ⟨b', hput, hb', hentries⟩ := hdescribed.putAll calls
  rw [hfirst, ← List.map_append] at hentries
  have hall : ∀ entry ∈ b'.record.entries, IsKey entry.1 := by
    rw [hentries]
    refine List.forall_mem_map.2 fun entry hentry => ?_
    exact (List.mem_append.1 hentry).elim (isKey_firstEntries o m entry) (hkeys entry)
  exact ⟨b', _, hput, hentries, hb'.readText, readEntries_metadataText_iff hall hb'.noReturn⟩

theorem exists_create_of_isOk {o : Options} {m : Machine} (h : (create o m).1.isOk = true) :
    ∃ b m', create o m = (.ok b, m') := by
  rcases hcreate : create o m with ⟨e | b, m'⟩
  · rw [hcreate] at h
    cases h
  · exact ⟨b, m', rfl⟩

/-- A version with a newline at its end and an equals sign in it is read back. -/
theorem entries_read_back_version :
    let m : Machine := { tree := { nodes := [(["tmp"], .dir)] } }
    let calls := [("analyzer-version-gcc", "13.2.1 = stable\n")]
    m.tree.Grounded ∧ (∀ call ∈ calls, IsKey call.1) ∧
      ∃ b m' b' text, create { output := "out" } m = (.ok b, m') ∧
        eval (calls.forM fun call => Scan.putMetadata call.1 call.2) b = (.ok (), b') ∧
        b'.machine.tree.readText b'.record.metadataPath = .ok text ∧
        readEntries text = some b'.record.entries ∧
        b'.record.entries.getLast? = some ("analyzer-version-gcc", "13.2.1 = stable") := by
  intro m calls
  have hground : m.tree.Grounded := FileTree.grounded_of_nodes (by decide)
  have hkeys : ∀ call ∈ calls, IsKey call.1 := by decide
  obtain ⟨b, m', hcreate⟩ : ∃ b m', create { output := "out" } m = (.ok b, m') :=
    exists_create_of_isOk (by decide +kernel)
  obtain ⟨b', text, hput, hentries, hread, hreads⟩ :=
    entries_read_back_iff hground hcreate hkeys
  refine ⟨hground, hkeys, b, m', b', text, hcreate, hput, hread, hreads.2 ?_, ?_⟩
  · rw [hentries]
    decide +kernel
  · rw [hentries]
    decide +kernel

/-- The second line of a version is read as an entry of its own. -/
theorem entries_not_read_back :
    let m : Machine := { tree := { nodes := [(["tmp"], .dir)] } }
    ∃ b m' b' text, create { output := "out" } m = (.ok b, m') ∧
      eval (Scan.putVersion "semgrep-cli" "1.2.3\nlatest = 1.3.0") b = (.ok (), b') ∧
      b'.machine.tree.readText b'.record.metadataPath = .ok text ∧
      readEntries text ≠ some b'.record.entries ∧
      b'.record.entries.getLast? =
        some ("analyzer-version-semgrep-cli", "1.2.3\nlatest = 1.3.0") ∧
      (readEntries text).bind List.getLast? = some ("latest", "1.3.0") := by
  intro m
  have hground : m.tree.Grounded := FileTree.grounded_of_nodes (by decide)
  obtain ⟨b, m', hcreate⟩ : ∃ b m', create { output := "out" } m = (.ok b, m') :=
    exists_create_of_isOk (by decide +kernel)
  obtain ⟨hdescribed, hfirst⟩ := described_of_create hground hcreate
  obtain ⟨b', hput, hb', hentries⟩ :=
    hdescribed.putMetadata "analyzer-version-semgrep-cli" "1.2.3\nlatest = 1.3.0"
  rw [hfirst] at hentries
  refine ⟨b, m', b', _, hcreate, hput, hb'.readText, ?_⟩
  rw [hentries]
  decide +kernel

end Record

end ChrootScan
