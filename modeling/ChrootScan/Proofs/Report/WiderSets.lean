import ChrootScan.Proofs.Report.Positions
import Mathlib.Data.List.Flatten

/-!
# Wider sets of characters

The characters that control the direction of text are formatting characters, and these are among all
that cannot be printed. So a scan of the same files for a wider set finds whatever one for a narrower
set finds: no line is lost, the first column does not move to the right, and no character drops out
of the list (`wider_sets_find_more`).
-/

namespace ChrootScan.UnicodeControl

/-! ## Characters -/

namespace CharSet

/-- Every character of one set is in the other. -/
def Within (narrow wide : CharSet) : Prop :=
  ∀ c, narrow.contains c = true → wide.contains c = true

/-- A table takes in one whose ranges each lie within a range of its own. -/
theorem inRanges_of_within {narrow wide : List (Nat × Nat)}
    (h : ∀ r ∈ narrow, ∃ q ∈ wide, q.1 ≤ r.1 ∧ r.2 ≤ q.2) {n : Nat}
    (hn : Text.inRanges narrow n = true) : Text.inRanges wide n = true := by
  rw [Text.inRanges, List.any_eq_true] at hn ⊢
  obtain ⟨r, hr, hin⟩ := hn
  obtain ⟨q, hq, hlo, hhi⟩ := h r hr
  refine ⟨q, hq, ?_⟩
  simp only [Bool.and_eq_true, decide_eq_true_eq] at hin ⊢
  omega

/-- Control of the direction of text is formatting. -/
theorem bidi_within_format : Within .bidi .format := by
  intro c hc
  have hranges : ∀ r ∈ bidiRanges, ∃ q ∈ formatRanges, q.1 ≤ r.1 ∧ r.2 ≤ q.2 := by decide
  exact inRanges_of_within hranges hc

/-- Formatting characters cannot be printed. -/
theorem format_within_all : Within .format .all := by
  intro c hc
  show (_ || _ || _) = true
  rw [show Text.inRanges formatRanges c.toNat = true from hc]
  rfl

end CharSet

namespace Scanner

variable {s : Scanner} {narrow wide : CharSet}

/-! ## One text -/

/-- A finding for a wider set, beside one for a narrower set in the same line. -/
structure Finding.Extends (f g : Finding) : Prop where
  column_le : f.column ≤ g.column
  chars_sublist : g.chars.Sublist f.chars

/-- In the same line a wider set finds its first character no later, and all of those of a narrower
one. -/
theorem Finding.Describes.extends {f g : Finding} {line : List Char} (h : narrow.Within wide)
    (hf : f.Describes wide line) (hg : g.Describes narrow line) : f.Extends g := by
  constructor
  · have hfirst : line.findIdx wide.contains ≤ line.findIdx narrow.contains :=
      List.findIdx_le_findIdx fun c _ => h c
    rw [hf.column_eq, hg.column_eq]
    omega
  · rw [hf.chars, hg.chars]
    exact List.monotone_filter_right line h

/-- The lines with a finding are those with a character that is looked for. -/
theorem map_line_findings (s : Scanner) (text : String) :
    (s.findings text).map Finding.line =
      ((Text.linesChars text.toList).zipIdx.filter (·.1.any s.chars.contains)).map (·.2 + 1) := by
  rw [findings]
  induction (Text.linesChars text.toList).zipIdx with
  | nil => rfl
  | cons numbered rest ih =>
    obtain ⟨line, n⟩ := numbered
    obtain ⟨hnone, hline⟩ | ⟨f, hsome, hn, c, hc, hcontains⟩ := s.inspect_cases line n
    · have hany : line.any s.chars.contains = false := by
        simpa using hline
      rw [List.filterMap_cons_none hnone, List.filter_cons_of_neg (by simp [hany]), ih]
    · have hany : (line, n).1.any s.chars.contains = true := List.any_eq_true.2 ⟨c, hc, hcontains⟩
      rw [List.filterMap_cons_some hsome, List.filter_cons_of_pos (by exact hany), List.map_cons,
        List.map_cons, ih, hn]

/-- The lines that have findings for a narrower set have one for a wider set, in the same order. -/
theorem lines_sublist (h : narrow.Within wide) (text : String) :
    (({ s with chars := narrow }.findings text).map Finding.line).Sublist
      (({ s with chars := wide }.findings text).map Finding.line) := by
  rw [map_line_findings, map_line_findings]
  apply List.Sublist.map
  apply List.monotone_filter_right
  intro numbered hany
  rw [List.any_eq_true] at hany ⊢
  obtain ⟨c, hc, hcontains⟩ := hany
  exact ⟨c, hc, h c hcontains⟩

/-- Two findings in a line of a text, one for each set. -/
theorem extends_of_mem_findings (h : narrow.Within wide) {text : String} {f g : Finding}
    (hf : f ∈ { s with chars := wide }.findings text)
    (hg : g ∈ { s with chars := narrow }.findings text) (hline : f.line = g.line) :
    f.Extends g := by
  obtain ⟨n, line, hn, hget, hdescribes⟩ := (covers_findings _ text).describes f hf
  obtain ⟨n', line', hn', hget', hdescribes'⟩ := (covers_findings _ text).describes g hg
  obtain rfl : n = n' := by omega
  obtain rfl := Option.some.inj (hget.symm.trans hget')
  exact hdescribes.extends h hdescribes'

/-! ## All files below a root -/

/-- A finding, and the file it is in: the names that lead there from the root, and the bytes. -/
structure Sighting where
  file : Place × ByteArray
  finding : Finding

/-- The file and the line that a sighting reports. -/
def Sighting.place (x : Sighting) : (Place × ByteArray) × Nat :=
  (x.file, x.finding.line)

/-- The path of a file that names lead to. -/
def pathBelow (base : String) (names : Place) : String :=
  names.foldl Path.join base

/-- The files that a scan comes to, in its order. -/
def filesScanned (t : FileTree) (root : String) : List (Place × ByteArray) :=
  match t.locate false root, t.stat root, t.locate true root with
  | .ok place, .ok node, .ok target =>
    if place ≠ target && node ≠ .dir then [] else filesBelow t target
  | _, _, _ => []

/-- The sightings in a file; there are none in one that is skipped. -/
def sightingsIn (s : Scanner) (root display : String) (file : Place × ByteArray) : List Sighting :=
  if s.reads (pathBelow display file.1) (mediaType (pathBelow root file.1) file.2) then
    (s.findings (decode file.2).1).map (⟨file, ·⟩)
  else []

/-- The sightings of a scan. -/
def sightings (s : Scanner) (t : FileTree) (root display : String) : List Sighting :=
  (filesScanned t root).flatMap (s.sightingsIn root display)

end Scanner

/-- A report has a block for each of these sightings, in order, and counts them. -/
structure Report.Tells (r : Report) (s : Scanner) (display : String)
    (found : List Scanner.Sighting) : Prop where
  count : r.count = found.length
  out : r.out = String.join
    (found.map fun x => s.block (Scanner.pathBelow display x.file.1) x.finding)

/-- Two reports one behind the other tell of the sightings of both. -/
theorem Report.Tells.append {s : Scanner} {display : String} {r r' : Report}
    {found found' : List Scanner.Sighting} (h : r.Tells s display found)
    (h' : r'.Tells s display found') : (r.append r').Tells s display (found ++ found') := by
  constructor
  · show r.count + r'.count = _
    rw [h.count, h'.count, List.length_append]
  · show r.out ++ r'.out = _
    rw [h.out, h'.out, List.map_append, String.join_append]

namespace Scanner

variable {s : Scanner} {narrow wide : CharSet} {root display : String}

/-- The report on a file tells of the sightings in it, and of none if the file is skipped. -/
theorem tells_scanFile (s : Scanner) (root display : String) (file : Place × ByteArray) :
    (s.scanFile (pathBelow root file.1) (pathBelow display file.1) file.2).Tells s display
      (s.sightingsIn root display file) := by
  unfold scanFile sightingsIn
  by_cases hread :
      s.reads (pathBelow display file.1) (mediaType (pathBelow root file.1) file.2) = true
  · rw [hread, Bool.not_true, if_neg Bool.false_ne_true, if_pos rfl]
    constructor
    · rw [List.length_map]
    · rw [List.map_map]
      rfl
  · rw [Bool.eq_false_of_not_eq_true hread, Bool.not_false, if_pos rfl, if_neg Bool.false_ne_true]
    exact ⟨rfl, rfl⟩

/-- File by file, a report tells of the sightings in all files. -/
theorem tells_foldl {r : Report} {found : List Sighting} (hr : r.Tells s display found)
    (files : List (Place × ByteArray)) :
    (files.foldl (fun r file => r.append
        (s.scanFile (pathBelow root file.1) (pathBelow display file.1) file.2)) r).Tells s display
      (found ++ files.flatMap (s.sightingsIn root display)) := by
  induction files generalizing r found with
  | nil => simpa using hr
  | cons file files ih =>
    rw [List.foldl_cons, List.flatMap_cons, ← List.append_assoc]
    exact ih (hr.append (s.tells_scanFile root display file))

/-- The report of a scan tells of its sightings. -/
theorem tells_scan (s : Scanner) (t : FileTree) (root display : String) :
    (s.scan t root display).Tells s display (s.sightings t root display) := by
  have hnone (log : String) : Report.Tells { log } s display [] := ⟨rfl, rfl⟩
  unfold scan sightings filesScanned
  cases t.locate false root with
  | error e => exact hnone _
  | ok place =>
    cases t.stat root with
    | error e => exact hnone _
    | ok node =>
      cases t.locate true root with
      | error e => exact hnone _
      | ok target =>
        by_cases hlink : (place ≠ target && node ≠ .dir) = true
        · simp only [hlink, if_true]
          exact hnone _
        · simp only [hlink]
          exact tells_foldl (hnone "") _

/-! ## Two scans -/

/-- One list of sightings takes in another one: every line that has one there has one here, in the
same order, and it extends the other. -/
structure TakesIn (more less : List Sighting) : Prop where
  places_sublist : (less.map Sighting.place).Sublist (more.map Sighting.place)
  extends_of_place_eq : ∀ x ∈ more, ∀ y ∈ less, x.place = y.place → x.finding.Extends y.finding

/-- A list of sightings is no shorter than one that it takes in. -/
theorem TakesIn.length_le {more less : List Sighting} (h : TakesIn more less) :
    less.length ≤ more.length := by
  simpa using h.places_sublist.length_le

/-- Which files are read does not depend on the characters that are looked for. -/
theorem map_place_sightingsIn (s : Scanner) (set : CharSet) (file : Place × ByteArray) :
    ({ s with chars := set }.sightingsIn root display file).map Sighting.place =
      if s.reads (pathBelow display file.1) (mediaType (pathBelow root file.1) file.2) then
        (({ s with chars := set }.findings (decode file.2).1).map Finding.line).map (file, ·)
      else [] := by
  unfold sightingsIn
  show List.map _ (if s.reads _ _ = true then _ else _) = _
  split
  · rw [List.map_map, List.map_map]
    rfl
  · rfl

/-- A sighting is a finding in its file. -/
theorem mem_sightings {t : FileTree} {x : Sighting} (h : x ∈ s.sightings t root display) :
    x.finding ∈ s.findings (decode x.file.2).1 := by
  obtain ⟨file, -, hx⟩ := List.mem_flatMap.1 h
  unfold sightingsIn at hx
  split at hx
  · obtain ⟨f, hf, rfl⟩ := List.mem_map.1 hx
    exact hf
  · cases hx

/-- The sightings for a wider set take in those for a narrower one, in whatever file they are. -/
theorem takesIn_sightings (h : narrow.Within wide) (s : Scanner) (t : FileTree)
    (root display : String) :
    TakesIn ({ s with chars := wide }.sightings t root display)
      ({ s with chars := narrow }.sightings t root display) := by
  constructor
  · unfold sightings
    rw [List.map_flatMap, List.map_flatMap]
    apply List.Sublist.flatMap_right
    intro file _
    rw [map_place_sightingsIn, map_place_sightingsIn]
    split
    · exact (lines_sublist h _).map _
    · exact List.Sublist.slnil
  · intro x hx y hy hplace
    obtain ⟨hfile, hline⟩ := Prod.mk.inj hplace
    have hmore := mem_sightings hx
    rw [hfile] at hmore
    exact extends_of_mem_findings h hmore (mem_sightings hy) hline

/-- A scan for formatting characters finds all that one for bidirectional controls finds, and one
for all that cannot be printed finds all that one for formatting characters finds: the lines with
findings are there in the same order, none of them begins further to the right or lacks a character,
and there are no fewer. -/
theorem wider_sets_find_more (s : Scanner) (t : FileTree) (root display : String) :
    let report (set : CharSet) : Report := { s with chars := set }.scan t root display
    let found (set : CharSet) : List Sighting :=
      { s with chars := set }.sightings t root display
    (∀ set, (report set).Tells { s with chars := set } display (found set)) ∧
      TakesIn (found .format) (found .bidi) ∧ TakesIn (found .all) (found .format) ∧
      (report .bidi).count ≤ (report .format).count ∧
      (report .format).count ≤ (report .all).count := by
  intro report found
  have htells (set : CharSet) : (report set).Tells { s with chars := set } display (found set) :=
    tells_scan _ t root display
  have hformat : TakesIn (found .format) (found .bidi) :=
    takesIn_sightings CharSet.bidi_within_format s t root display
  have hall : TakesIn (found .all) (found .format) :=
    takesIn_sightings CharSet.format_within_all s t root display
  refine ⟨htells, hformat, hall, ?_, ?_⟩
  · rw [(htells .bidi).count, (htells .format).count]
    exact hformat.length_le
  · rw [(htells .format).count, (htells .all).count]
    exact hall.length_le

end Scanner

end ChrootScan.UnicodeControl
