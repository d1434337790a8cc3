import ChrootScan.Text.Fields
import Mathlib.Data.List.Infix

/-!
# Texts that are cut where a search succeeds

A search that succeeds behind a text, and nowhere inside it, cuts the text off (`cutWhere?_append`).
What makes a search fail inside a text is mostly that a mark cannot begin there
(`prefix_of_prefix_append_cons`), or that a run of characters ends where it does
(`takeWhile_append_eq`).
-/

namespace ChrootScan.Text

variable {α : Type} {find? : List Char → Option α}

/-! ## Cuts -/

/-- A text is cut off where a search succeeds behind it, if it fails at every place inside. -/
theorem cutWhere?_append {before behind : List Char} {a : α}
    (hnone : ∀ s, s ≠ [] → s <:+ before → find? (s ++ behind) = none)
    (hfound : find? behind = some a) :
    cutWhere? find? (before ++ behind) = some (before, a) := by
  induction before with
  | nil =>
    cases behind with
    | nil => rw [List.append_nil, cutWhere?, hfound]; rfl
    | cons c rest => rw [List.nil_append, cutWhere?, hfound]
  | cons c before ih =>
    have hhere : find? (c :: (before ++ behind)) = none :=
      hnone (c :: before) (List.cons_ne_nil _ _) List.suffix_rfl
    have hrest : cutWhere? find? (before ++ behind) = some (before, a) := by
      apply ih
      intro s hs hsuffix
      exact hnone s hs (hsuffix.trans (List.suffix_cons c before))
    rw [List.cons_append, cutWhere?, hhere]
    simp only [hrest, Option.map_some]

/-- A text is cut exactly if the search succeeds at one of its places. -/
theorem isSome_cutWhere?_iff {s : List Char} :
    (cutWhere? find? s).isSome = true ↔
      ∃ before behind, s = before ++ behind ∧ (find? behind).isSome = true := by
  induction s with
  | nil =>
    rw [cutWhere?, Option.isSome_map]
    constructor
    · intro h
      exact ⟨[], [], rfl, h⟩
    · rintro ⟨before, behind, hs, h⟩
      rwa [(List.append_eq_nil_iff.1 hs.symm).2] at h
  | cons c rest ih =>
    rw [cutWhere?]
    cases hhere : find? (c :: rest) with
    | some a => exact iff_of_true rfl ⟨[], c :: rest, rfl, by rw [hhere]; rfl⟩
    -- the search fails here, so a place where it succeeds is one of the rest
    | none =>
      show (Option.map _ _).isSome = true ↔ _
      rw [Option.isSome_map, ih]
      constructor
      · rintro ⟨before, behind, rfl, h⟩
        exact ⟨c :: before, behind, rfl, h⟩
      · rintro ⟨before, behind, hs, h⟩
        obtain ⟨rfl, rfl⟩ | ⟨before, rfl, rfl⟩ := List.cons_eq_append_iff.1 hs
        · rw [hhere] at h
          cases h
        · exact ⟨before, behind, rfl, h⟩

/-- A cut is made where the search succeeds. -/
theorem eq_append_of_cutWhere? {s before : List Char} {a : α}
    (h : cutWhere? find? s = some (before, a)) :
    ∃ behind, s = before ++ behind ∧ find? behind = some a := by
  induction s generalizing before with
  | nil =>
    obtain ⟨a, hfound, hcut⟩ := Option.map_eq_some_iff.1 h
    obtain ⟨rfl, rfl⟩ := Prod.mk.inj hcut
    exact ⟨[], rfl, hfound⟩
  | cons c rest ih =>
    rw [cutWhere?] at h
    cases hhere : find? (c :: rest) with
    | some found =>
      rw [hhere] at h
      obtain ⟨rfl, rfl⟩ := Prod.mk.inj (Option.some.inj h)
      exact ⟨c :: rest, rfl, hhere⟩
    | none =>
      rw [hhere] at h
      obtain ⟨⟨front, found⟩, hrest, hcut⟩ := Option.map_eq_some_iff.1 h
      obtain ⟨rfl, rfl⟩ := Prod.mk.inj hcut
      obtain ⟨behind, rfl, hfound⟩ := ih hrest
      exact ⟨behind, rfl, hfound⟩

/-! ## Marks -/

theorem isPrefixOf?_append (part rest : List Char) :
    part.isPrefixOf? (part ++ rest) = some rest :=
  List.isPrefixOf?_eq_some_iff_append_eq.2 rfl

theorem isPrefixOf?_eq_none {part s : List Char} (h : ¬ part <+: s) :
    part.isPrefixOf? s = none := by
  cases hs : part.isPrefixOf? s with
  | none => rfl
  | some rest => exact absurd ⟨rest, List.isPrefixOf?_eq_some_iff_append_eq.1 hs⟩ h

/-- A mark does not reach across a character that is not in it. -/
theorem prefix_of_prefix_append_cons {part s rest : List Char} {c : Char} (hc : c ∉ part)
    (h : part <+: s ++ c :: rest) : part <+: s := by
  obtain ⟨more, hmore⟩ := h
  obtain ⟨tail, hs, -⟩ | ⟨tail, hpart, hrest⟩ := List.append_eq_append_iff.1 hmore
  · exact ⟨tail, hs.symm⟩
  · cases tail with
    | nil => exact ⟨[], by rw [hpart, List.append_nil, List.append_nil]⟩
    | cons d tail =>
      obtain ⟨rfl, -⟩ := List.cons_eq_cons.1 hrest
      rw [hpart] at hc
      exact absurd (List.mem_append_right s List.mem_cons_self) hc

/-- Inside a text without a mark none begins, before a character that is not in it. -/
theorem not_prefix_append_cons {part s text rest : List Char} {c : Char} (hc : c ∉ part)
    (h : ¬ part <:+: text) (hs : s <:+ text) : ¬ part <+: s ++ c :: rest := by
  intro hstart
  have hin : part <+: s := prefix_of_prefix_append_cons hc hstart
  exact h (hin.isInfix.trans hs.isInfix)

/-- A mark stands on one side of a character that is not in it. -/
theorem infix_of_infix_append_cons {part s t : List Char} {c : Char} (hc : c ∉ part)
    (h : part <:+: s ++ c :: t) : part <:+: s ∨ part <:+: t := by
  have hnone {p : List Char} (hp : c ∉ p) (hstart : p <+: c :: t) : p = [] :=
    List.prefix_nil.1 (prefix_of_prefix_append_cons (s := []) hp hstart)
  obtain hs | ht | ⟨front, back, rfl, hfront, hback⟩ := List.infix_append_iff.1 h
  · exact .inl hs
  · obtain hstart | ht := List.infix_cons_iff.1 ht
    · rw [hnone hc hstart]
      exact .inl List.nil_infix
    · exact .inr ht
  · rw [hnone (fun hmem => hc (List.mem_append_right front hmem)) hback, List.append_nil]
    exact .inl hfront.isInfix

/-- The first mark is the one behind a text, if none begins inside the text. -/
theorem cut?_append {part before rest : List Char}
    (h : ∀ s, s ≠ [] → s <:+ before → ¬ part <+: s ++ (part ++ rest)) :
    cut? part (before ++ (part ++ rest)) = some (before, rest) := by
  apply cutWhere?_append
  · intro s hs hsuffix
    exact isPrefixOf?_eq_none (h s hs hsuffix)
  · exact isPrefixOf?_append part rest

/-! ## Runs -/

/-- A run of characters with a property: at least one. -/
structure IsRun (p : Char → Bool) (run : List Char) : Prop where
  ne_nil : run ≠ []
  all : ∀ c ∈ run, p c = true

instance (p : Char → Bool) (run : List Char) : Decidable (IsRun p run) :=
  decidable_of_iff (run ≠ [] ∧ run.all p = true)
    ⟨fun h => ⟨h.1, List.all_eq_true.1 h.2⟩, fun h => ⟨h.1, List.all_eq_true.2 h.2⟩⟩

theorem IsRun.length_ne {p : Char → Bool} {run : List Char} (h : IsRun p run) (rest : List Char) :
    rest.length ≠ (run ++ rest).length := by
  have hpos : 0 < run.length := List.length_pos_iff.2 h.ne_nil
  rw [List.length_append]
  omega

/-- What holds no `c` is a run of other characters. -/
theorem forall_ne_of_not_mem {c : Char} {s : List Char} (h : c ∉ s) :
    ∀ d ∈ s, decide (d ≠ c) = true := by
  intro d hd
  exact decide_eq_true fun hc => h (hc ▸ hd)

/-- What holds of the one character there is holds of all. -/
theorem forall_mem_some {P : Char → Prop} {a : Char} (h : P a) : ∀ c ∈ some a, P c := by
  intro c hc
  obtain rfl := Option.some_inj.1 hc
  exact h

/-- A run of characters is taken off in front of what goes on otherwise. -/
theorem takeWhile_append_eq {p : Char → Bool} {run rest : List Char} (hrun : ∀ c ∈ run, p c = true)
    (hrest : ∀ c ∈ rest.head?, p c = false) : (run ++ rest).takeWhile p = run := by
  rw [List.takeWhile_append_of_pos hrun]
  cases rest with
  | nil => exact List.append_nil run
  | cons c rest =>
    rw [List.takeWhile_cons_of_neg (by simp [hrest c rfl]), List.append_nil]

theorem dropWhile_append_eq {p : Char → Bool} {run rest : List Char} (hrun : ∀ c ∈ run, p c = true)
    (hrest : ∀ c ∈ rest.head?, p c = false) : (run ++ rest).dropWhile p = rest := by
  rw [List.dropWhile_append_of_pos hrun]
  cases rest with
  | nil => rfl
  | cons c rest => exact List.dropWhile_cons_of_neg (by simp [hrest c rfl])

theorem dropWhile_eq_self {p : Char → Bool} {s : List Char} (h : ∀ c ∈ s.head?, p c = false) :
    s.dropWhile p = s := by
  have hnone : ∀ c ∈ ([] : List Char), p c = true := nofun
  exact dropWhile_append_eq hnone h

end ChrootScan.Text
