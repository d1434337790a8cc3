import ChrootScan.CompilerFlags
import ChrootScan.Proofs.Shell.Grammar
import ChrootScan.Proofs.Shell.Room
import ChrootScan.Proofs.Text.Parts

/-!
# Flags as options of a command line

The flags of a command line are written as options again, each between bare apostrophes. Split into
words and sorted by their options they are the flags that were given, as long as none of them holds an
apostrophe. One apostrophe in any of them is enough to lose them, for then the line does not have the
room that the words would need (`encode_reads_back_iff`).
-/

namespace ChrootScan.CustomFlags

open Shell

/-! ## Options -/

/-- The options that flags are given with. -/
def optionNames : List String :=
  ["--gcc-add-flag", "--gcc-add-c-only-flag", "--gcc-add-cxx-only-flag", "--gcc-del-flag"]

/-- A word of a command line that gives a flag with an option. -/
def optionWord (option flag : String) : String :=
  option ++ "=" ++ flag

/-- The flags that words give with an option. -/
def givenWith (option : String) (words : List String) : List String :=
  words.filterMap (Text.afterLead? (option ++ "="))

/-- The flags that words give. Words without one of the options are passed over. -/
def ofWords (words : List String) : CustomFlags where
  add := givenWith "--gcc-add-flag" words
  addCOnly := givenWith "--gcc-add-c-only-flag" words
  addCxxOnly := givenWith "--gcc-add-cxx-only-flag" words
  del := givenWith "--gcc-del-flag" words

/-- Each flag with its option. -/
def options (c : CustomFlags) : List (String × String) :=
  c.groups.flatMap fun (option, flags) => flags.map fun flag => (option, flag)

/-- All flags. -/
def flags (c : CustomFlags) : List String :=
  c.options.map (·.2)

/-- The words that give the flags. -/
def optionWords (c : CustomFlags) : List String :=
  c.options.map fun (option, flag) => optionWord option flag

variable {c : CustomFlags} {option option' flag flag' word : String} {words flags : List String}

theorem groups_ofWords (words : List String) :
    (ofWords words).groups = optionNames.map fun option => (option, givenWith option words) := rfl

theorem toList_optionWord (option flag : String) :
    (optionWord option flag).toList = (option ++ "=").toList ++ flag.toList :=
  String.toList_append

theorem afterLead?_optionWord :
    Text.afterLead? (option ++ "=") word = some flag ↔ word = optionWord option flag :=
  Text.afterLead?_eq_some_iff

/-- No two options begin in the same way, so a word gives a flag with one of them at most. -/
theorem option_eq_of_optionWord_eq (h : option ∈ optionNames) (h' : option' ∈ optionNames)
    (heq : optionWord option flag = optionWord option' flag') : option = option' := by
  have hapart : ∀ o ∈ optionNames, ∀ o' ∈ optionNames,
      (o ++ "=").toList <+: (o' ++ "=").toList → o = o' := by decide +kernel
  have hchars := congrArg String.toList heq
  rw [toList_optionWord, toList_optionWord] at hchars
  have hlead : (option ++ "=").toList <+: (option' ++ "=").toList ++ flag'.toList := by
    rw [← hchars]
    exact List.prefix_append _ _
  rcases List.prefix_or_prefix_of_prefix hlead (List.prefix_append _ _) with hpre | hpre
  · exact hapart option h option' h' hpre
  · exact (hapart option' h' option h hpre).symm

/-! ## Reading back -/

theorem givenWith_append (more : List String) :
    givenWith option (words ++ more) = givenWith option words ++ givenWith option more :=
  List.filterMap_append

theorem givenWith_self (option : String) (flags : List String) :
    givenWith option (flags.map (optionWord option)) = flags := by
  have hself : Text.afterLead? (option ++ "=") ∘ optionWord option = some := by
    funext flag
    exact afterLead?_optionWord.2 rfl
  rw [givenWith, List.filterMap_map, hself, List.filterMap_some]

theorem givenWith_of_ne (h : option ∈ optionNames) (h' : option' ∈ optionNames)
    (hne : option ≠ option') (flags : List String) :
    givenWith option (flags.map (optionWord option')) = [] := by
  rw [givenWith, List.filterMap_eq_nil_iff]
  intro word hword
  obtain ⟨flag, -, rfl⟩ := List.mem_map.1 hword
  refine Option.eq_none_iff_forall_ne_some.2 fun flag' hflag => hne ?_
  exact (option_eq_of_optionWord_eq h' h (afterLead?_optionWord.1 hflag)).symm

theorem optionWords_eq (c : CustomFlags) :
    c.optionWords = c.groups.flatMap fun (option, flags) => flags.map (optionWord option) := by
  simp only [optionWords, options, List.map_flatMap, List.map_map]
  rfl

/-- The words that give the flags give these flags and no others. -/
theorem ofWords_optionWords (c : CustomFlags) : ofWords c.optionWords = c := by
  have hwords : c.optionWords =
      c.add.map (optionWord "--gcc-add-flag") ++ c.addCOnly.map (optionWord "--gcc-add-c-only-flag") ++
        c.addCxxOnly.map (optionWord "--gcc-add-cxx-only-flag") ++
        c.del.map (optionWord "--gcc-del-flag") := by
    simp [optionWords_eq, groups]
  rw [hwords, ofWords]
  simp (disch := decide) only [givenWith_append, givenWith_self, givenWith_of_ne, List.append_nil,
    List.nil_append]

/-! ## Splitting -/

/-- Without apostrophes, options are split into the words that give the flags. -/
theorem split_join_encodeFlag {options : List (String × String)}
    (h : ∀ o ∈ options, o.1 ∈ optionNames ∧ '\'' ∉ o.2.toList) :
    split (String.join (options.map fun o => encodeFlag o.1 o.2)) =
      .ok (options.map fun o => optionWord o.1 o.2) := by
  -- the names are four, and none of them needs quotes
  have hnames : ∀ o ∈ optionNames, Unquoted (o ++ "=") ∧ o ++ "=" ≠ "" := by decide +kernel
  induction options using List.reverseRecOn with
  | nil => rfl
  | append_singleton options o ih =>
    obtain ⟨hname, happos⟩ := h o (by simp)
    obtain ⟨hunquoted, hne⟩ := hnames o.1 hname
    have hspells : Spells (o.1 ++ "='" ++ o.2 ++ "'").toList (optionWord o.1 o.2).toList := by
      have hparts : (o.1 ++ "='" ++ o.2 ++ "'").toList =
          (o.1 ++ "=").toList ++ ('\'' :: o.2.toList ++ ['\'']) := by
        simp
      rw [hparts, toList_optionWord]
      exact (hunquoted.spells hne).append (spells_apart happos)
    have hline : String.join ((options ++ [o]).map fun o => encodeFlag o.1 o.2) =
        String.join (options.map fun o => encodeFlag o.1 o.2) ++ " " ++
          (o.1 ++ "='" ++ o.2 ++ "'") := by
      rw [← String.toList_inj]
      simp [String.toList_join, encodeFlag]
    have hfront := ih fun o ho => h o (List.mem_append_left _ ho)
    rw [hline, split_append_space hfront (split_of_spells hspells), List.map_append]
    rfl

theorem encode_eq (c : CustomFlags) :
    c.encode = String.join (c.options.map fun o => encodeFlag o.1 o.2) := by
  simp only [encode, options, List.map_flatMap, List.map_map]
  rfl

theorem mem_optionNames_of_mem_options {o : String × String} (h : o ∈ c.options) :
    o.1 ∈ optionNames := by
  obtain ⟨group, hgroup, hmem⟩ := List.mem_flatMap.1 h
  obtain ⟨flag, -, rfl⟩ := List.mem_map.1 hmem
  have hnames : optionNames = c.groups.map (·.1) := rfl
  rw [hnames]
  exact List.mem_map_of_mem hgroup

theorem split_encode (h : ∀ flag ∈ c.flags, '\'' ∉ flag.toList) :
    split c.encode = .ok c.optionWords := by
  rw [encode_eq]
  refine split_join_encodeFlag fun o ho => ?_
  exact ⟨mem_optionNames_of_mem_options ho, h o.2 (List.mem_map_of_mem ho)⟩

/-! ## Apostrophes -/

/-- The options take up just the room of the words that give the flags. -/
theorem bulk_encode (c : CustomFlags) :
    bulk c.encode.toList = weigh (c.optionWords.map String.toList) := by
  have hflag (o : String × String) : bulk (encodeFlag o.1 o.2).toList =
      bulk (optionWord o.1 o.2).toList + 1 := by
    simp [encodeFlag, optionWord, bulk]
  rw [encode_eq, String.toList_join, optionWords]
  induction c.options with
  | nil => rfl
  | cons o options ih =>
    rw [List.map_cons, List.flatMap_cons, bulk_append, ih, hflag]
    rfl

/-- Of a sum, no more is left than one term if only one can count. -/
theorem sum_map_ite_le {α : Type} {p : α → Prop} [DecidablePred p] {l : List α} (k : Nat)
    (h : l.Pairwise fun a b => ¬ (p a ∧ p b)) : (l.map fun a => if p a then k else 0).sum ≤ k := by
  induction l with
  | nil => exact Nat.zero_le k
  | cons a l ih =>
    obtain ⟨ha, hl⟩ := List.pairwise_cons.1 h
    rw [List.map_cons, List.sum_cons]
    by_cases hp : p a
    · have hrest : ∀ b ∈ l, (if p b then k else 0) = 0 := fun b hb =>
        if_neg fun hb' => ha b hb ⟨hp, hb'⟩
      rw [if_pos hp, List.map_congr_left hrest]
      simp
    · rw [if_neg hp, Nat.zero_add]
      exact ih hl

/-- A word that gives a flag with an option takes up its own room, any other none. -/
theorem weigh_givenWith_cons (option word : String) (words : List String) :
    weigh ((givenWith option (word :: words)).map fun flag => (optionWord option flag).toList) =
      (if (Text.afterLead? (option ++ "=") word).isSome then bulk word.toList + 1 else 0) +
        weigh ((givenWith option words).map fun flag => (optionWord option flag).toList) := by
  cases hflag : Text.afterLead? (option ++ "=") word with
  | none => simp [givenWith, hflag]
  | some flag =>
    obtain rfl := afterLead?_optionWord.1 hflag
    simp [givenWith, hflag, weigh]

/-- The words that give flags take up no more room than all words. -/
theorem weigh_optionWords_ofWords_le (words : List String) :
    weigh ((ofWords words).optionWords.map String.toList) ≤ weigh (words.map String.toList) := by
  have hsum : weigh ((ofWords words).optionWords.map String.toList) =
      (optionNames.map fun option =>
        weigh ((givenWith option words).map fun flag => (optionWord option flag).toList)).sum := by
    simp [optionWords_eq, groups_ofWords, optionNames, Function.comp_def]
  rw [hsum]
  clear hsum
  induction words with
  | nil => exact Nat.zero_le _
  | cons word words ih =>
    -- no two options have a share in the room of the word in front
    have happart : optionNames.Pairwise fun o o' => ¬ ((Text.afterLead? (o ++ "=") word).isSome ∧
        (Text.afterLead? (o' ++ "=") word).isSome) := by
      have hnodup : optionNames.Nodup := by decide
      refine hnodup.imp_of_mem fun ho ho' hne hboth => hne ?_
      obtain ⟨flag, hflag⟩ := Option.isSome_iff_exists.1 hboth.1
      obtain ⟨flag', hflag'⟩ := Option.isSome_iff_exists.1 hboth.2
      exact option_eq_of_optionWord_eq ho ho'
        ((afterLead?_optionWord.1 hflag).symm.trans (afterLead?_optionWord.1 hflag'))
    have hword := sum_map_ite_le (bulk word.toList + 1) happart
    have hcons : weigh ((word :: words).map String.toList) =
        bulk word.toList + 1 + weigh (words.map String.toList) := rfl
    simp only [weigh_givenWith_cons, List.sum_map_add]
    omega

theorem mem_of_mem_optionWords_ofWords (h : word ∈ (ofWords words).optionWords) :
    word ∈ words := by
  rw [optionWords_eq, groups_ofWords, List.flatMap_map] at h
  obtain ⟨option, -, hmem⟩ := List.mem_flatMap.1 h
  obtain ⟨flag, hflag, rfl⟩ := List.mem_map.1 hmem
  obtain ⟨word, hword, hafter⟩ := List.mem_filterMap.1 hflag
  rwa [← afterLead?_optionWord.1 hafter]

/-- The first option has a space in front of it. -/
theorem encode_eq_space (h : c.options ≠ []) : ∃ rest, c.encode.toList = ' ' :: rest := by
  obtain ⟨o, options, hoptions⟩ := List.exists_cons_of_ne_nil h
  rw [encode_eq, hoptions, String.toList_join]
  exact ⟨_, by simp [encodeFlag]; rfl⟩

/-- The line with the options does not have the room for words that give a flag with an
apostrophe. -/
theorem not_apostrophe_of_split_encode (h : split c.encode = .ok words) (hwords : ofWords words = c)
    (hflag : flag ∈ c.flags) : '\'' ∉ flag.toList := by
  intro happos
  obtain ⟨o, ho, rfl⟩ := List.mem_map.1 hflag
  obtain ⟨rest, hrest⟩ := encode_eq_space (List.ne_nil_of_mem ho)
  have hsplit : splitChars rest = .ok (words.map String.toList) := by
    rw [← splitChars_toList_eq_ok h, hrest]
    rfl
  have hmem : optionWord o.1 o.2 ∈ words := by
    apply mem_of_mem_optionWords_ofWords
    rw [hwords]
    exact List.mem_map_of_mem ho
  have hroom := (weigh_of_splitChars hsplit).2
    ⟨_, List.mem_map_of_mem hmem, by simp [toList_optionWord, happos]⟩
  have hbulk := bulk_encode c
  rw [hrest, bulk_cons, bulk_singleton (by decide)] at hbulk
  have hle := weigh_optionWords_ofWords_le words
  rw [hwords] at hle
  omega

/-- Written as options and read back, flags are the same flags, in the same order, just when none of
them holds an apostrophe. Of two such collections of flags, the same options come from equal ones
only. -/
theorem encode_reads_back_iff (c : CustomFlags) :
    ((∃ words, split c.encode = .ok words ∧ ofWords words = c) ↔
      ∀ flag ∈ c.flags, '\'' ∉ flag.toList) ∧
    ((∀ flag ∈ c.flags, '\'' ∉ flag.toList) → ∀ c' : CustomFlags,
      (∀ flag ∈ c'.flags, '\'' ∉ flag.toList) → c.encode = c'.encode → c = c') := by
  refine ⟨⟨?_, fun h => ⟨c.optionWords, split_encode h, ofWords_optionWords c⟩⟩, ?_⟩
  · rintro ⟨words, hsplit, hwords⟩ flag hflag
    exact not_apostrophe_of_split_encode hsplit hwords hflag
  · intro h c' h' heq
    have hwords : c.optionWords = c'.optionWords := by
      have hsplit := split_encode h
      rw [heq, split_encode h'] at hsplit
      exact (Except.ok.inj hsplit).symm
    rw [← ofWords_optionWords c, hwords, ofWords_optionWords]

/-- A flag with apostrophes that is read back as two, and written as these are. -/
theorem encode_not_injective :
    let c : CustomFlags := { add := ["a' --gcc-del-flag='b"] }
    let c' : CustomFlags := { add := ["a"], del := ["b"] }
    c.encode = c'.encode ∧ c ≠ c' ∧
      split c.encode = .ok ["--gcc-add-flag=a", "--gcc-del-flag=b"] ∧
      ofWords ["--gcc-add-flag=a", "--gcc-del-flag=b"] ≠ c := by
  decide +kernel

end ChrootScan.CustomFlags
