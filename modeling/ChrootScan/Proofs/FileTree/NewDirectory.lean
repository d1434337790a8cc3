import ChrootScan.Proofs.FileTree
import ChrootScan.Proofs.Path

/-!
# New directories

A path that a directory was just created at leads to it, and with a name behind it into it
(`Creates.locate_name`). Nothing is in the directory yet, so other directories and files can be put
there (`Creates.creates_join`, `Creates.writeBytes_join`). All this holds for as long as nothing but
files and directories is added (`Grows`).
-/

namespace ChrootScan.FileTree

variable {t t' : FileTree} {place : Place}

/-- Every node stands in a directory. -/
def Grounded (t : FileTree) : Prop :=
  ∀ place name, t.node? (place ++ [name]) ≠ none → t.node? place = some .dir

/-- A tree is grounded if each node that is listed stands in a directory. -/
theorem grounded_of_nodes (h : ∀ e ∈ t.nodes, t.node? e.1.dropLast = some .dir) : t.Grounded := by
  intro place name hnode
  rw [node?, if_neg (by simp)] at hnode
  obtain ⟨node, hnode⟩ := Option.ne_none_iff_exists'.1 hnode
  obtain ⟨before, behind, hnodes, -⟩ := List.lookup_eq_some_iff.1 hnode
  have hdir := h (place ++ [name], node) (by simp [hnodes])
  rwa [List.dropLast_concat] at hdir

/-- Files and directories were added, and files were written to. -/
structure Grows (t t' : FileTree) : Prop where
  cwd : t'.cwd = t.cwd
  dir : ∀ {place}, t.node? place = some .dir → t'.node? place = some .dir
  link_iff : ∀ {place target},
    t'.node? place = some (.link target) ↔ t.node? place = some (.link target)

instance : IsPreorder FileTree Grows where
  refl _ := ⟨rfl, id, Iff.rfl⟩
  trans _ _ _ h h' := ⟨h'.cwd.trans h.cwd, h'.dir ∘ h.dir, h'.link_iff.trans h.link_iff⟩

/-- Nothing is there, or a file. -/
def Free (t : FileTree) (place : Place) : Prop :=
  t.node? place ≠ some .dir ∧ ∀ target, t.node? place ≠ some (.link target)

/-- The root is a directory, so its place is never free. -/
theorem Free.ne_nil (h : t.Free place) : place ≠ [] := by
  rintro rfl
  exact h.1 rfl

/-- Where nothing is, a place is free. -/
theorem free_of_none (h : t.node? place = none) : t.Free place := by
  constructor <;> simp [h]

/-- A node in a free place adds to a tree, as long as it is no link. -/
theorem grows_put (h : t.Free place) {node : Node} (hnode : ∀ target, node ≠ .link target) :
    Grows t (t.put place node) := by
  refine ⟨rfl, fun {other} hdir => ?_, fun {other target} => ?_⟩
  · have hother : other ≠ place := fun hother => h.1 (hother ▸ hdir)
    rwa [node?_put_of_ne hother]
  · by_cases hother : other = place
    · rw [hother, node?_put_self h.ne_nil]
      exact iff_of_false (fun hlink => hnode target (Option.some.inj hlink)) (h.2 target)
    · rw [node?_put_of_ne hother]

/-- Nothing stands below a place where nothing is. -/
theorem Grounded.node?_below (h : t.Grounded) (hplace : t.node? place = none) (name : String) :
    t.node? (place ++ [name]) = none := by
  by_contra hbelow
  have hdir := h place name hbelow
  rw [hplace] at hdir
  cases hdir

/-- A node that is put into a directory leaves the tree grounded. -/
theorem Grounded.put (h : t.Grounded) (hdir : t.node? place.dropLast = some .dir)
    (hfree : t.Free place) (node : Node) : (t.put place node).Grounded := by
  intro above name hnode
  -- the node put there is no place above another one
  have habove (hbelow : t.node? above = some .dir) :
      (t.put place node).node? above = some .dir := by
    have hne : above ≠ place := fun hsame => hfree.1 (hsame ▸ hbelow)
    rwa [node?_put_of_ne hne]
  by_cases hsame : above ++ [name] = place
  · refine habove ?_
    rwa [← hsame, List.dropLast_concat] at hdir
  · rw [node?_put_of_ne hsame] at hnode
    exact habove (h above name hnode)

/-- A tree stays grounded if a place is removed together with all below it. -/
theorem Grounded.prune (h : t.Grounded) (place : Place) : (t.prune place).Grounded := by
  intro above name hnode
  rw [node?_prune (by simp)] at hnode
  split_ifs at hnode with hbelow
  · exact absurd rfl hnode
  · have hdir := h above name hnode
    rcases eq_or_ne above [] with rfl | habove
    · rfl
    · have hkept : place.isPrefixOf above = false := by
        refine Bool.eq_false_iff.2 fun hprefix => hbelow ?_
        rw [List.isPrefixOf_iff_prefix] at hprefix ⊢
        exact hprefix.trans (List.prefix_append _ _)
      rwa [node?_prune habove, hkept, if_neg Bool.false_ne_true]

/-! ## Operations -/

/-- Two steps succeed if the first does and then the second on its answer. -/
theorem exists_of_bind_eq_ok {ε α β : Type} {x : Except ε α} {f : α → Except ε β} {b : β}
    (h : (x >>= f) = .ok b) : ∃ a, x = .ok a ∧ f a = .ok b := by
  cases x with
  | error e => cases h
  | ok a => exact ⟨a, rfl, h⟩

/-- A place may be used only if it is in a directory. -/
theorem inDirectory_eq_ok {u : Unit} (h : t.inDirectory place = .ok u) :
    t.node? place.dropLast = some .dir := by
  unfold inDirectory at h
  split at h
  · assumption
  · cases h
  · cases h

/-- A directory is created at a path: nothing was at its place, in a directory. -/
structure Creates (t made : FileTree) (path : String) (place : Place) : Prop where
  locate : t.locate false (Text.dropTrailing '/' path) = .ok place
  parent : t.node? place.dropLast = some .dir
  none : t.node? place = none
  made_eq : made = t.put place .dir

/-- A directory that was created was created at some place. -/
theorem exists_creates {path : String} (h : t.createDir path = .ok t') :
    ∃ place, Creates t t' path place := by
  obtain ⟨place, hplace, h⟩ := exists_of_bind_eq_ok h
  obtain ⟨_, hdir, h⟩ := exists_of_bind_eq_ok h
  cases hnode : t.node? place with
  | none =>
    rw [hnode] at h
    exact ⟨place, hplace, inDirectory_eq_ok hdir, hnode, (Except.ok.inj h).symm⟩
  | some node =>
    rw [hnode] at h
    cases h

/-- A new mode takes nothing away. -/
theorem grows_setMode {path : String} {mode : Nat} (h : t.setMode path mode = .ok t') :
    Grows t t' := by
  obtain ⟨place, -, h⟩ := exists_of_bind_eq_ok h
  split at h
  · next bytes old hnode =>
    obtain rfl := Except.ok.inj h
    exact grows_put (by constructor <;> simp [hnode]) (by simp)
  · obtain rfl := Except.ok.inj h
    exact refl_of Grows t
  · cases h

/-- A path that leads to a file sets the mode of this file. -/
theorem setMode_of_file {path : String} {bytes : ByteArray} {old mode : Nat}
    (hplace : t.locate true path = .ok place)
    (hfile : t.node? place = some (.file bytes old)) :
    t.setMode path mode = .ok (t.put place (.file bytes mode)) := by
  rw [setMode, hplace]
  simp only [bind, Except.bind, hfile]

/-- Appending changes nothing but the bytes of a file. -/
theorem grows_appendBytes (t : FileTree) (path : String) (bytes : ByteArray) :
    Grows t (t.appendBytes path bytes) := by
  rcases t.appendBytes_cases path bytes with ⟨hsame, -⟩ | ⟨place, old, mode, -, hfile, hput⟩
  · rw [hsame]
    exact refl_of Grows t
  · rw [hput]
    exact grows_put (by constructor <;> simp [hfile]) (by simp)

/-- What is removed is a place with all below it. -/
theorem removeAll_eq_ok {path : String} (h : t.removeAll path = (.ok (), t')) :
    ∃ place, t' = t.prune place := by
  unfold removeAll at h
  split at h
  · cases h
  · next place _ =>
    split at h
    · cases h
    · cases h
    · cases h
    · cases h
    · exact ⟨place, (congrArg Prod.snd h).symm⟩

/-! ## Walks into a new directory -/

/-- In a directory, a name leads to what is there or to nothing, unless it is a link. -/
theorem walkBy_name {name : String} (hname : Path.IsName name)
    (hlink : ∀ target, t.node? (place ++ [name]) ≠ some (.link target)) (follow : Bool)
    (jump : Place → List String → Except SystemError Place) :
    t.walkBy follow jump place [name] = .ok (place ++ [name]) :=
  walkBy_cons_eq_ok_iff.2
    (.last ⟨hname.ne_here, hname.ne_above⟩ rfl rfl fun target h => absurd h (hlink target))

section
variable {follow : Bool} {d reached : Place} {more : List String} (hgrows : Grows t t')
  (hdir : t'.node? d = some .dir)
  (hmore : ∀ jump, t'.walkBy follow jump d more = .ok reached)

include hgrows hdir hmore

/-- A walk that led to a place goes on from there, if the place is a directory now. -/
theorem walkBy_into {jump jump' : Place → List String → Except SystemError Place}
    {here : Place} {names : List String} (h : t.walkBy false jump here names = .ok d)
    (hjump : ∀ here names, jump here names = .ok d → jump' here (names ++ more) = .ok reached) :
    t'.walkBy follow jump' here (names ++ more) = .ok reached := by
  induction names generalizing here with
  | nil =>
    obtain rfl := Except.ok.inj h
    exact hmore jump'
  | cons first rest ih =>
    rw [List.cons_append]
    rw [walkBy_cons_eq_ok_iff] at h ⊢
    cases h with
    | stay hname hrest => exact .stay hname (ih hrest)
    | up hname hrest => exact .up hname (ih hrest)
    | last hname hrest hreached _ =>
      -- the walk ended here, where the directory is now
      subst hrest hreached
      exact .into hname hdir (hmore jump')
    | into hname hinto hrest => exact .into hname (hgrows.dir hinto) (ih hrest)
    | through hname hlink hnotLast hrest =>
      -- names come behind the link in both walks, so both of them pass it
      rcases rest with _ | ⟨second, rest⟩
      · cases hnotLast
      · refine .through hname (hgrows.link_iff.2 hlink) rfl ?_
        rw [← List.append_assoc]
        exact hjump _ _ hrest

theorem walk_into {links : Nat} {here : Place} {names : List String}
    (h : t.walk false links here names = .ok d) :
    t'.walk follow links here (names ++ more) = .ok reached := by
  induction links generalizing here names with
  | zero =>
    have h : t.walkBy false (fun _ _ => .error .tooManyLinks) here names = .ok d := h
    exact walkBy_into hgrows hdir hmore h nofun
  | succ links ih =>
    have h : t.walkBy false (t.walk false links) here names = .ok d := h
    exact walkBy_into hgrows hdir hmore h fun _ _ => ih

end

/-! ## Paths of a new directory -/

namespace Creates

variable {made : FileTree} {path : String} (h : Creates t made path place)

include h

/-- A new directory is not the root. -/
theorem ne_nil : place ≠ [] :=
  (free_of_none h.none).ne_nil

/-- A directory that may be created is created. -/
theorem createDir : t.createDir path = .ok made := by
  have hparent : t.inDirectory place = .ok () := by
    rw [inDirectory, h.parent]
  rw [FileTree.createDir, h.locate, h.made_eq]
  simp only [bind, Except.bind, hparent, h.none]

/-- The new directory is there. -/
theorem node? : made.node? place = some .dir := by
  rw [h.made_eq, node?_put_self h.ne_nil]

/-- A new directory takes nothing away. -/
theorem grows : Grows t made := by
  rw [h.made_eq]
  exact grows_put (free_of_none h.none) (by simp)

/-- A new directory leaves the tree grounded. -/
theorem grounded (hground : t.Grounded) : made.Grounded := by
  rw [h.made_eq]
  exact hground.put h.parent (free_of_none h.none) .dir

/-- Nothing is in a new directory. -/
theorem node?_below (hground : t.Grounded) (name : String) :
    made.node? (place ++ [name]) = .none := by
  rw [h.made_eq, node?_put_of_ne (by simp), hground.node?_below h.none name]

/-- A directory is not created at an empty path. -/
theorem path_ne_empty : Text.dropTrailing '/' path ≠ "" := by
  intro hempty
  have hlocate := h.locate
  rw [hempty] at hlocate
  cases hlocate

/-- The path leads to the directory, whatever files and directories are added. -/
theorem walk_pieces {more : List String} {reached : Place} {follow : Bool} (hgrows : Grows made t')
    (hmore : ∀ jump, t'.walkBy follow jump place more = .ok reached) :
    t'.walk follow maxLinks (if Path.isAbsolute path then [] else t'.cwd) (Path.pieces path ++ more) =
      .ok reached := by
  have hlocate := h.locate
  have hall : Grows t t' := trans_of Grows h.grows hgrows
  rw [FileTree.locate, if_neg (by simpa using h.path_ne_empty), Path.route_dropTrailing,
    Path.isAbsolute_dropTrailing h.path_ne_empty, ← hall.cwd] at hlocate
  exact walk_into hall (hgrows.dir h.node?) hmore hlocate

/-- The path leads to the new directory, also once more is added to the tree. -/
theorem locate_path (hgrows : Grows made t') (follow : Bool) :
    t'.locate follow path = .ok place := by
  have hpath : path ≠ "" := by
    rintro rfl
    exact h.path_ne_empty rfl
  have hhere (jump : Place → List String → Except SystemError Place) :
      t'.walkBy follow jump place ["."] = .ok place := by
    rw [walkBy, if_pos rfl, walkBy]
  have hend (jump : Place → List String → Except SystemError Place) :
      t'.walkBy follow jump place [] = .ok place := by
    rw [walkBy]
  rw [FileTree.locate, if_neg (by simpa using hpath), route]
  by_cases hslash : Text.endsWith "/" path = true
  · rw [if_pos hslash]
    exact h.walk_pieces hgrows hhere
  · rw [if_neg hslash]
    exact h.walk_pieces hgrows hend

/-- A piece behind the path leads to where it leads from the new directory. -/
theorem locate_join {piece : String} {reached : Place} {follow : Bool} (hgrows : Grows made t')
    (hpiece : Path.IsPiece piece)
    (hwalk : ∀ jump, t'.walkBy follow jump place [piece] = .ok reached) :
    t'.locate follow (Path.join path piece) = .ok reached := by
  have hpath : path ≠ "" := by
    rintro rfl
    exact h.path_ne_empty rfl
  rw [FileTree.locate, if_neg (by simpa using Path.join_ne_empty path hpiece),
    Path.route_join path hpiece, Path.isAbsolute_join hpath hpiece]
  exact h.walk_pieces hgrows hwalk

/-- No links are in a new directory, whatever files and directories are added. -/
theorem ne_link (hground : t.Grounded) (hgrows : Grows made t') (name target : String) :
    t'.node? (place ++ [name]) ≠ some (.link target) := by
  intro hlink
  have hbelow := hgrows.link_iff.1 hlink
  rw [h.node?_below hground name] at hbelow
  cases hbelow

/-- A name behind the path leads to its place in the new directory. -/
theorem locate_name (hground : t.Grounded) {name : String} (hgrows : Grows made t')
    (hname : Path.IsName name) (follow : Bool) :
    t'.locate follow (Path.join path name) = .ok (place ++ [name]) :=
  h.locate_join hgrows hname.isPiece
    (walkBy_name hname (h.ne_link hground hgrows name) follow)

/-- A directory can be created in a new one, under a name that is not taken. -/
theorem creates_join (hground : t.Grounded) {name : String} (hgrows : Grows made t')
    (hname : Path.IsName name) (hnone : t'.node? (place ++ [name]) = .none) :
    Creates t' (t'.put (place ++ [name]) .dir) (Path.join path name) (place ++ [name]) := by
  refine ⟨?_, ?_, hnone, rfl⟩
  · rw [Path.dropTrailing_eq_self (Path.endsWith_join path hname.isPiece)]
    exact h.locate_name hground hgrows hname false
  · rw [List.dropLast_concat]
    exact hgrows.dir h.node?

/-- A file can be written in a new directory, under a name that is not taken. -/
theorem writeBytes_join (hground : t.Grounded) {name : String} (hgrows : Grows made t')
    (hname : Path.IsName name) (bytes : ByteArray)
    (hnone : t'.node? (place ++ [name]) = .none) :
    t'.writeBytes (Path.join path name) bytes =
      .ok (t'.put (place ++ [name]) (.file bytes 0o644)) := by
  have hparent : t'.inDirectory (place ++ [name]) = .ok () := by
    rw [inDirectory, List.dropLast_concat, hgrows.dir h.node?]
  rw [FileTree.writeBytes, h.locate_name hground hgrows hname]
  simp only [bind, Except.bind, hparent, hnone]

end Creates

end ChrootScan.FileTree
