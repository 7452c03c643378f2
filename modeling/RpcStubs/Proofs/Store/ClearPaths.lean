import RpcStubs.Proofs.Simulation
import RpcStubs.Proofs.Store.Links

/-! # Operations on clear paths

On clear paths a tree with links does what the store of all that is no link does.  A walk meets no link
there, so every operation finds the same target or the same fault, and what it changes is no link either.
The links stay where they are, so a clear path stays clear, and this goes on through a whole script:
`LinkedStore.simulation`.  In a tree without links all paths are clear (`LinkedStore.run_alike`).
-/

namespace RpcStubs.LinkedStore

variable {tree origin : LinkedStore} {here place : Place} {pieces : List String}
  {path source destination : Path}

/-! ## Walks -/

/-- Where no link lies on the way, a walk gets as far as in the store. -/
theorem walkToLink_eq (clear : ∀ place ∈ placesFrom here pieces, tree.linkAt place = false) :
    tree.walkToLink here pieces = (tree.plain.walk here pieces).map .arrived := by
  induction pieces generalizing here with
  | nil => rfl
  | cons piece rest inductionHypothesis =>
    obtain ⟨start, onward⟩ := List.forall_mem_cons.1 clear
    have walked := inductionHypothesis onward
    have next := onward _ (mem_placesFrom_start _ _)
    rw [walkToLink, Store.walk, isFolderAt_eq start]
    by_cases folder : tree.plain.entry? here = some .folder
    swap
    · simp [folder, Except.map]
    simp only [folder, decide_true, Bool.not_true, Bool.false_eq_true, if_false, ne_eq, not_true]
    -- only a name can lead to a link, and this one does not
    unfold follow at walked next
    split_ifs at walked next ⊢ with stays up long missing
    · exact walked
    · exact walked
    · rfl
    · rw [node?_eq next, Option.isNone_iff_eq_none.1 missing]
      rfl
    · cases there : tree.plain.entry? (here ++ [piece]) with
      | none => simp [there] at missing
      | some entry =>
        rw [node?_eq next, there]
        exact walked

theorem walk_eq (links : Nat) (clear : ∀ place ∈ placesFrom here pieces, tree.linkAt place = false) :
    tree.walk links here pieces = tree.plain.walk here pieces := by
  unfold walk
  rw [walkToLink_eq clear]
  cases tree.plain.walk here pieces with
  | error e => rfl
  | ok place => rfl

theorem resolve_eq (clear : tree.Clear path) : tree.resolve path = tree.plain.resolve path := by
  unfold resolve Store.resolve
  cases Store.pathFault? path with
  | some fault => rfl
  | none => exact walk_eq linkLimit clear

/-! ## Targets -/

/-- The way to the folder of a target is the beginning of the way of a path. -/
theorem beforeLast_isPrefix (path : Path) : beforeLast path <+: path.pieces := by
  obtain ⟨slashes, pieces⟩ := Store.pieces_eq_withoutTrailing path.pieces
  have trailing : Store.withoutTrailing path.pieces <+: path.pieces := ⟨_, pieces.symm⟩
  exact (List.dropLast_prefix _).trans trailing

theorem clear_beforeLast (clear : tree.Clear path) :
    ∀ place ∈ placesFrom [] (beforeLast path), tree.linkAt place = false := by
  have onWay : Path.way ⟨beforeLast path⟩ ⊆ path.way :=
    Path.way_subset_of_prefix (beforeLast_isPrefix path)
  exact fun place member => clear place (onWay member)

/-- A target is found where it is in the store. -/
theorem target_eq (clear : tree.Clear path) (unnamed : FileError) :
    tree.target path unnamed = tree.plain.target path unnamed := by
  have clearBefore := clear_beforeLast clear
  unfold target Store.target
  cases Store.pathFault? path with
  | some fault => rfl
  | none =>
    dsimp only
    rw [walk_eq linkLimit clearBefore]
    show _ = tree.plain.walk [] (beforeLast path) >>= _
    cases walked : tree.plain.walk [] (beforeLast path) with
    | error e => rfl
    | ok folder =>
      have noLink : tree.linkAt folder = false := by
        rw [Store.walk_place walked]
        exact clearBefore _ (mem_placesFrom_end _ _)
      show tree.lastIn folder path unnamed = _
      unfold lastIn
      rw [isFolderAt_eq noLink]
      simp only [Bool.not_eq_true', decide_eq_false_iff_not]
      rfl

/-- What a target names is no link. -/
theorem linkAt_target {target : Store.Target} (clear : tree.Clear path)
    (found : tree.plain.target path unnamed = .ok target) :
    target.place ≠ [] ∧ tree.linkAt target.place = false := by
  have reached := Store.reached_of_target found
  exact ⟨target.place_ne_nil, reached.place_eq ▸ clear _ path.place_mem_way⟩

/-- A file is opened to be written where its path names it, unless a folder is there. -/
theorem opened_eq (clear : tree.Clear path) : tree.opened path =
    tree.plain.target path .isAFolder >>= fun target =>
      if target.trailingSlash then .error .isAFolder
      else if tree.plain.entry? target.place = some .folder then .error .isAFolder
      else .ok target.place := by
  have clearBefore := clear_beforeLast clear
  have found := target_eq clear .isAFolder
  rw [← found]
  unfold opened
  unfold target at found ⊢
  cases faulty : Store.pathFault? path with
  | some fault => rfl
  | none =>
    rw [faulty] at found
    dsimp only at found ⊢
    -- a link as the last name would be followed, but the target is none
    unfold openedFrom
    rw [walkToLink_eq clearBefore]
    rw [walk_eq linkLimit clearBefore] at found ⊢
    cases walked : tree.plain.walk [] (beforeLast path) with
    | error e => rfl
    | ok folder =>
      rw [walked] at found
      cases last : tree.lastIn folder path .isAFolder with
      | error e => simp [Except.map, bind, Except.bind, last]
      | ok target =>
        have named : tree.plain.target path .isAFolder = .ok target := found.symm.trans last
        obtain ⟨-, noLink⟩ := linkAt_target clear named
        simp only [Except.map, bind, Except.bind, last, node?_eq noLink]
        cases tree.plain.entry? target.place with
        | none => simp
        | some entry => cases entry <;> simp

/-! ## Operations -/

theorem isPresent_eq (clear : tree.Clear path) : tree.isPresent path = tree.plain.isPresent path := by
  rw [isPresent, Store.isPresent, resolve_eq clear]

theorem linkAt_resolve (clear : tree.Clear path) (resolved : tree.plain.resolve path = .ok place) :
    tree.linkAt place = false := by
  unfold Store.resolve at resolved
  split at resolved
  · cases resolved
  · rw [Store.walk_place resolved]
    exact clear _ path.place_mem_way

theorem isFolder_eq (clear : tree.Clear path) : tree.isFolder path = tree.plain.isFolder path := by
  rw [isFolder, Store.isFolder, resolve_eq clear]
  cases resolved : tree.plain.resolve path with
  | error e => rfl
  | ok place => exact isFolderAt_eq (linkAt_resolve clear resolved)

theorem readFile_eq (clear : tree.Clear path) : tree.readFile path = tree.plain.readFile path := by
  unfold readFile Store.readFile
  rw [resolve_eq clear]
  cases resolved : tree.plain.resolve path with
  | error e => rfl
  | ok place =>
    simp only [bind, Except.bind, node?_eq (linkAt_resolve clear resolved)]
    cases tree.plain.entry? place with
    | none => rfl
    | some entry => cases entry <;> rfl

/-! ## The simulation -/

/-- The tree is another one but for its files and folders, which are those of the store. -/
structure Holds (origin tree : LinkedStore) (store : Store) : Prop where
  links : SameLinks origin tree
  plain : tree.plain = store

namespace Holds

variable {store : Store} {entry : Entry}

theorem of_tree (tree : LinkedStore) : Holds tree tree tree.plain :=
  ⟨.refl tree, rfl⟩

theorem put (holds : Holds origin tree store) (inside : place ≠ [])
    (noLink : tree.linkAt place = false) :
    Holds origin (tree.put place (.entry entry)) (store.put place entry) :=
  ⟨holds.links.trans (.put inside noLink), by rw [plain_put inside noLink, holds.plain]⟩

theorem erase (holds : Holds origin tree store) (inside : place ≠ [])
    (noLink : tree.linkAt place = false) : Holds origin (tree.erase place) (store.erase place) :=
  ⟨holds.links.trans (.erase inside noLink), by rw [plain_erase, holds.plain]⟩

/-- What is no link in the tree is in the store. -/
theorem entry?_of_node? (holds : Holds origin tree store) (there : tree.node? place = some (.entry entry)) :
    origin.linkAt place = false ∧ store.entry? place = some entry := by
  have noLink : tree.linkAt place = false := by simp [linkAt, there]
  refine ⟨(holds.links.linkAt_eq place).symm.trans noLink, ?_⟩
  rw [← holds.plain]
  exact (node?_eq_entry_iff noLink).1 there

theorem node?_of_entry? (holds : Holds origin tree store) (noLink : origin.linkAt place = false)
    (there : store.entry? place = some entry) : tree.node? place = some (.entry entry) := by
  rw [← holds.plain] at there
  exact (node?_eq_entry_iff ((holds.links.linkAt_eq place).trans noLink)).2 there

end Holds

theorem makeFolder_alike (holds : Holds origin tree tree.plain) (clear : tree.Clear path) :
    Alike (Holds origin) (tree.makeFolder path) (tree.plain.makeFolder path) := by
  unfold makeFolder Store.makeFolder
  rw [target_eq clear]
  cases found : tree.plain.target path .alreadyExists with
  | error e => exact .error e
  | ok target =>
    obtain ⟨inside, noLink⟩ := linkAt_target clear found
    simp only [bind, Except.bind, node?_eq noLink]
    cases tree.plain.entry? target.place with
    | none => exact .ok (holds.put inside noLink)
    | some entry => exact .error _

theorem writeFile_alike (holds : Holds origin tree tree.plain) (clear : tree.Clear path)
    (content : ByteArray) :
    Alike (Holds origin) (tree.writeFile path content) (tree.plain.writeFile path content) := by
  unfold writeFile Store.writeFile
  rw [opened_eq clear]
  cases found : tree.plain.target path .isAFolder with
  | error e => exact .error e
  | ok target =>
    obtain ⟨inside, noLink⟩ := linkAt_target clear found
    simp only [bind, Except.bind, pure, Except.pure]
    by_cases slash : target.trailingSlash
    · simp only [slash, if_true]
      exact .error _
    · simp only [slash]
      cases tree.plain.entry? target.place with
      | none => exact .ok (holds.put inside noLink)
      | some entry =>
        cases entry with
        | folder => exact .error _
        | file old => exact .ok (holds.put inside noLink)

theorem removeFile_alike (holds : Holds origin tree tree.plain) (clear : tree.Clear path) :
    Alike (Holds origin) (tree.removeFile path) (tree.plain.removeFile path) := by
  unfold removeFile Store.removeFile
  rw [target_eq clear]
  cases found : tree.plain.target path .isAFolder with
  | error e => exact .error e
  | ok target =>
    obtain ⟨inside, noLink⟩ := linkAt_target clear found
    simp only [bind, Except.bind, node?_eq noLink]
    cases tree.plain.entry? target.place with
    | none => exact .error _
    | some entry =>
      cases entry with
      | folder => exact .error _
      | file content =>
        by_cases slash : target.trailingSlash
        · simp only [slash, if_true, Option.map_some]
          exact .error _
        · simp only [slash, Option.map_some]
          exact .ok (holds.erase inside noLink)

theorem renameFile_alike (holds : Holds origin tree tree.plain) (clear : tree.Clear source)
    (clearTo : tree.Clear destination) :
    Alike (Holds origin) (tree.renameFile source destination)
      (tree.plain.renameFile source destination) := by
  unfold renameFile Store.renameFile
  rw [target_eq clear, target_eq clearTo]
  cases found : tree.plain.target source .busy with
  | error e => exact .error e
  | ok origin =>
    cases foundTo : tree.plain.target destination .busy with
    | error e => exact .error e
    | ok target =>
      obtain ⟨inside, noLink⟩ := linkAt_target clear found
      obtain ⟨insideTo, noLinkTo⟩ := linkAt_target clearTo foundTo
      simp only [bind, Except.bind, node?_eq noLink, isFolderAt_eq noLinkTo]
      cases tree.plain.entry? origin.place with
      | none => exact .error _
      | some entry =>
        cases entry with
        | folder => exact .error _
        | file content =>
          simp only [Option.map_some, decide_eq_true_eq]
          split_ifs
          · exact .error _
          · exact .error _
          · exact .ok holds
          -- the destination has no link after the source is gone either
          · refine .ok ((holds.erase inside noLink).put insideTo ?_)
            rw [(SameLinks.erase inside noLink).linkAt_eq, noLinkTo]

/-- On the paths that are clear in a tree, the tree and the store of what it holds besides links are
alike. -/
theorem simulation (origin : LinkedStore) : Simulation origin.Clear (Holds origin) := by
  constructor
  case readFile =>
    rintro path tree _ cleared ⟨links, rfl⟩
    exact readFile_eq (cleared.of_sameLinks links)
  case isFolder =>
    rintro path tree _ cleared ⟨links, rfl⟩
    exact isFolder_eq (cleared.of_sameLinks links)
  case isPresent =>
    rintro path tree _ cleared ⟨links, rfl⟩
    exact isPresent_eq (cleared.of_sameLinks links)
  case makeFolder =>
    rintro path tree _ cleared ⟨links, rfl⟩
    exact makeFolder_alike ⟨links, rfl⟩ (cleared.of_sameLinks links)
  case writeFile =>
    rintro path tree _ cleared ⟨links, rfl⟩ content
    exact writeFile_alike ⟨links, rfl⟩ (cleared.of_sameLinks links) content
  case renameFile =>
    rintro source destination tree _ cleared clearedTo ⟨links, rfl⟩
    exact renameFile_alike ⟨links, rfl⟩ (cleared.of_sameLinks links) (clearedTo.of_sameLinks links)
  case removeFile =>
    rintro path tree _ cleared ⟨links, rfl⟩
    exact removeFile_alike ⟨links, rfl⟩ (cleared.of_sameLinks links)

/-- In a tree without links every script comes to what it comes to in the store. -/
theorem run_alike {α : Type} (linkless : ∀ place, tree.linkAt place = false) (script : Script α)
    (reply : Reply) :
    Outcome.Alike (Holds tree) (script.run reply tree) (script.run reply tree.plain) :=
  (simulation tree).run (.of_all (fun _ place _ => linkless place) script) (.of_tree tree) reply

end RpcStubs.LinkedStore
