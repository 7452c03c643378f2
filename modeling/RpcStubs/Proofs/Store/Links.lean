import RpcStubs.Proofs.Store.Changes
import RpcStubs.Store.Linked

/-! # Where no links are

A tree with links is a store once its links are left out (`LinkedStore.plain`).  The two are told apart
only by whoever comes across a link.  A path is clear if no link lies on its way, from the root to what it
names (`LinkedStore.Clear`), and whoever follows a clear path finds in the tree what there is in the store.
-/

namespace RpcStubs

/-- The places that pieces of a path lead through from a place, with the one they lead to. -/
def placesFrom (here : Place) : List String → List Place
  | [] => [here]
  | piece :: rest => here :: placesFrom (follow here piece) rest

theorem mem_placesFrom_start (here : Place) (pieces : List String) : here ∈ placesFrom here pieces := by
  cases pieces with
  | nil => exact List.mem_singleton.2 rfl
  | cons piece rest => exact List.mem_cons_self

theorem mem_placesFrom_end (here : Place) (pieces : List String) :
    pieces.foldl follow here ∈ placesFrom here pieces := by
  induction pieces generalizing here with
  | nil => exact List.mem_singleton.2 rfl
  | cons piece rest inductionHypothesis => exact List.mem_cons_of_mem _ (inductionHypothesis _)

theorem placesFrom_subset_append (here : Place) (first rest : List String) :
    placesFrom here first ⊆ placesFrom here (first ++ rest) := by
  induction first generalizing here with
  | nil => exact List.cons_subset.2 ⟨mem_placesFrom_start here _, List.nil_subset _⟩
  | cons piece more inductionHypothesis =>
    exact List.cons_subset_cons here (inductionHypothesis (follow here piece))

namespace Path

/-- The places on the way of a path, with the one that it names. -/
def way (path : Path) : List Place :=
  placesFrom [] path.pieces

theorem place_mem_way (path : Path) : path.place ∈ path.way :=
  mem_placesFrom_end [] path.pieces

theorem way_subset_of_prefix {path folder : Path} (beginning : folder.pieces <+: path.pieces) :
    folder.way ⊆ path.way := by
  obtain ⟨rest, split⟩ := beginning
  rw [way, way, ← split]
  exact placesFrom_subset_append [] folder.pieces rest

theorem isPrefix_of_mem_foldersAfter {folder : Path} {before pieces : List String}
    (member : folder ∈ foldersAfter before pieces) : folder.pieces <+: before ++ pieces := by
  induction pieces generalizing before with
  | nil => cases member
  | cons piece rest inductionHypothesis =>
    have split : before ++ piece :: rest = before ++ [piece] ++ rest := by simp
    rw [split]
    rw [foldersAfter] at member
    split_ifs at member
    · rcases List.mem_cons.1 member with rfl | member
      · exact List.prefix_append _ _
      · exact inductionHypothesis member
    · exact inductionHypothesis member

/-- The folders above what a path names are beginnings of it. -/
theorem isPrefix_of_mem_above {path folder : Path} (member : folder ∈ path.above) :
    folder.pieces <+: path.pieces := by
  have member := List.dropLast_subset _ member
  unfold folders at member
  split at member
  next rest split =>
    rw [split]
    rcases List.mem_cons.1 member with rfl | member
    · exact List.prefix_append ["."] rest
    · exact isPrefix_of_mem_foldersAfter member
  next => exact isPrefix_of_mem_foldersAfter member

end Path

namespace LinkedStore

variable {tree old mid new : LinkedStore} {place here : Place} {entry : Entry} {node : Node}
  {path folder : Path}

/-! ## Single places -/

theorem node?_put (inside : place ≠ []) (other : Place) :
    (tree.put place node).node? other = if other = place then some node else tree.node? other := by
  by_cases root : other = []
  · subst root
    simp [node?, inside.symm]
  · simp [node?, root, put, Store.lookup_replaceEntry]

theorem node?_erase (inside : place ≠ []) (other : Place) :
    (tree.erase place).node? other = if other = place then none else tree.node? other := by
  by_cases root : other = []
  · subst root
    simp [node?, inside.symm]
  · simp only [node?, root, if_false, erase, Store.lookup_filter_ne]

/-- Whether there is a link at a place. -/
def linkAt (tree : LinkedStore) (place : Place) : Bool :=
  match tree.node? place with
  | some (.link _) => true
  | _ => false

theorem linkAt_iff : tree.linkAt place = true ↔ ∃ target, tree.node? place = some (.link target) := by
  unfold linkAt
  split
  next target there => simp [there]
  next none => simpa using none

theorem node?_ne_link (noLink : tree.linkAt place = false) (target : LinkTarget) :
    tree.node? place ≠ some (.link target) := by
  intro there
  rw [linkAt_iff.2 ⟨target, there⟩] at noLink
  cases noLink

/-- The tree has the links that another one has. -/
def SameLinks (old new : LinkedStore) : Prop :=
  ∀ place target, new.node? place = some (.link target) ↔ old.node? place = some (.link target)

namespace SameLinks

theorem refl (tree : LinkedStore) : SameLinks tree tree :=
  fun _ _ => Iff.rfl

theorem trans (first : SameLinks old mid) (second : SameLinks mid new) : SameLinks old new :=
  fun place target => (second place target).trans (first place target)

theorem symm (same : SameLinks old new) : SameLinks new old :=
  fun place target => (same place target).symm

theorem linkAt_eq (same : SameLinks old new) (place : Place) : new.linkAt place = old.linkAt place := by
  rw [Bool.eq_iff_iff, linkAt_iff, linkAt_iff]
  exact exists_congr fun target => same place target

/-- An entry comes to where no link is. -/
theorem put (inside : place ≠ []) (noLink : tree.linkAt place = false) :
    SameLinks tree (tree.put place (.entry entry)) := by
  intro other target
  rw [node?_put inside]
  split_ifs with here
  · subst here
    simp [node?_ne_link noLink target]
  · exact Iff.rfl

theorem erase (inside : place ≠ []) (noLink : tree.linkAt place = false) :
    SameLinks tree (tree.erase place) := by
  intro other target
  rw [node?_erase inside]
  split_ifs with here
  · subst here
    simp [node?_ne_link noLink target]
  · exact Iff.rfl

end SameLinks

/-! ## The store without the links -/

/-- A place with what is there, unless that is a link. -/
def unlinked : Place × Node → Option (Place × Entry)
  | (place, .entry entry) => some (place, entry)
  | (_, .link _) => none

/-- What a tree holds besides links. -/
def plain (tree : LinkedStore) : Store :=
  ⟨tree.nodes.filterMap unlinked⟩

section

variable {target : LinkTarget} {rest : List (Place × Node)}

@[simp]
theorem filterMap_unlinked_entry : ((place, Node.entry entry) :: rest).filterMap unlinked =
    (place, entry) :: rest.filterMap unlinked :=
  rfl

@[simp]
theorem filterMap_unlinked_link :
    ((place, Node.link target) :: rest).filterMap unlinked = rest.filterMap unlinked :=
  rfl

end

theorem lookup_filterMap_unlinked {nodes : List (Place × Node)}
    (noLink : ∀ target, nodes.lookup place ≠ some (.link target)) :
    nodes.lookup place = ((nodes.filterMap unlinked).lookup place).map .entry := by
  induction nodes with
  | nil => rfl
  | cons first rest inductionHypothesis =>
    obtain ⟨place', node⟩ := first
    rw [Store.lookup_cons] at noLink ⊢
    split_ifs at noLink ⊢ with here
    · cases node with
      | entry entry => rw [filterMap_unlinked_entry, Store.lookup_cons, if_pos here, Option.map_some]
      | link target => exact absurd rfl (noLink target)
    · rw [inductionHypothesis noLink]
      cases node with
      | entry entry => rw [filterMap_unlinked_entry, Store.lookup_cons, if_neg here]
      | link target => rw [filterMap_unlinked_link]

/-- Where no link is, the tree holds what the store does. -/
theorem node?_eq (noLink : tree.linkAt place = false) :
    tree.node? place = (tree.plain.entry? place).map .entry := by
  unfold node? Store.entry?
  split_ifs with root
  · rfl
  · apply lookup_filterMap_unlinked
    intro target there
    exact node?_ne_link noLink target (by rw [node?, if_neg root, there])

theorem node?_eq_entry_iff (noLink : tree.linkAt place = false) :
    tree.node? place = some (.entry entry) ↔ tree.plain.entry? place = some entry := by
  rw [node?_eq noLink]
  simp

theorem isFolderAt_eq (noLink : tree.linkAt place = false) :
    tree.isFolderAt place = decide (tree.plain.entry? place = some .folder) :=
  decide_eq_decide.2 (node?_eq_entry_iff noLink)

theorem filterMap_replaceEntry {nodes : List (Place × Node)}
    (noLink : ∀ target, nodes.lookup place ≠ some (.link target)) :
    (Store.replaceEntry place (.entry entry) nodes).filterMap unlinked =
      Store.replaceEntry place entry (nodes.filterMap unlinked) := by
  induction nodes with
  | nil => rfl
  | cons first rest inductionHypothesis =>
    obtain ⟨place', node⟩ := first
    rw [Store.lookup_cons] at noLink
    rw [Store.replaceEntry]
    by_cases here : place' = place
    · rw [if_pos here.symm] at noLink
      cases node with
      | entry other => simp [Store.replaceEntry, here]
      | link target => exact absurd rfl (noLink target)
    · rw [if_neg (Ne.symm here)] at noLink
      cases node with
      | entry other => simp [Store.replaceEntry, here, inductionHypothesis noLink]
      | link target => simp [here, inductionHypothesis noLink]

theorem plain_put (inside : place ≠ []) (noLink : tree.linkAt place = false) :
    (tree.put place (.entry entry)).plain = tree.plain.put place entry := by
  refine congrArg Store.mk (filterMap_replaceEntry fun target there => ?_)
  exact node?_ne_link noLink target (by rw [node?, if_neg inside, there])

theorem plain_erase (tree : LinkedStore) (place : Place) :
    (tree.erase place).plain = tree.plain.erase place := by
  refine congrArg Store.mk ?_
  rw [erase, List.filterMap_filter, plain, List.filter_filterMap]
  congr 1
  funext listed
  obtain ⟨place', node⟩ := listed
  cases node <;> by_cases erased : place' = place <;> simp [unlinked, Option.filter, erased]

/-- Trees with the same links that hold the same besides are the same everywhere. -/
theorem node?_eq_of_plain_eq (links : SameLinks old new) (same : new.plain = old.plain) (place : Place) :
    new.node? place = old.node? place := by
  cases link : old.linkAt place with
  | true =>
    obtain ⟨target, there⟩ := linkAt_iff.1 link
    rw [there, (links place target).2 there]
  | false => rw [node?_eq link, node?_eq ((links.linkAt_eq place).trans link), same]

/-! ## Clear paths -/

/-- No link lies on the way of a path, and what it names is none. -/
def Clear (tree : LinkedStore) (path : Path) : Prop :=
  ∀ place ∈ path.way, tree.linkAt place = false

instance (tree : LinkedStore) (path : Path) : Decidable (tree.Clear path) :=
  List.decidableBAll _ _

theorem Clear.of_sameLinks (clear : old.Clear path) (same : SameLinks old new) : new.Clear path :=
  fun place member => (same.linkAt_eq place).trans (clear place member)

theorem Clear.above (clear : tree.Clear path) (member : folder ∈ path.above) : tree.Clear folder :=
  fun place among => clear place (Path.way_subset_of_prefix (Path.isPrefix_of_mem_above member) among)

end LinkedStore

end RpcStubs
