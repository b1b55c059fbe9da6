import BuildingModel.Proofs.Document.Arena
import BuildingModel.Proofs.Document.Walk

/-!
# Walks as recursive searches

The recursive search (`NodeSource.search`) goes down from each instance before it goes on to the
next one, and threads one set of visited instances: it visits the instance, then each of its
children that has an entity and is not visited when its turn comes.

A walk has a stack in place of the recursion. Instances on top of its stack make it do what the
search does from them, before it turns to what is below:

* `walk_append`: the list walk lists the labels of the trees of the search in preorder;
* `grow_append`: the tree walk puts the trees of the search into its arena.

Some instances may be missing on the stack, as long as they were converted when the others were
put there.
-/

namespace BuildingModel.Document.NodeSource

variable {s : NodeSource} {visited : InstanceSet} {id : EntityId}

/-! ## The search -/

/-- How many instances are not visited. -/
def unvisited (s : NodeSource) (visited : InstanceSet) : Nat :=
  s.model.index.ids.countP (!visited.contains ·)

theorem unvisited_insert_lt (h : s.Fresh visited id) :
    s.unvisited (visited.insert id) < s.unvisited visited := by
  obtain ⟨e, he⟩ := Option.isSome_iff_exists.1 h.1
  exact InstanceSet.countP_insert_lt (EntityIndex.mem_ids_of_get? he) h.2

theorem fresh_of_node? {n : Node} (hn : s.node? id = some n) (hv : ¬ visited.contains id) :
    s.Fresh visited id := by
  obtain ⟨e, he, -⟩ := Option.map_eq_some_iff.1 hn
  exact ⟨Option.isSome_of_eq_some he, mt Std.TreeSet.contains_iff_mem.2 hv⟩

/-- The trees of the search from instances, with the instances visited after it, which are not
fewer than before. -/
def searchWithin (s : NodeSource) (visited : InstanceSet) : (ids : List EntityId) →
    { r : List (Tree Node) × InstanceSet // s.unvisited r.2 ≤ s.unvisited visited }
  | [] => ⟨([], visited), Nat.le_refl _⟩
  | id :: ids =>
    match hn : s.node? id with
    | none => s.searchWithin visited ids
    | some n =>
      if hv : visited.contains id then s.searchWithin visited ids
      else
        have hlt := unvisited_insert_lt (fresh_of_node? hn hv)
        match s.searchWithin (visited.insert id) (s.model.children id) with
        | ⟨(ts, below), hbelow⟩ =>
          match s.searchWithin below ids with
          | ⟨(us, beside), hbeside⟩ =>
            ⟨(.node n ts :: us, beside),
              Nat.le_trans hbeside (Nat.le_trans hbelow (Nat.le_of_lt hlt))⟩
termination_by ids => (s.unvisited visited, ids.length)
decreasing_by
  · exact Prod.Lex.right _ (by simp)
  · exact Prod.Lex.right _ (by simp)
  · exact Prod.Lex.left _ _ hlt
  · exact Prod.Lex.left _ _ (Nat.lt_of_le_of_lt hbelow hlt)

/-- The trees of the search from instances, with the instances visited after it. -/
def search (s : NodeSource) (visited : InstanceSet) (ids : List EntityId) :
    List (Tree Node) × InstanceSet :=
  (s.searchWithin visited ids).1

theorem search_nil : s.search visited [] = ([], visited) := by
  rw [search, searchWithin]

/-- The search goes down from an instance, then on. -/
theorem search_cons (ids : List EntityId) : s.search visited (id :: ids) =
    match s.node? id with
    | none => s.search visited ids
    | some n =>
      if visited.contains id then s.search visited ids
      else
        let below := s.search (visited.insert id) (s.model.children id)
        let beside := s.search below.2 ids
        (.node n below.1 :: beside.1, beside.2) := by
  rw [search, searchWithin]
  split
  next hn => rw [hn]; rfl
  next n hn =>
    simp only [hn]
    split
    · rfl
    · rfl

/-- What is not fresh is passed over. -/
theorem search_of_not_fresh (h : ¬ s.Fresh visited id) (ids : List EntityId) :
    s.search visited (id :: ids) = s.search visited ids := by
  rw [search_cons]
  split
  · rfl
  next n hn =>
    rw [if_pos (Classical.not_not.1 fun hv => h (fresh_of_node? hn hv))]

/-- What is fresh is visited. -/
theorem search_of_fresh (h : s.Fresh visited id) {n : Node} (hn : s.node? id = some n)
    (ids : List EntityId) : s.search visited (id :: ids) =
      (.node n (s.search (visited.insert id) (s.model.children id)).1
          :: (s.search (s.search (visited.insert id) (s.model.children id)).2 ids).1,
        (s.search (s.search (visited.insert id) (s.model.children id)).2 ids).2) := by
  rw [search_cons, hn]
  simp only
  rw [if_neg (mt Std.TreeSet.contains_iff_mem.1 h.2)]

/-- A search ends, or passes over an instance, or visits it and what is below, then the others. -/
theorem search_induction {motive : InstanceSet → List EntityId → Prop}
    (nil : ∀ v, motive v [])
    (skip : ∀ v id ids, ¬ s.Fresh v id → motive v ids → motive v (id :: ids))
    (visit : ∀ v id ids, s.Fresh v id → motive (v.insert id) (s.model.children id) →
      motive (s.search (v.insert id) (s.model.children id)).2 ids → motive v (id :: ids)) :
    ∀ visited ids, motive visited ids
  | v, [] => nil v
  | v, id :: ids => by
    by_cases h : s.Fresh v id
    · exact visit v id ids h (search_induction nil skip visit _ _)
        (search_induction nil skip visit _ _)
    · exact skip v id ids h (search_induction nil skip visit _ _)
termination_by v ids => (s.unvisited v, ids.length)
decreasing_by
  · exact Prod.Lex.left _ _ (unvisited_insert_lt h)
  · exact Prod.Lex.left _ _
      (Nat.lt_of_le_of_lt (s.searchWithin _ _).2 (unvisited_insert_lt h))
  · exact Prod.Lex.right _ (by simp)

/-- What is visited after a search was visited before or is in its trees. -/
theorem mem_search_iff (hs : s.model.Named) (visited : InstanceSet) (ids : List EntityId) :
    ∀ i, i ∈ (s.search visited ids).2 ↔
      i ∈ visited ∨ i ∈ (Tree.labelsOfAll (s.search visited ids).1).map Node.id := by
  induction visited, ids using search_induction (s := s) with
  | nil v =>
    intro i
    rw [search_nil]
    exact (or_iff_left List.not_mem_nil).symm
  | skip v id ids h ih => rwa [search_of_not_fresh h]
  | visit v id ids h below beside =>
    intro i
    obtain ⟨n, hn, hid, -⟩ := convert_of_fresh hs h
    rw [search_of_fresh h hn, beside i, below i, Std.TreeSet.mem_insert,
      Std.LawfulEqCmp.compare_eq_iff_eq, Tree.labelsOfAll, Tree.labels, List.cons_append,
      List.map_cons, List.map_append, List.mem_cons, List.mem_append, hid]
    tauto

/-- What was visited stays visited when a search goes down from one more instance. -/
theorem mem_search_insert (hs : s.model.Named) {i : EntityId} (h : i ∈ visited)
    (ids : List EntityId) : i ∈ (s.search (visited.insert id) ids).2 :=
  (mem_search_iff hs _ _ i).2 (.inl (Std.TreeSet.mem_insert.2 (.inr h)))

/-! ## Walks -/

/-- The instances that are not in a set. -/
def without (old : InstanceSet) (ids : List EntityId) : List EntityId :=
  ids.filter (!old.contains ·)

theorem without_empty (ids : List EntityId) : without {} ids = ids :=
  List.filter_eq_self.2 fun _ _ => by simp

theorem without_cons_of_mem {old : InstanceSet} (h : id ∈ old) (ids : List EntityId) :
    without old (id :: ids) = without old ids :=
  List.filter_cons_of_neg (by simpa using h)

theorem without_cons_of_not_mem {old : InstanceSet} (h : id ∉ old) (ids : List EntityId) :
    without old (id :: ids) = id :: without old ids :=
  List.filter_cons_of_pos (by rw [Bool.eq_false_iff.2 (mt Std.TreeSet.contains_iff_mem.1 h)]; rfl)

/-- Instances on top of the stack make the list walk do what the search does from them. Those
that were converted when the others were put there may be missing. -/
theorem walk_append (hs : s.model.Named) (converted : InstanceSet) (ids : List EntityId) :
    ∀ (old : InstanceSet), (∀ i ∈ old, i ∈ converted) → ∀ stack,
      s.walk converted (without old ids ++ stack) =
        Tree.labelsOfAll (s.search converted ids).1 ++ s.walk (s.search converted ids).2 stack := by
  induction converted, ids using search_induction (s := s) with
  | nil c =>
    intro old _ stack
    rw [search_nil]
    rfl
  | skip c id ids h ih =>
    intro old hold stack
    rw [search_of_not_fresh h, ← ih old hold]
    by_cases hid : id ∈ old
    · rw [without_cons_of_mem hid]
    · rw [without_cons_of_not_mem hid, List.cons_append, walk_of_not_fresh hs h]
  | visit c id ids h below beside =>
    intro old hold stack
    obtain ⟨n, hn, -, hwalk⟩ := walk_of_fresh hs h (without old ids ++ stack)
    have hold' : ∀ i ∈ old, i ∈ (s.search (c.insert id) (s.model.children id)).2 :=
      fun i hi => mem_search_insert hs (hold i hi) _
    rw [without_cons_of_not_mem fun hid => h.2 (hold id hid), List.cons_append, hwalk,
      search_of_fresh h hn]
    -- The children are put on the stack without those that are converted by now.
    rw [pending, ← without, below _ (fun _ hi => hi), beside old hold', Tree.labelsOfAll,
      Tree.labels, List.cons_append, List.cons_append, List.append_assoc]

theorem grow_nil (converted : InstanceSet) (arena : Arena Node) :
    s.grow converted arena [] = arena := by
  rw [grow]

theorem grow_of_not_fresh (hs : s.model.Named) {converted : InstanceSet}
    (h : ¬ s.Fresh converted id) (arena : Arena Node) (parent : Option Nat)
    (stack : List (EntityId × Option Nat)) :
    s.grow converted arena ((id, parent) :: stack) = s.grow converted arena stack := by
  rw [grow]
  split
  next hc => rw [convert_of_not_fresh hs h] at hc; cases hc; rfl
  next hc => rw [convert_of_not_fresh hs h] at hc; cases hc

theorem grow_of_fresh (hs : s.model.Named) {converted : InstanceSet} (h : s.Fresh converted id)
    {n : Node} (hn : s.node? id = some n) (arena : Arena Node) (parent : Option Nat)
    (stack : List (EntityId × Option Nat)) :
    s.grow converted arena ((id, parent) :: stack) =
      s.grow (converted.insert id) (arena.hang parent n)
        ((s.pending (converted.insert id) id).map (fun i => (i, some arena.size)) ++ stack) := by
  obtain ⟨m, hm, -, hconvert⟩ := convert_of_fresh hs h
  obtain rfl : n = m := Option.some.inj (hn.symm.trans hm)
  rw [grow]
  split
  next hc => rw [hconvert] at hc; cases hc
  next hc => rw [hconvert] at hc; cases hc; rfl

/-- Instances on top of the stack make the tree walk put the trees of the search from them into
its arena. -/
theorem grow_append (hs : s.model.Named) (converted : InstanceSet) (ids : List EntityId) :
    ∀ (old : InstanceSet), (∀ i ∈ old, i ∈ converted) → ∀ arena parent stack,
      s.grow converted arena ((without old ids).map (fun i => (i, parent)) ++ stack) =
        s.grow (s.search converted ids).2 (arena.hangTrees parent (s.search converted ids).1)
          stack := by
  induction converted, ids using search_induction (s := s) with
  | nil c =>
    intro old _ arena parent stack
    rw [search_nil, Arena.hangTrees]
    rfl
  | skip c id ids h ih =>
    intro old hold arena parent stack
    rw [search_of_not_fresh h, ← ih old hold]
    by_cases hid : id ∈ old
    · rw [without_cons_of_mem hid]
    · -- It has no entity, or was converted after it was put on the stack.
      rw [without_cons_of_not_mem hid, List.map_cons, List.cons_append, grow_of_not_fresh hs h]
  | visit c id ids h below beside =>
    intro old hold arena parent stack
    obtain ⟨n, hn, -, -⟩ := convert_of_fresh hs h
    have hold' : ∀ i ∈ old, i ∈ (s.search (c.insert id) (s.model.children id)).2 :=
      fun i hi => mem_search_insert hs (hold i hi) _
    rw [without_cons_of_not_mem fun hid => h.2 (hold id hid), List.map_cons, List.cons_append,
      grow_of_fresh hs h hn, search_of_fresh h hn]
    -- The children hang under the slot that the node of the instance is about to get.
    rw [pending, ← without, below _ (fun _ hi => hi), beside old hold', Arena.hangTrees,
      Arena.hangTree]

/-! ## Lists and trees -/

/-- A list has the labels of the trees of the search. -/
theorem list_eq_labels (hs : s.model.Named) (roots : List EntityId) :
    s.list roots = Tree.labelsOfAll (s.search {} roots).1 := by
  have h := walk_append hs {} roots {} (fun _ hi => hi) []
  rwa [without_empty, List.append_nil, walk_nil, List.append_nil] at h

/-- The arena of a tree holds the trees of the search. -/
theorem grow_eq_hangTrees (hs : s.model.Named) (root : EntityId) :
    s.grow {} #[] [(root, none)] = Arena.hangTrees #[] none (s.search {} [root]).1 := by
  have h := grow_append hs {} [root] {} (fun _ hi => hi) #[] none []
  rwa [without_empty, List.append_nil, grow_nil] at h

/-- From one instance there is a tree, unless it has no entity. -/
theorem search_root (root : EntityId) :
    (¬ s.model.Resolves root ∧ (s.search {} [root]).1 = []) ∨
      ∃ t, s.model.Resolves root ∧ (s.search {} [root]).1 = [t] ∧ s.node? root = some t.label := by
  by_cases h : s.Fresh {} root
  · obtain ⟨e, he⟩ := Option.isSome_iff_exists.1 h.1
    have hn : s.node? root = some (s.node e) := by rw [node?, he]; rfl
    have hsearch := search_of_fresh h hn []
    rw [search_nil] at hsearch
    exact .inr ⟨_, h.1, congrArg Prod.fst hsearch, hn⟩
  · refine .inl ⟨fun hr => h (fresh_empty ▸ hr), ?_⟩
    rw [search_of_not_fresh h, search_nil]

/-- A tree is the first one that the search finds. -/
theorem tree?_eq_head? (hs : s.model.Named) (root : EntityId) :
    s.tree? root = (s.search {} [root]).1.head? := by
  rw [tree?, grow_eq_hangTrees hs]
  rcases search_root root with ⟨-, h⟩ | ⟨t, -, h, -⟩
  · rw [h]
    exact Arena.tree?_empty
  · rw [h, Arena.hangTrees, Arena.hangTrees]
    exact Arena.tree?_hangTree t

/-- The search from one instance finds what the tree holds. -/
theorem search_eq_toList (hs : s.model.Named) (root : EntityId) :
    (s.search {} [root]).1 = (s.tree? root).toList := by
  rw [tree?_eq_head? hs]
  rcases search_root root with ⟨-, h⟩ | ⟨t, -, h, -⟩
  · rw [h]
    rfl
  · rw [h]
    rfl

/-- A tree has its root at the top. -/
theorem map_label_tree? (hs : s.model.Named) (root : EntityId) :
    (s.tree? root).map Tree.label = s.node? root := by
  rw [tree?_eq_head? hs]
  rcases search_root (s := s) root with ⟨hr, h⟩ | ⟨t, -, h, hn⟩
  · rw [h, node?, Option.not_isSome_iff_eq_none.1 hr]
    rfl
  · rw [h, hn]
    rfl

/-- Which instances a tree has does not depend on what their nodes are made from. -/
theorem map_id_tree?_congr {t : NodeSource} (hs : s.model.Named) (h : t.model = s.model)
    (root : EntityId) :
    (Tree.labelsOfAll (t.tree? root).toList).map Node.id =
      (Tree.labelsOfAll (s.tree? root).toList).map Node.id := by
  have ht : t.model.Named := h ▸ hs
  rw [← search_eq_toList hs, ← search_eq_toList ht, ← list_eq_labels hs, ← list_eq_labels ht]
  exact map_id_walk_congr hs h {} [root]

/-- A list starts with the tree of its first root. -/
theorem list_cons (hs : s.model.Named) (root : EntityId) (others : List EntityId) :
    s.list (root :: others) = Tree.labelsOfAll (s.tree? root).toList ++
      s.walk (s.search {} [root]).2 others := by
  have h := walk_append hs {} [root] {} (fun _ hi => hi) others
  rwa [without_empty, search_eq_toList hs] at h

/-- The nodes that a search finds are those of their instances. -/
theorem node?_of_mem_search (hs : s.model.Named) (visited : InstanceSet) (ids : List EntityId) :
    ∀ n ∈ Tree.labelsOfAll (s.search visited ids).1, s.node? n.id = some n := by
  induction visited, ids using search_induction (s := s) with
  | nil v =>
    rw [search_nil]
    exact fun n hn => absurd hn List.not_mem_nil
  | skip v id ids h ih => rwa [search_of_not_fresh h]
  | visit v id ids h below beside =>
    obtain ⟨m, hm, hid, -⟩ := convert_of_fresh hs h
    rw [search_of_fresh h hm, Tree.labelsOfAll, Tree.labels]
    intro n hn
    rcases List.mem_append.1 hn with hn | hn
    · rcases List.mem_cons.1 hn with rfl | hn
      · rwa [hid]
      · exact below n hn
    · exact beside n hn

theorem node?_of_mem_list (hs : s.model.Named) {roots : List EntityId} {n : Node}
    (hn : n ∈ s.list roots) : s.node? n.id = some n :=
  node?_of_mem_search hs {} roots n (list_eq_labels hs roots ▸ hn)

theorem node?_of_mem_tree? (hs : s.model.Named) {root : EntityId} {n : Node}
    (hn : n ∈ Tree.labelsOfAll (s.tree? root).toList) : s.node? n.id = some n :=
  node?_of_mem_search hs {} [root] n (search_eq_toList hs root ▸ hn)

/-- A tree is what the recursive search from its root finds, and there is none exactly if the root
has no entity. Its labels in preorder are those of the arena it is assembled from, they are all
that the search visits, and as instances they are the list from the same root. -/
theorem tree?_eq_search {content : String} {withProperties : Bool} (s t : NodeSource)
    (h : Model.load content withProperties = .ok s.model) (ht : t.model = s.model)
    (root : EntityId) :
    t.tree? root = (t.search {} [root]).1.head? ∧
      (t.tree? root = none ↔ s.model.get? root = none) ∧
      Tree.labelsOfAll (t.tree? root).toList =
        (t.grow {} #[] [(root, none)]).toList.map Arena.Slot.label ∧
      (∀ id, id ∈ (t.search {} [root]).2 ↔
        id ∈ (Tree.labelsOfAll (t.tree? root).toList).map Node.id) ∧
      (Tree.labelsOfAll (t.tree? root).toList).map Node.id = (s.list [root]).map Node.id := by
  have hs := Model.named_of_load h
  have hnamed : t.model.Named := ht ▸ hs
  have htree := search_eq_toList hnamed root
  refine ⟨tree?_eq_head? hnamed root, ?_, ?_, fun id => ?_, ?_⟩
  · rw [tree?_eq_head? hnamed, ← ht]
    rcases search_root (s := t) root with ⟨hr, h⟩ | ⟨u, hr, h, -⟩
    · rw [h]
      simpa [Model.Resolves] using hr
    · rw [h]
      simpa [Model.Resolves, Option.isSome_iff_ne_none] using hr
  · rw [grow_eq_hangTrees hnamed, Arena.map_label_hangTrees, htree]
  · rw [mem_search_iff hnamed, htree]
    exact or_iff_right Std.TreeSet.not_mem_emptyc
  · rw [map_id_tree?_congr hs ht, ← search_eq_toList hs, ← list_eq_labels hs]

/-- A missing root has no tree, whatever its nodes would be made from. -/
theorem tree?_elementStorey :
    ∃ s t : NodeSource, Model.load (Step.file [Model.elementStorey]) = .ok s.model ∧
      t.model = s.model ∧ t.tree? 7 = none ∧ (t.tree? 1).isSome := by
  obtain ⟨m, hm, -, hresolves⟩ := Model.exists_load_singleton Model.elementStorey
  have hget (id : EntityId) : m.get? id = none ↔ id ≠ 1 := by
    rw [← Option.not_isSome_iff_eq_none]
    exact not_congr (hresolves id)
  have h := tree?_eq_search { model := m } { model := m, withProperties := false } hm rfl
  refine ⟨_, _, hm, rfl, (h 7).2.1.2 ((hget 7).2 (by decide)), ?_⟩
  rw [← Option.ne_none_iff_isSome, Ne, (h 1).2.1, hget]
  exact fun hne => hne rfl

end BuildingModel.Document.NodeSource
