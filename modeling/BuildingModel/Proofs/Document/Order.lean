import BuildingModel.Proofs.Document.Search

/-!
# Searches in ascending order

A search goes down from an instance before it goes on, so what it finds is in ascending order only
if everything smaller was found by then. A list of instances is *timely* (`Timely`) if whatever
precedes one of its members can be reached from the members before it. A search finds its
instances in ascending order exactly if its roots are timely and so are the children of each
instance that is found, among the instances that follow it (`pairwise_found_iff`).
-/

namespace BuildingModel.Document

/-! ## Ways to an instance -/

section

variable {children : EntityId → List EntityId} {allowed : EntityId → Prop}

theorem not_reachable_nil {id : EntityId} : ¬ Reachable children allowed [] id := fun h => by
  induction h with
  | root hr _ => cases hr
  | child _ _ _ ih => exact ih

/-- The first of the roots on the way to an instance is allowed. -/
theorem Reachable.allowed_root {root id : EntityId} (h : Reachable children allowed [root] id) :
    allowed root := by
  induction h with
  | root hr ha => exact List.mem_singleton.1 hr ▸ ha
  | child _ _ _ ih => exact ih

/-- The way to an instance does not leave a region that has the roots and, of what it has, the
children. -/
theorem Reachable.restrict {roots : List EntityId} {id : EntityId}
    (h : Reachable children allowed roots id) (region : EntityId → Prop)
    (hroot : ∀ i ∈ roots, allowed i → region i)
    (hchild : ∀ p, region p → ∀ i ∈ children p, allowed i → region i) :
    Reachable children (fun i => allowed i ∧ region i) roots id := by
  induction h with
  | root hr ha => exact .root hr ⟨ha, hroot _ hr ha⟩
  | child _ hc ha ih => exact .child ih hc ⟨ha, hchild _ ih.allowed_end.2 _ hc ha⟩

/-- What is reachable from some roots and others is reachable from the former, or else from the
latter without passing what is reachable from the former. -/
theorem Reachable.of_append {front back : List EntityId} {id : EntityId}
    (h : Reachable children allowed (front ++ back) id) :
    Reachable children allowed front id ∨
      Reachable children (fun i => allowed i ∧ ¬ Reachable children allowed front i) back id := by
  induction h with
  | @root i hr ha =>
    by_cases hfront : Reachable children allowed front i
    · exact .inl hfront
    · have hback := (List.mem_append.1 hr).resolve_left fun hi => hfront (.root hi ha)
      exact .inr (.root hback ⟨ha, hfront⟩)
  | @child p i _ hc ha ih =>
    by_cases hfront : Reachable children allowed front i
    · exact .inl hfront
    · exact .inr (.child (ih.resolve_left fun hp => hfront (.child hp hc ha)) hc ⟨ha, hfront⟩)

variable (children allowed) in
/-- Whatever precedes an allowed member of a list, in the order of names, can be reached from the
members before it. -/
def Timely (ids : List EntityId) : Prop :=
  ∀ front id back, ids = front ++ id :: back → allowed id →
    ∀ i, allowed i → i < id → Reachable children allowed front i

/-- The first member of a timely list precedes everything, and whatever precedes a later one is
reachable from the first member and those between them. -/
theorem timely_cons_iff {root : EntityId} {ids : List EntityId} :
    Timely children allowed (root :: ids) ↔
      (allowed root → ∀ i, allowed i → ¬ i < root) ∧
        ∀ front id back, ids = front ++ id :: back → allowed id →
          ∀ i, allowed i → i < id → Reachable children allowed (root :: front) i := by
  constructor
  · intro h
    exact ⟨fun hroot i hi hlt => not_reachable_nil (h [] root ids rfl hroot i hi hlt),
      fun front id back hsplit => h (root :: front) id back (congrArg _ hsplit)⟩
  · rintro ⟨hfirst, hlater⟩ front id back hsplit hid i hi hlt
    rcases List.cons_eq_append_iff.1 hsplit with ⟨-, hcons⟩ | ⟨front, rfl, hsplit'⟩
    · obtain ⟨rfl, -⟩ := List.cons.inj hcons
      exact absurd hlt (hfirst hid i hi)
    · exact hlater front id back hsplit' hid i hi hlt

/-- A timely list stays so among more instances, if none of them is a member or precedes one. -/
theorem Timely.extend {more : EntityId → Prop} {ids : List EntityId}
    (h : Timely children allowed ids) (hmore : ∀ i, allowed i → more i)
    (hids : ∀ id ∈ ids, more id → allowed id)
    (hprecedes : ∀ id, allowed id → ∀ i, more i → i < id → allowed i) :
    Timely children more ids := by
  intro front id back hsplit hid i hi hlt
  have hallowed := hids id (by simp [hsplit]) hid
  exact (h front id back hsplit hallowed i (hprecedes id hallowed i hi hlt) hlt).mono
    (fun _ hr _ => hr) hmore

/-- A list in ascending order is timely exactly if everything can be reached from a member that
does not follow it, provided that everything can be reached from the list. -/
theorem timely_iff_of_pairwise {ids : List EntityId} (hids : ids.Pairwise (· < ·))
    (hall : ∀ i, allowed i → Reachable children allowed ids i) :
    Timely children allowed ids ↔
      ∀ i, allowed i → ∃ r ∈ ids, r ≤ i ∧ Reachable children allowed [r] i := by
  classical
  constructor
  · intro h i hi
    -- The first member that leads to the instance does not follow it: none before it leads there.
    obtain ⟨r, hr⟩ : ∃ r, ids.find? (fun r => Reachable children allowed [r] i) = some r := by
      obtain ⟨r, hr, hreach⟩ := reachable_iff_exists_root.1 (hall i hi)
      exact Option.isSome_iff_exists.1 (List.find?_isSome.2 ⟨r, hr, decide_eq_true hreach⟩)
    obtain ⟨hreach, front, back, hsplit, hfront⟩ := List.find?_eq_some_iff_append.1 hr
    have hreach := of_decide_eq_true hreach
    refine ⟨r, List.mem_of_find?_eq_some hr, UInt32.not_lt.1 fun hlt => ?_, hreach⟩
    obtain ⟨q, hq, hlead⟩ :=
      reachable_iff_exists_root.1 (h front r back hsplit hreach.allowed_root i hi hlt)
    exact absurd hlead (by simpa using hfront q hq)
  · intro h front id back hsplit hid i hi hlt
    obtain ⟨r, hr, hle, hreach⟩ := h i hi
    rw [hsplit, List.pairwise_append, List.pairwise_cons] at hids
    rw [hsplit, List.mem_append, List.mem_cons] at hr
    refine reachable_iff_exists_root.2 ⟨r, ?_, hreach⟩
    rcases hr with hr | rfl | hr
    · exact hr
    · exact absurd (UInt32.lt_of_le_of_lt hle hlt) (UInt32.lt_irrefl _)
    · exact absurd (hids.2.1.1 r hr) (UInt32.lt_asymm (UInt32.lt_of_le_of_lt hle hlt))

end

namespace NodeSource

variable {s : NodeSource} {visited : InstanceSet} {id : EntityId} {ids : List EntityId}

/-! ## What a search finds -/

theorem mem_insert_iff {i : EntityId} : i ∈ visited.insert id ↔ id = i ∨ i ∈ visited := by
  rw [Std.TreeSet.mem_insert, Std.LawfulEqCmp.compare_eq_iff_eq]

/-- The instances that a search finds, in its order. -/
def found (s : NodeSource) (visited : InstanceSet) (ids : List EntityId) : List EntityId :=
  (Tree.labelsOfAll (s.search visited ids).1).map Node.id

/-- A walk lists what a search finds. -/
theorem walk_eq_labels (hs : s.model.Named) (visited : InstanceSet) (ids : List EntityId) :
    s.walk visited ids = Tree.labelsOfAll (s.search visited ids).1 := by
  have h := walk_append hs visited ids {} (fun _ hi => absurd hi Std.TreeSet.not_mem_emptyc) []
  rwa [without_empty, List.append_nil, walk_nil, List.append_nil] at h

/-- A search finds what is reachable through fresh instances. -/
theorem mem_found_iff (hs : s.model.Named) {i : EntityId} :
    i ∈ s.found visited ids ↔ Reachable s.model.children (s.Fresh visited) ids i := by
  rw [found, ← walk_eq_labels hs, mem_walk_iff hs]

theorem found_nil : s.found visited [] = [] := by
  rw [found, search_nil]
  rfl

theorem found_of_not_fresh (h : ¬ s.Fresh visited id) :
    s.found visited (id :: ids) = s.found visited ids := by
  rw [found, search_of_not_fresh h, found]

/-- From what is fresh, a search finds it, what is below it, and what is found after that. -/
theorem found_of_fresh (hs : s.model.Named) (h : s.Fresh visited id) :
    s.found visited (id :: ids) = id :: (s.found (visited.insert id) (s.model.children id) ++
      s.found (s.search (visited.insert id) (s.model.children id)).2 ids) := by
  obtain ⟨n, hn, hid, -⟩ := convert_of_fresh hs h
  rw [found, search_of_fresh h hn, Tree.labelsOfAll, Tree.labels, List.cons_append, List.map_cons,
    List.map_append, hid]
  rfl

/-- Where a search stays: what it finds from its roots is among some instances, all of which have an
entity. -/
structure StaysIn (s : NodeSource) (region : EntityId → Prop) (visited : InstanceSet)
    (ids : List EntityId) : Prop where
  /-- The instances have an entity. -/
  resolves : ∀ i, region i → s.model.Resolves i
  /-- Fresh roots are among them. -/
  root : ∀ i ∈ ids, s.Fresh visited i → region i
  /-- Fresh children are among them. -/
  child : ∀ p, region p → ∀ i ∈ s.model.children p, s.Fresh visited i → region i

namespace StaysIn

variable {region : EntityId → Prop}

theorem mono (h : s.StaysIn region visited ids) {later : InstanceSet}
    (hlater : ∀ i ∈ visited, i ∈ later) {others : List EntityId}
    (hothers : ∀ i ∈ others, s.Fresh later i → region i) : s.StaysIn region later others where
  resolves := h.resolves
  root := hothers
  child p hp i hi hf := h.child p hp i hi ⟨hf.1, fun hv => hf.2 (hlater i hv)⟩

/-- What the search finds can be reached there. -/
theorem mem_found_iff (hs : s.model.Named) (h : s.StaysIn region visited ids) {i : EntityId} :
    i ∈ s.found visited ids ↔
      Reachable s.model.children (fun j => region j ∧ j ∉ visited) ids i := by
  rw [NodeSource.mem_found_iff hs]
  constructor
  · intro hi
    exact (hi.restrict _ h.root h.child).mono (fun _ hj _ => hj) fun _ hj => ⟨hj.2, hj.1.2⟩
  · exact .mono (fun _ hj _ => hj) fun j hj => ⟨h.resolves j hj.1, hj.2⟩

theorem of_mem_found (hs : s.model.Named) (h : s.StaysIn region visited ids) {i : EntityId}
    (hi : i ∈ s.found visited ids) : region i ∧ i ∉ visited :=
  ((h.mem_found_iff hs).1 hi).allowed_end

variable (h : s.StaysIn region visited (id :: ids))
include h

/-- The search stays there when it skips its first root. -/
theorem skip : s.StaysIn region visited ids :=
  h.mono (fun _ hi => hi) fun i hi => h.root i (List.mem_cons_of_mem _ hi)

/-- The search stays there below its first root. -/
theorem below (hid : region id) : s.StaysIn region (visited.insert id) (s.model.children id) := by
  have hinsert (i : EntityId) (hi : i ∈ visited) : i ∈ visited.insert id :=
    mem_insert_iff.2 (.inr hi)
  exact h.mono hinsert fun i hi hf =>
    h.child id hid i hi ⟨hf.1, fun hv => hf.2 (hinsert i hv)⟩

/-- The search stays there beside its first root. -/
theorem beside (hs : s.model.Named) :
    s.StaysIn region (s.search (visited.insert id) (s.model.children id)).2 ids :=
  h.skip.mono (fun _ hi => mem_search_insert hs hi _) fun i hi hf =>
    h.skip.root i hi ⟨hf.1, fun hv => hf.2 (mem_search_insert hs hv _)⟩

/-- What is visited below the first root is what can be reached from it. -/
theorem mem_search_children_iff (hs : s.model.Named) (hid : s.Fresh visited id) {i : EntityId}
    (hi : i ∉ visited) : i ∈ (s.search (visited.insert id) (s.model.children id)).2 ↔
      Reachable s.model.children (fun j => region j ∧ j ∉ visited) [id] i := by
  have hregion : region id := h.root id List.mem_cons_self hid
  have hallowed : (fun j => region j ∧ j ∉ visited.insert id) =
      fun j => (region j ∧ j ∉ visited) ∧ j ≠ id := by
    funext j
    rw [mem_insert_iff, not_or, and_comm (a := ¬id = j), and_assoc, ne_comm]
  rw [mem_search_iff hs, mem_insert_iff, ← found, (h.below hregion).mem_found_iff hs, hallowed,
    reachable_cons_iff ⟨hregion, hid.2⟩, List.append_nil, or_iff_left hi, eq_comm]

/-- Beside the first root the others stay timely: what is left there cannot be reached from the
first root, so it is reached without it. -/
theorem timely_beside (hs : s.model.Named) (hid : s.Fresh visited id)
    (hroots : Timely s.model.children (fun i => region i ∧ i ∉ visited) (id :: ids)) :
    Timely s.model.children
      (fun i => region i ∧ i ∉ (s.search (visited.insert id) (s.model.children id)).2) ids := by
  have hold {j : EntityId}
      (hj : j ∉ (s.search (visited.insert id) (s.model.children id)).2) : j ∉ visited :=
    fun hv => hj (mem_search_insert hs hv _)
  intro front r back hsplit hr i hi hlt
  have hreach : Reachable s.model.children (fun i => region i ∧ i ∉ visited) ([id] ++ front) i :=
    (timely_cons_iff.1 hroots).2 front r back hsplit ⟨hr.1, hold hr.2⟩ i ⟨hi.1, hold hi.2⟩ hlt
  rcases hreach.of_append with hreach | hreach
  · exact absurd ((h.mem_search_children_iff hs hid (hold hi.2)).2 hreach) hi.2
  · exact hreach.mono (fun _ hj _ => hj) fun j hj =>
      ⟨hj.1.1, fun hv => hj.2 ((h.mem_search_children_iff hs hid hj.1.2).1 hv)⟩

end StaysIn

/-- A search stays in what it finds. -/
theorem staysIn_found (hs : s.model.Named) : s.StaysIn (· ∈ s.found visited ids) visited ids where
  resolves _ hi := ((mem_found_iff hs).1 hi).allowed_end.1
  root _ hi hf := (mem_found_iff hs).2 (.root hi hf)
  child _ hp _ hi hf := (mem_found_iff hs).2 (.child ((mem_found_iff hs).1 hp) hi hf)

/-- What a search finds can be reached through what it finds. -/
theorem reachable_of_mem_found (hs : s.model.Named) {i : EntityId} (h : i ∈ s.found visited ids) :
    Reachable s.model.children (· ∈ s.found visited ids) ids i :=
  (((staysIn_found hs).mem_found_iff hs).1 h).mono (fun _ hj _ => hj) fun _ hj => hj.1

/-! ## From the order to the links -/

section

variable {children : EntityId → List EntityId} {r : EntityId} {ids bs cs : List EntityId}
  (hordered : (r :: (bs ++ cs)).Pairwise (· < ·))
include hordered

/-- Roots are timely among the first of them, what is reached below it, and what is beside it, if
the other roots are timely there. -/
theorem timely_cons_of_pairwise (hbelow : ∀ i ∈ bs, Reachable children (· ∈ bs) (children r) i)
    (hbeside : Timely children (· ∈ cs) ids) :
    Timely children (· ∈ r :: (bs ++ cs)) (r :: ids) := by
  obtain ⟨hfirst, hordered⟩ := List.pairwise_cons.1 hordered
  obtain ⟨-, -, hacross⟩ := List.pairwise_append.1 hordered
  simp only [List.mem_cons, List.mem_append] at hfirst ⊢
  refine timely_cons_iff.2 ⟨fun _ i hi => ?_, fun front id back hsplit hid i hi hlt => ?_⟩
  · grind
  · rcases hi with rfl | hi | hi
    · exact .root List.mem_cons_self (.inl rfl)
    · refine (reachable_cons_iff (.inl rfl)).2 (.inr ((hbelow i hi).mono
        (fun _ hj _ => List.mem_append_left _ hj) fun j hj => ⟨.inr (.inl hj), ?_⟩))
      exact (UInt32.ne_of_lt (hfirst j (.inl hj))).symm
    · -- What is beside the first root precedes nothing but what is there, too.
      have hid : id ∈ cs := by grind
      exact (hbeside front id back hsplit hid i hi hlt).mono
        (fun _ hj _ => List.mem_cons_of_mem _ hj) fun _ hj => .inr (.inr hj)

/-- Children are timely among a root, what is below it, and what is beside it, if they are below it
and beside it, and if the children of the root and of what is below it are not beside it. -/
theorem timely_children_of_pairwise
    (hchild : ∀ p, p = r ∨ p ∈ bs → ∀ i ∈ children p, i ∈ r :: (bs ++ cs) → p < i → i ∈ bs)
    (hroot : Timely children (· ∈ bs) (children r))
    (hbelow : ∀ p ∈ bs, Timely children (fun i => i ∈ bs ∧ p < i) (children p))
    (hbeside : ∀ p ∈ cs, Timely children (fun i => i ∈ cs ∧ p < i) (children p)) :
    ∀ p ∈ r :: (bs ++ cs),
      Timely children (fun i => i ∈ r :: (bs ++ cs) ∧ p < i) (children p) := by
  obtain ⟨hfirst, hordered⟩ := List.pairwise_cons.1 hordered
  obtain ⟨-, -, hacross⟩ := List.pairwise_append.1 hordered
  simp only [List.mem_cons, List.mem_append] at hfirst hchild ⊢
  rintro p (rfl | hp | hp)
  · refine hroot.extend (fun i hi => ⟨.inr (.inl hi), hfirst i (.inl hi)⟩)
      (fun i hc hi => hchild p (.inl rfl) i hc hi.1 hi.2) fun id hid i hi hlt => ?_
    grind
  · refine (hbelow p hp).extend (fun i hi => ⟨.inr (.inl hi.1), hi.2⟩)
      (fun i hc hi => ⟨hchild p (.inr hp) i hc hi.1 hi.2, hi.2⟩) fun id hid i hi hlt => ?_
    grind
  · -- What follows something beside the root is beside it, too.
    refine (hbeside p hp).extend (fun i hi => ⟨.inr (.inr hi.1), hi.2⟩)
      (fun i hc hi => ?_) fun id hid i hi hlt => ?_
    · grind
    · grind

end

/-- If a search finds its instances in ascending order, its roots are timely, and so are the
children of all that it finds. -/
theorem timely_of_pairwise_found (hs : s.model.Named) (visited : InstanceSet)
    (ids : List EntityId) (h : (s.found visited ids).Pairwise (· < ·)) :
    Timely s.model.children (· ∈ s.found visited ids) ids ∧
      ∀ p ∈ s.found visited ids,
        Timely s.model.children (fun i => i ∈ s.found visited ids ∧ p < i)
          (s.model.children p) := by
  induction visited, ids using search_induction (s := s) with
  | nil v =>
    rw [found_nil]
    exact ⟨fun _ _ _ _ hid => absurd hid List.not_mem_nil, fun _ hp => absurd hp List.not_mem_nil⟩
  | skip v r ids hr ih =>
    rw [found_of_not_fresh hr] at h ⊢
    obtain ⟨hroots, hchildren⟩ := ih h
    refine ⟨timely_cons_iff.2 ⟨fun hfound => ?_, fun front id back hsplit hid i hi hlt => ?_⟩,
      hchildren⟩
    · exact absurd ((mem_found_iff hs).1 hfound).allowed_end hr
    · exact (hroots front id back hsplit hid i hi hlt).mono
        (fun _ hq _ => List.mem_cons_of_mem _ hq) fun _ hq => hq
  | visit v r ids hr below beside =>
    have hfresh (i : EntityId) (hi : i ∈ s.found v (r :: ids)) : s.Fresh v i :=
      ((mem_found_iff hs).1 hi).allowed_end
    rw [found_of_fresh hs hr] at h hfresh ⊢
    obtain ⟨hfirst, hordered⟩ := List.pairwise_cons.1 h
    obtain ⟨hbelow, hbeside, -⟩ := List.pairwise_append.1 hordered
    obtain ⟨hrootsBelow, hchildrenBelow⟩ := below hbelow
    obtain ⟨hrootsBeside, hchildrenBeside⟩ := beside hbeside
    refine ⟨timely_cons_of_pairwise h (fun _ => reachable_of_mem_found hs) hrootsBeside,
      timely_children_of_pairwise h (fun p hp i hc hi hlt => ?_) hrootsBelow hchildrenBelow
        hchildrenBeside⟩
    -- A child that follows the root is fresh below it, so it is found there.
    have hafter : r < i := by
      rcases hp with rfl | hp
      · exact hlt
      · exact UInt32.lt_trans (hfirst p (List.mem_append_left _ hp)) hlt
    have hf : s.Fresh (v.insert r) i := by
      rw [fresh_insert]
      exact ⟨hfresh i hi, (UInt32.ne_of_lt hafter).symm⟩
    rcases hp with rfl | hp
    · exact (staysIn_found hs).root i hc hf
    · exact (staysIn_found hs).child p hp i hc hf

/-! ## From the links to the order -/

/-- Of the instances of a region, those of a set precede the others. -/
def Initial (region : EntityId → Prop) (set : InstanceSet) : Prop :=
  ∀ i j, region i → region j → i ∈ set → j ∉ set → i < j

/-- The set stays initial with the first of the instances that are left. -/
theorem Initial.insert {region : EntityId → Prop} (h : Initial region visited)
    (hleast : ∀ i, region i → i ∉ visited → i ≠ id → id < i) :
    Initial region (visited.insert id) := by
  intro i j hi hj hiv hjv
  rw [mem_insert_iff, not_or] at hjv
  rcases mem_insert_iff.1 hiv with rfl | hiv
  · exact hleast j hj hjv.2 (Ne.symm hjv.1)
  · exact h i j hi hj hiv hjv.2

/-- The instances that are left then are those that follow the first one. -/
theorem Initial.region_and_not_mem_insert {region : EntityId → Prop} (h : Initial region visited)
    (hid : region id) (hfresh : id ∉ visited)
    (hleast : ∀ i, region i → i ∉ visited → i ≠ id → id < i) :
    (fun i => region i ∧ i ∉ visited.insert id) = fun i => region i ∧ id < i := by
  funext i
  refine propext (and_congr_right fun hi => ?_)
  rw [mem_insert_iff, not_or]
  constructor
  · exact fun hv => hleast i hi hv.2 (Ne.symm hv.1)
  · exact fun hlt => ⟨UInt32.ne_of_lt hlt, fun hv => UInt32.lt_asymm hlt (h i id hi hid hv hfresh)⟩

/-- If its roots and the children of the instances where it stays are timely, a search finds
instances in ascending order, and leaves out none that precedes one of them. -/
theorem pairwise_found_of_timely (hs : s.model.Named) {region : EntityId → Prop}
    (hchildren : ∀ p, region p →
      Timely s.model.children (fun i => region i ∧ p < i) (s.model.children p))
    (visited : InstanceSet) (ids : List EntityId) (hstays : s.StaysIn region visited ids)
    (hinitial : Initial region visited)
    (hroots : Timely s.model.children (fun i => region i ∧ i ∉ visited) ids) :
    (s.found visited ids).Pairwise (· < ·) ∧ Initial region (s.search visited ids).2 := by
  induction visited, ids using search_induction (s := s) with
  | nil v =>
    rw [found_nil, search_nil]
    exact ⟨.nil, hinitial⟩
  | skip v r ids hr ih =>
    rw [found_of_not_fresh hr, search_of_not_fresh hr]
    refine ih hstays.skip hinitial fun front id back hsplit hid i hi hlt => ?_
    refine (reachable_congr fun j hj => List.mem_cons.trans (or_iff_right ?_)).1
      ((timely_cons_iff.1 hroots).2 front id back hsplit hid i hi hlt)
    rintro rfl
    exact hr ⟨hstays.resolves _ hj.1, hj.2⟩
  | visit v r ids hr below beside =>
    obtain ⟨hfirst, hlater⟩ := timely_cons_iff.1 hroots
    have hregion : region r := hstays.root r List.mem_cons_self hr
    -- The root is the first of the instances that are left, so those that are left below it are
    -- those that follow it.
    have hleast (i : EntityId) (hi : region i) (hv : i ∉ v) (hne : i ≠ r) : r < i :=
      UInt32.lt_of_le_of_ne (UInt32.not_lt.1 (hfirst ⟨hregion, hr.2⟩ i ⟨hi, hv⟩)) (Ne.symm hne)
    have hbeyond := hinitial.region_and_not_mem_insert hregion hr.2 hleast
    have hstaysBelow := hstays.below hregion
    obtain ⟨hbelow, hinitial⟩ :=
      below hstaysBelow (hinitial.insert hleast) (hbeyond ▸ hchildren r hregion)
    have hstaysBeside := hstays.beside hs
    obtain ⟨hbeside, hinitialAfter⟩ := beside hstaysBeside hinitial (hstays.timely_beside hs hr hroots)
    obtain ⟨n, hn, -⟩ := convert_of_fresh hs hr
    rw [found_of_fresh hs hr, search_of_fresh hr hn]
    refine ⟨List.pairwise_cons.2 ⟨fun i hi => ?_, List.pairwise_append.2
      ⟨hbelow, hbeside, fun i hi j hj => ?_⟩⟩, hinitialAfter⟩
    · refine ((congrFun hbeyond i).mp ?_).2
      rcases List.mem_append.1 hi with hi | hi
      · exact hstaysBelow.of_mem_found hs hi
      · obtain ⟨hi, hv⟩ := hstaysBeside.of_mem_found hs hi
        exact ⟨hi, fun hbefore => hv ((mem_search_iff hs _ _ i).2 (.inl hbefore))⟩
    · obtain ⟨hj, hv⟩ := hstaysBeside.of_mem_found hs hj
      exact hinitial i j (hstaysBelow.of_mem_found hs hi).1 hj
        ((mem_search_iff hs _ _ i).2 (.inr hi)) hv

/-- A search finds its instances in ascending order exactly if its roots are timely and so are the
children of each instance it finds, among those that follow the instance. -/
theorem pairwise_found_iff (hs : s.model.Named) (visited : InstanceSet) (ids : List EntityId) :
    (s.found visited ids).Pairwise (· < ·) ↔
      Timely s.model.children (· ∈ s.found visited ids) ids ∧
        ∀ p ∈ s.found visited ids,
          Timely s.model.children (fun i => i ∈ s.found visited ids ∧ p < i)
            (s.model.children p) := by
  refine ⟨timely_of_pairwise_found hs visited ids, fun ⟨hroots, hchildren⟩ => ?_⟩
  have hfresh {i : EntityId} (hi : i ∈ s.found visited ids) : i ∉ visited :=
    ((staysIn_found hs).of_mem_found hs hi).2
  refine (pairwise_found_of_timely hs hchildren visited ids (staysIn_found hs)
    (fun i j hi _ hv _ => absurd hv (hfresh hi)) ?_).1
  have hnone : (fun i => i ∈ s.found visited ids ∧ i ∉ visited) = (· ∈ s.found visited ids) :=
    funext fun i => propext (and_iff_left_of_imp hfresh)
  rwa [hnone]

end NodeSource

end BuildingModel.Document
