import BuildingModel.Proofs.Geometry.Item
import BuildingModel.Proofs.Geometry.Outline
import BuildingModel.Proofs.Model.RoundTrip
import BuildingModel.Proofs.Model.Types

/-!
# Face sets

A face set has its points in one list, and its faces name them by number: counted from one, and
through a list of numbers if there is one. Its processor succeeds exactly if no corner of a face
goes astray, and then the faces of its mesh are those of the face set (`meshes_faceSet`): the loops
of points at the numbers, joined with those of the holes, without repeats, as far as three points
are left.
-/

namespace BuildingModel.Geometry

open BuildingModel.Step (Definition file)

/-! ## Trials with a condition -/

/-- A trial gives a value if a condition holds, and fails otherwise. -/
structure GivesIf {ε α : Type} (trial : Except ε α) (p : Prop) (a : α) : Prop where
  /-- With the condition it gives the value. -/
  ok : p → trial = .ok a
  /-- Without, it fails. -/
  error : ¬ p → ∃ e, trial = .error e

namespace GivesIf

variable {ε α β γ : Type}

theorem of_ok (a : α) : GivesIf (.ok a : Except ε α) True a :=
  ⟨fun _ => rfl, fun h => absurd trivial h⟩

theorem congr_iff {trial : Except ε α} {p q : Prop} {a : α} (h : GivesIf trial p a)
    (hpq : p ↔ q) : GivesIf trial q a :=
  ⟨fun hq => h.ok (hpq.2 hq), fun hq => h.error (mt hpq.1 hq)⟩

/-- A trial that gives a value if a condition holds fails exactly without it. -/
theorem error_iff {trial : Except ε α} {p : Prop} {a : α} (h : GivesIf trial p a) :
    (∃ e, trial = .error e) ↔ ¬ p := by
  refine ⟨fun ⟨e, he⟩ hp => ?_, h.error⟩
  rw [h.ok hp] at he
  cases he

/-- A trial after another has both conditions. -/
theorem bind {trial : Except ε α} {p : Prop} {a : α} (h : GivesIf trial p a)
    {next : α → Except ε β} {q : Prop} {b : β} (hnext : GivesIf (next a) q b) :
    GivesIf (trial >>= next) (p ∧ q) b := by
  constructor
  case ok =>
    rintro ⟨hp, hq⟩
    rw [h.ok hp, ok_bind, hnext.ok hq]
  case error =>
    intro hnot
    by_cases hp : p
    · rw [h.ok hp, ok_bind]
      exact hnext.error fun hq => hnot ⟨hp, hq⟩
    · obtain ⟨e, he⟩ := h.error hp
      exact ⟨e, by rw [he]; rfl⟩

/-- What is made of a result has the condition of the result. -/
theorem map {trial : Except ε α} {p : Prop} {a : α} (h : GivesIf trial p a) (f : α → β) :
    GivesIf (trial >>= fun a => .ok (f a)) p (f a) :=
  (h.bind (of_ok (f a))).congr_iff (and_iff_left trivial)

/-- Trials one after the other have all conditions. -/
theorem mapM {f : α → Except ε γ} {p : β → Prop} {g : β → γ} {as : List α} {bs : List β}
    (h : List.Forall₂ (fun a b => GivesIf (f a) (p b) (g b)) as bs) :
    GivesIf (as.mapM f) (∀ b ∈ bs, p b) (bs.map g) := by
  induction h with
  | nil => exact (of_ok []).congr_iff (by simp)
  | cons hab _ ih =>
    rw [List.mapM_cons]
    exact (hab.bind (ih.map _)).congr_iff List.forall_mem_cons.symm

end GivesIf

/-! ## Indexed faces -/

/-- A face, by the numbers of its corners and of those of its holes. -/
structure IndexedFace where
  /-- The corners of its loop. -/
  outer : List Int
  /-- The corners of the holes. -/
  holes : List (List Int)
deriving DecidableEq, Repr

/-- All corners of a face. -/
def IndexedFace.corners (f : IndexedFace) : List Int :=
  f.outer ++ f.holes.flatten

/-- Faces over a list of points. -/
structure IndexedFaces where
  /-- The coordinates of the points. -/
  coordinates : List (List Parameter)
  /-- The numbers of the points that corners name; without any, they name the points. -/
  numbers : List Int
  /-- The faces. -/
  faces : List IndexedFace

namespace IndexedFaces

variable (s : IndexedFaces)

/-- The number of the point that a corner leads to. -/
def number? (i : Int) : Option Int :=
  if s.numbers = [] then some i else s.numbers[(i - 1).toNat]?

/-- A corner is less than one, beyond the numbers, or leads to a number beyond the points. -/
def Astray (i : Int) : Prop :=
  i < 1 ∨ (s.numbers ≠ [] ∧ (s.numbers.length : Int) < i) ∨
    ∃ n, s.number? i = some n ∧ (s.coordinates.length : Int) < n

/-- The point that a corner leads to. -/
def position (i : Int) : Vec3 Float :=
  point3 (((s.number? i).bind fun n => s.coordinates[(n - 1).toNat]?).getD [])

/-- The loop of a face, joined with those of its holes. -/
def loop (f : IndexedFace) : List (Vec3 Float) :=
  bridge (f.outer.map s.position) (f.holes.map (List.map s.position))

/-- The loops of the faces. -/
def loops : List (List (Vec3 Float)) :=
  s.faces.map s.loop

end IndexedFaces

/-! ## Reading face sets -/

/-- The whole numbers of a list, if it has nothing else. -/
def integers? (ps : List Parameter) : Option (List Int) :=
  ps.mapM Parameter.asInteger?

/-- The lists of whole numbers of a list, if it has nothing else. -/
def integerLists? (ps : List Parameter) : Option (List (List Int)) :=
  ps.mapM fun p => p.asList?.bind integers?

/-- A polygon with holes, if it has corners and all of them are whole numbers. -/
def IndexedFace.ofEntity? (e : Entity) : Option IndexedFace := do
  let corners ← e.list? 0
  let outer ← integers? corners
  let holes ← integerLists? ((e.list? 1).getD [])
  return ⟨outer, holes⟩

namespace IndexedFaces

/-- The faces of a face set are lists of whole numbers, and so are its numbers. -/
inductive FacesOf (s : IndexedFaces) (x : EntityIndex) (item : Entity) : Prop
  /-- A set of triangles. -/
  | triangulated {triangles : List (List Int)} : item.type = .known .triangulatedFaceSet →
    (item.list? 3).bind integerLists? = some triangles →
    s.faces = triangles.map (⟨·, []⟩) →
    integers? ((item.list? 4).getD []) = some s.numbers → FacesOf s x item
  /-- A set of polygons. What is no entity and what has no corners is left out. -/
  | polygonal : item.type = .known .polygonalFaceSet →
    (∀ e ∈ (item.references 2).filterMap x.get?, (e.list? 0).isSome →
      (IndexedFace.ofEntity? e).isSome) →
    s.faces = ((item.references 2).filterMap x.get?).filterMap IndexedFace.ofEntity? →
    integers? ((item.list? 3).getD []) = some s.numbers → FacesOf s x item

/-- What a face set says, if its lists have nothing but lists, whole numbers and, for the numbers of
points, positive ones. -/
structure Describes (s : IndexedFaces) (x : EntityIndex) (item : Entity) : Prop where
  /-- The list of points has lists of coordinates. -/
  coordinates : ∃ id e, item.reference? 0 = some id ∧ x.get? id = some e ∧
    (e.list? 0).bind (List.mapM Parameter.asList?) = some s.coordinates
  /-- The numbers of points are positive. -/
  positive : ∀ n ∈ s.numbers, 1 ≤ n
  /-- The faces and the numbers have whole numbers. -/
  faces : s.FacesOf x item

end IndexedFaces

/-! ## Corners -/

/-- What is read from a list is read member by member. -/
theorem forall₂_of_mapM_eq_some {α β : Type} {f : α → Option β} {as : List α} {bs : List β}
    (h : as.mapM f = some bs) : List.Forall₂ (fun a b => f a = some b) as bs := by
  induction as generalizing bs with
  | nil =>
    obtain rfl := Option.some.inj h
    exact .nil
  | cons a as ih =>
    rw [List.mapM_cons] at h
    obtain ⟨b, hb, h⟩ := Option.bind_eq_some_iff.1 h
    obtain ⟨cs, hcs, h⟩ := Option.bind_eq_some_iff.1 h
    obtain rfl := Option.some.inj h
    exact .cons hb (ih hcs)

theorem filterMap_of_mapM_eq_some {α β : Type} {f : α → Option β} {as : List α} {bs : List β}
    (h : as.mapM f = some bs) : as.filterMap f = bs := by
  have hread := forall₂_of_mapM_eq_some h
  clear h
  induction hread with
  | nil => rfl
  | cons hab _ ih => rw [List.filterMap_cons_some hab, ih]

/-- What is read from lists of whole numbers is read list by list. -/
theorem forall₂_of_integerLists? {ps : List Parameter} {iss : List (List Int)}
    (h : integerLists? ps = some iss) :
    List.Forall₂ (fun qs is => integers? qs = some is) (ps.filterMap Parameter.asList?) iss := by
  have hread {p : Parameter} {is : List Int} (hp : p.asList?.bind integers? = some is) :
      Option.Rel (fun qs is => integers? qs = some is) p.asList? (some is) := by
    obtain ⟨qs, hqs, his⟩ := Option.bind_eq_some_iff.1 hp
    rw [hqs]
    exact .some his
  have hrel := List.rel_filterMap (fun _ _ hp => hread hp) (forall₂_of_mapM_eq_some h)
  rwa [List.filterMap_some] at hrel

namespace IndexedFaces

variable {s : IndexedFaces}

/-- The points of the list. -/
def points (s : IndexedFaces) : Array (Vec3 Float) :=
  (s.coordinates.map point3).toArray

theorem cornerPoint_eq {p : Parameter} {i : Int} (hp : p.asInteger? = some i) (hi : 1 ≤ i) :
    cornerPoint s.points (s.numbers.map Int.toNat) p =
      match s.number? i with
      | none => .error (.unknownNumber i.toNat)
      | some n =>
        match s.coordinates[(n - 1).toNat]? with
        | none => .error (.unknownPoint n.toNat)
        | some ps => .ok (point3 ps) := by
  have hsub (n : Int) : n.toNat - 1 = (n - 1).toNat := by omega
  have hnumber : (if (s.numbers.map Int.toNat).isEmpty then some i.toNat
      else (s.numbers.map Int.toNat)[i.toNat - 1]?) = (s.number? i).map Int.toNat := by
    rw [number?, hsub, List.getElem?_map, List.isEmpty_map]
    by_cases hnil : s.numbers = []
    · simp [hnil]
    · simp [hnil]
  have hpoint (n : Int) : s.points[n.toNat - 1]? = s.coordinates[(n - 1).toNat]?.map point3 := by
    rw [points, List.getElem?_toArray, List.getElem?_map, hsub]
  rw [cornerPoint, hp, Option.filter_some, if_pos (by simpa using hi)]
  simp only [hnumber]
  cases s.number? i with
  | none => rfl
  | some n =>
    simp only [Option.map_some, hpoint]
    cases s.coordinates[(n - 1).toNat]? <;> rfl

section

variable (hpositive : ∀ n ∈ s.numbers, 1 ≤ n)
include hpositive

/-- A corner that does not go astray leads to a point, counted from one. -/
theorem exists_of_not_astray {i : Int} (h : ¬ s.Astray i) :
    1 ≤ i ∧ ∃ n ps, s.number? i = some n ∧ 1 ≤ n ∧
      s.coordinates[(n - 1).toNat]? = some ps ∧ s.position i = point3 ps := by
  rw [Astray, not_or, not_or, not_and] at h
  obtain ⟨hi, hnumbers, hpoint⟩ := h
  obtain ⟨n, hn, hone⟩ : ∃ n, s.number? i = some n ∧ 1 ≤ n := by
    rw [number?]
    split
    · exact ⟨i, rfl, by omega⟩
    · next hne =>
      have hlt : (i - 1).toNat < s.numbers.length := by
        have := hnumbers hne
        omega
      exact ⟨_, List.getElem?_eq_getElem hlt, hpositive _ (List.getElem_mem hlt)⟩
  have hlt : (n - 1).toNat < s.coordinates.length := by
    have : ¬ (s.coordinates.length : Int) < n := fun hlt => hpoint ⟨n, hn, hlt⟩
    omega
  refine ⟨by omega, n, _, hn, hone, List.getElem?_eq_getElem hlt, ?_⟩
  rw [position, hn, Option.bind_some, List.getElem?_eq_getElem hlt, Option.getD_some]

/-- The point of a corner is found if it does not go astray. -/
theorem givesIf_cornerPoint {p : Parameter} {i : Int} (hp : p.asInteger? = some i) :
    GivesIf (cornerPoint s.points (s.numbers.map Int.toNat) p) (¬ s.Astray i) (s.position i) := by
  constructor
  case ok =>
    intro h
    obtain ⟨hi, n, ps, hn, -, hps, hposition⟩ := exists_of_not_astray hpositive h
    rw [cornerPoint_eq hp hi, hn]
    simp only [hps, hposition]
  case error =>
    intro h
    by_cases hi : 1 ≤ i
    · rw [cornerPoint_eq hp hi]
      rcases not_not.1 h with hlt | ⟨hne, hlt⟩ | ⟨n, hn, hlt⟩
      · omega
      · rw [number?, if_neg hne, List.getElem?_eq_none (by omega)]
        exact ⟨_, rfl⟩
      · have hnone : s.coordinates[(n - 1).toNat]? = none := List.getElem?_eq_none (by omega)
        simp only [hn, hnone]
        exact ⟨_, rfl⟩
    · refine ⟨.invalidCornerIndex, ?_⟩
      rw [cornerPoint, hp, Option.filter_some, if_neg (by simpa using hi)]

theorem givesIf_cornerPoints {ps : List Parameter} {is : List Int} (h : integers? ps = some is) :
    GivesIf (cornerPoints s.points (s.numbers.map Int.toNat) ps) (∀ i ∈ is, ¬ s.Astray i)
      (is.map s.position) :=
  .mapM ((forall₂_of_mapM_eq_some h).imp fun _ _ hp => givesIf_cornerPoint hpositive hp)

theorem givesIf_triangleLoops {ps : List Parameter} {iss : List (List Int)}
    (h : integerLists? ps = some iss) :
    GivesIf (triangleLoops s.points (s.numbers.map Int.toNat) ps)
      (∀ is ∈ iss, ∀ i ∈ is, ¬ s.Astray i) (iss.map (List.map s.position)) :=
  .mapM ((forall₂_of_integerLists? h).imp fun _ _ hp => givesIf_cornerPoints hpositive hp)

theorem givesIf_polygonLoop? {e : Entity}
    (h : (e.list? 0).isSome → (IndexedFace.ofEntity? e).isSome) :
    GivesIf (polygonLoop? s.points (s.numbers.map Int.toNat) e)
      (∀ f ∈ IndexedFace.ofEntity? e, ∀ i ∈ f.corners, ¬ s.Astray i)
      ((IndexedFace.ofEntity? e).map s.loop) := by
  rw [polygonLoop?]
  cases hcorners : e.list? 0 with
  | none =>
    have hnone : IndexedFace.ofEntity? e = none := by
      rw [IndexedFace.ofEntity?, hcorners]
      rfl
    rw [hnone]
    exact (GivesIf.of_ok none).congr_iff (by simp)
  | some corners =>
    rw [hcorners] at h
    obtain ⟨f, hf⟩ := Option.isSome_iff_exists.1 (h rfl)
    rw [hf]
    rw [IndexedFace.ofEntity?, hcorners, Option.bind_eq_bind, Option.bind_some] at hf
    obtain ⟨outer, houter, hf⟩ := Option.bind_eq_some_iff.1 hf
    obtain ⟨holes, hholes, hf⟩ := Option.bind_eq_some_iff.1 hf
    obtain rfl := Option.some.inj hf
    refine ((givesIf_cornerPoints hpositive houter).bind
      ((givesIf_triangleLoops hpositive hholes).map _)).congr_iff ?_
    simp only [Option.mem_some_iff, forall_eq', IndexedFace.corners, List.forall_mem_append,
      List.forall_mem_flatten]

end

/-! ## Whole face sets -/

theorem positives_of_integers? {ps : List Parameter} (hpositive : ∀ n ∈ s.numbers, 1 ≤ n)
    (h : integers? ps = some s.numbers) : positives ps = s.numbers.map Int.toNat := by
  rw [positives, filterMap_of_mapM_eq_some h,
    List.filter_eq_self.2 fun n hn => decide_eq_true (hpositive n hn)]

variable {x : EntityIndex} {item : Entity}

theorem pointList_eq {id : EntityId} {e : Entity} (he : x.get? id = some e)
    (hlist : (e.list? 0).bind (List.mapM Parameter.asList?) = some s.coordinates) :
    pointList x id = .ok (s.coordinates.map point3) := by
  obtain ⟨lists, hlists, hread⟩ := Option.bind_eq_some_iff.1 hlist
  rw [pointList, entity, he]
  simp only [ok_bind, hlists, require]
  rw [filterMap_of_mapM_eq_some hread]
  rfl

/-- The loops of a face set are found if no corner goes astray. -/
theorem Describes.givesIf_faceSetLoops (h : s.Describes x item) :
    GivesIf (faceSetLoops x item) (∀ f ∈ s.faces, ∀ i ∈ f.corners, ¬ s.Astray i) s.loops := by
  obtain ⟨list, e, hid, he, hlist⟩ := h.coordinates
  rw [faceSetLoops, hid]
  simp only [require, ok_bind, pointList_eq he hlist]
  cases h.faces with
  | @triangulated triangles htype hcorners hfaces hnumbers =>
    obtain ⟨corners, hlist, hcorners⟩ := Option.bind_eq_some_iff.1 hcorners
    have hloops : s.loops = triangles.map (List.map s.position) := by
      rw [loops, hfaces, List.map_map]
      rfl
    rw [if_pos htype, hlist, positives_of_integers? h.positive hnumbers, hloops]
    refine (givesIf_triangleLoops h.positive hcorners).congr_iff ?_
    simp [hfaces, IndexedFace.corners]
  | polygonal htype hread hfaces hnumbers =>
    rw [if_neg (by simp [htype]), positives_of_integers? h.positive hnumbers, loops, hfaces]
    -- A polygon without corners has no loop.
    have hpolygons := GivesIf.mapM (List.forall₂_same.2 fun e he =>
      givesIf_polygonLoop? h.positive (hread e he))
    rw [List.map_filterMap, ← Function.id_comp fun e => (IndexedFace.ofEntity? e).map s.loop,
      ← List.filterMap_map]
    refine (hpolygons.map (List.filterMap id)).congr_iff ?_
    simp only [List.mem_filterMap (f := IndexedFace.ofEntity?), Option.mem_def]
    exact ⟨fun hall f ⟨e, he, hf⟩ => hall e he f hf, fun hall e he f hf => hall f ⟨e, he, hf⟩⟩

end IndexedFaces

theorem meshesWithin_faceSet {k : Kernel} {x : EntityIndex} {item : Entity} {levels : Nat}
    (hk : k.processor? item.type = some .faceSet) :
    meshesWithin k x (levels + 1) item =
      faceSetLoops x item >>= fun loops => .ok (meshesOfLoops loops) := by
  rw [meshesWithin, hk]
  rfl

/-- The faces of the mesh of loops are their outlines, and there is no mesh if there is none. -/
theorem meshesOfLoops_outlines (loops : List (List (Vec3 Float))) :
    (meshesOfLoops loops).length ≤ 1 ∧ (meshesOfLoops loops = [] ↔ outlines loops = []) ∧
      List.Forall₂ (List.Forall₂ fun p q => p.same q = true)
        ((meshesOfLoops loops).flatMap fun m => m.faces.toList.map m.points) (outlines loops) := by
  have h := Mesh.forall₂_points_ofLoops loops
  have hempty : (Mesh.ofLoops loops).isEmpty = true ↔ outlines loops = [] := by
    rw [Mesh.isEmpty, Array.isEmpty_iff, ← Array.toList_eq_nil_iff, ← List.length_eq_zero_iff,
      ← List.length_eq_zero_iff, ← h.length_eq, List.length_map]
  rw [meshesOfLoops, ← hempty]
  cases hmesh : (Mesh.ofLoops loops).isEmpty with
  | false => simpa [hmesh] using h
  | true => simp [hmesh, hempty.1 hmesh]

/-- The processor of a face set fails exactly if a corner goes astray. Otherwise every corner leads
to a point of the list, and the faces of the mesh are, in order, those of the face set, each with
its holes and without repeats, as far as three points are left. There is no mesh exactly if no face
is left. -/
theorem meshes_faceSet {k : Kernel} {x : EntityIndex} {item : Entity} {s : IndexedFaces}
    {depth : Nat} (hk : Processor.faceSet ∈ k.processors) (hdepth : depth ≤ itemLimit)
    (h : s.Describes x item) :
    ((∃ e, meshes k x item depth = .error e) ↔ ∃ f ∈ s.faces, ∃ i ∈ f.corners, s.Astray i) ∧
      ((∀ f ∈ s.faces, ∀ i ∈ f.corners, ¬ s.Astray i) →
        (∀ f ∈ s.faces, ∀ i ∈ f.corners, ∃ n ps, s.number? i = some n ∧ 1 ≤ n ∧
          s.coordinates[(n - 1).toNat]? = some ps ∧ s.position i = point3 ps) ∧
        ∃ ms, meshes k x item depth = .ok ms ∧ ms.length ≤ 1 ∧
          (ms = [] ↔ outlines s.loops = []) ∧
          List.Forall₂ (List.Forall₂ fun p q => p.same q = true)
            (ms.flatMap fun m => m.faces.toList.map m.points) (outlines s.loops)) := by
  have hprocessor : k.processor? item.type = some .faceSet := by
    have htype : Processor.ofType? item.type = some .faceSet := by
      cases h.faces with
      | triangulated htype => rw [htype]; rfl
      | polygonal htype => rw [htype]; rfl
    rw [Kernel.processor?, htype, Option.filter_some, if_pos (by simpa using hk)]
  -- At the depth of the item one level is left at least.
  have hlevels : itemLimit + 1 - depth = itemLimit - depth + 1 := by omega
  have hmeshes : GivesIf (meshes k x item depth) (∀ f ∈ s.faces, ∀ i ∈ f.corners, ¬ s.Astray i)
      (meshesOfLoops s.loops) := by
    rw [meshes, hlevels, meshesWithin_faceSet hprocessor]
    exact h.givesIf_faceSetLoops.map meshesOfLoops
  refine ⟨?_, fun hcorners => ⟨fun f hf i hi => ?_, _, hmeshes.ok hcorners,
    meshesOfLoops_outlines _⟩⟩
  · rw [hmeshes.error_iff]
    simp only [not_forall, not_not, exists_prop]
  · exact (IndexedFaces.exists_of_not_astray h.positive (hcorners f hf i hi)).2

/-! ## A square with a hole -/

/-- The points of a square and of a hole in it. -/
def framePoints : Definition :=
  .ofClass 1 .cartesianPointList3D [.list [.list [], .list [.integer 4],
    .list [.integer 4, .integer 4], .list [.integer 0, .integer 4], .list [.integer 1, .integer 1],
    .list [.integer 1, .integer 2], .list [.integer 2, .integer 2]]]

/-- The square with its hole, whose last corner is given. -/
def framePolygon (last : Int64) : Definition :=
  .ofClass 2 .indexedPolygonalFaceWithVoids
    [.list [.integer 1, .integer 2, .integer 3, .integer 3, .integer 4],
      .list [.list [.integer 5, .integer 6, .integer last]]]

/-- A face set of the square, with numbers of points. -/
def frameFaces : Definition :=
  .ofClass 3 .polygonalFaceSet [.reference 1, .null, .list [.reference 2], .list
    [.integer 4, .integer 3, .integer 2, .integer 1, .integer 7, .integer 6, .integer 5]]

/-- The index of the three. -/
def frame (last : Int64) : EntityIndex :=
  .ofContent (file [framePoints, framePolygon last, frameFaces])

/-- What the face set says. -/
def framed (last : Int64) : IndexedFaces where
  coordinates := [[], [.integer 4], [.integer 4, .integer 4], [.integer 0, .integer 4],
    [.integer 1, .integer 1], [.integer 1, .integer 2], [.integer 2, .integer 2]]
  numbers := [4, 3, 2, 1, 7, 6, 5]
  faces := [⟨[1, 2, 3, 3, 4], [[5, 6, last.toInt]]⟩]

theorem describes_frame (last : Int64) :
    (framed last).Describes (frame last) frameFaces.entity := by
  have hids : ([framePoints, framePolygon last, frameFaces].map (·.id)).Nodup := by
    simp only [framePoints, framePolygon, frameFaces, List.map_cons, List.map_nil,
      Definition.id_ofClass]
    decide
  have hget (d : Definition) (hd : d ∈ [framePoints, framePolygon last, frameFaces]) :
      (frame last).get? d.id = some d.entity := Model.get?_file hids hd
  have hpoints := hget framePoints (.head _)
  have hpolygon := hget (framePolygon last) (.tail _ (.head _))
  have hpolygons : (frameFaces.entity.references 2).filterMap (frame last).get? =
      [(framePolygon last).entity] := by
    have hreferences : frameFaces.entity.references 2 = [(framePolygon last).id] := rfl
    rw [hreferences, List.filterMap_cons_some hpolygon, List.filterMap_nil]
  constructor
  case coordinates => exact ⟨framePoints.id, _, rfl, hpoints, rfl⟩
  case positive =>
    show ∀ n ∈ [4, 3, 2, 1, 7, 6, 5], (1 : Int) ≤ n
    decide
  case faces =>
    refine .polygonal (Definition.type_ofClass _ _ _) ?_ ?_ rfl
    · rw [hpolygons]
      exact List.forall_mem_singleton.2 fun _ => rfl
    · rw [hpolygons]
      rfl

theorem meshes_faceSet_frame :
    (∃ e, meshes {} (frame 8) frameFaces.entity = .error e) ∧
      ∃ m, meshes {} (frame 7) frameFaces.entity = .ok [m] ∧ m.faces.size = 1 := by
  have hk : Processor.faceSet ∈ ({} : Kernel).processors := by decide
  have hdepth : 0 ≤ itemLimit := by decide
  constructor
  · -- There are but seven numbers of points.
    exact (meshes_faceSet hk hdepth (describes_frame 8)).1.2
      ⟨_, List.mem_singleton_self _, 8, by decide, .inr (.inl (by decide))⟩
  · have hcorners : ∀ f ∈ (framed 7).faces, ∀ i ∈ f.corners, ¬ (framed 7).Astray i := by
      simp only [framed, List.forall_mem_singleton, IndexedFace.corners, List.flatten_singleton,
        List.cons_append, List.nil_append, List.forall_mem_cons]
      simp [IndexedFaces.Astray, IndexedFaces.number?]
    have hloops : (outlines (framed 7).loops).length = 1 := by decide +kernel
    obtain ⟨-, ms, hms, hlength, hempty, hfaces⟩ :=
      (meshes_faceSet hk hdepth (describes_frame 7)).2 hcorners
    have hne : ms ≠ [] := fun hnil => by simp [hempty.1 hnil] at hloops
    obtain ⟨m, rfl⟩ := List.length_eq_one_iff.1
      (Nat.le_antisymm hlength (List.length_pos_iff.2 hne))
    have hsize := hfaces.length_eq
    rw [hloops] at hsize
    exact ⟨m, hms, by simpa using hsize⟩

end BuildingModel.Geometry
