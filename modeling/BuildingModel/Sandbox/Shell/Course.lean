/-!
# Courses

A course is work on a state that may pause: it comes to an end, or to a pause in which others may
work on the state, and after which it goes on with what they have made of it. A wake tells what ends
a pause. Courses are put one after another, and may be stopped in their pauses.
-/

namespace BuildingModel.Sandbox.Shell

/-- What a pause may end with. -/
inductive Wake where
  /-- A time comes. -/
  | time (t : Nat)
  /-- Jobs have ended, all or any of them. Signals end such a pause, too. -/
  | ended (jobs : List Nat) (all : Bool)
  /-- Processes have ended, all of them. -/
  | over (processes : List Nat)
  /-- Nobody else has a channel. -/
  | free (channel : Nat)
  /-- Somebody else has a channel. -/
  | held (channel : Nat)
  /-- A pipe has something that has not been read. -/
  | given (pipe : Nat)
  /-- A pipe has room for more. -/
  | room (pipe : Nat)
deriving DecidableEq, Repr

mutual

/-- Work on a state that may pause. -/
inductive Course (σ α : Type) : Type where
  /-- What the work comes to, given the state. -/
  | go (f : σ → Stage σ α)

/-- What work comes to. -/
inductive Stage (σ α : Type) : Type where
  /-- It has ended. -/
  | done (s : σ) (a : α)
  /-- It goes on when one of some things has come about. -/
  | paused (s : σ) (wakes : List Wake) (rest : Course σ α)

end

/-- What a course comes to on a state. -/
@[inline] def Course.run {σ α : Type} : Course σ α → σ → Stage σ α
  | .go f, s => f s

mutual

/-- A course with another one after it. -/
def Course.follow {σ α β : Type} : Course σ α → (α → Course σ β) → Course σ β
  | .go f, k => .go fun s => Stage.follow (f s) k

/-- What work comes to with a course after it. -/
def Stage.follow {σ α β : Type} : Stage σ α → (α → Course σ β) → Stage σ β
  | .done s a, k => (k a).run s
  | .paused s wakes rest, k => .paused s wakes (Course.follow rest k)

end

mutual

/-- A course that may be stopped at the end of a pause, given what the pause was to end with and the
state. Its pauses may also end with something more. -/
def Course.guarded {σ α ε : Type} (more : List Wake) (stop : List Wake → σ → Option ε) :
    Course σ α → Course σ (Except ε α)
  | .go f => .go fun s => Stage.guarded more stop (f s)

/-- What work comes to that may be stopped at the end of a pause. -/
def Stage.guarded {σ α ε : Type} (more : List Wake) (stop : List Wake → σ → Option ε) :
    Stage σ α → Stage σ (Except ε α)
  | .done s a => .done s (.ok a)
  | .paused s wakes rest =>
    .paused s (more ++ wakes) (.go fun s =>
      match stop wakes s with
      | some e => .done s (.error e)
      | none => (Course.guarded more stop rest).run s)

end

namespace Course

variable {σ α β : Type}

/-- A course with another one after it, which starts at once if the first does not pause. -/
@[inline] def andThen (c : Course σ α) (k : α → Course σ β) : Course σ β :=
  .go fun s =>
    match c.run s with
    | .done s a => (k a).run s
    | .paused s wakes rest => .paused s wakes (rest.follow k)

instance : Monad (Course σ) where
  pure a := .go fun s => .done s a
  bind := andThen

instance : MonadStateOf σ (Course σ) where
  get := .go fun s => .done s s
  set s := .go fun _ => .done s ⟨⟩
  modifyGet f := .go fun s => .done (f s).2 (f s).1

/-- A pause. -/
def pause (wakes : List Wake) : Course σ Unit := .go fun s => .paused s wakes (pure ⟨⟩)

/-- Whether the next course starts at once makes no difference. -/
theorem andThen_eq_follow (c : Course σ α) (k : α → Course σ β) : c.andThen k = c.follow k := by
  obtain ⟨f⟩ := c
  unfold andThen follow
  congr
  funext s
  cases h : f s with
  | done s a => simp only [run, h, Stage.follow]
  | paused s wakes rest =>
    cases rest
    simp only [run, h, Stage.follow, follow]

end Course

end BuildingModel.Sandbox.Shell
