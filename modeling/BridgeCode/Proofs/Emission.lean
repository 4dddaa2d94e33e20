import BridgeCode.Emit.Emitter

/-!
How actions of a run unfold on a world.

`Emission.runOn` is computed step by step: a sequence runs its first part and goes on from the world
that part left, unless it failed. `Emission.Moves` lifts what single actions do to the world to
sequences of them: a relation between worlds that holds before and after every part of an action
holds across the whole, also where a part of it fails.
-/

namespace BridgeCode

/-- A sequence of actions that can fail runs the first and, unless that fails, goes on from the
state it left. -/
theorem run_bind_state {σ ε α β : Type} (action : ExceptT ε (StateM σ) α)
    (next : α → ExceptT ε (StateM σ) β) (state : σ) :
    (ExceptT.run (action >>= next)).run state =
      match (ExceptT.run action).run state with
      | (.ok value, after) => (ExceptT.run (next value)).run after
      | (.error error, after) => (.error error, after) := by
  show (StateT.bind action (ExceptT.bindCont next)) state = _
  unfold StateT.bind
  show (match action state with | (value, after) => ExceptT.bindCont next value after) = _
  rcases step : (ExceptT.run action).run state with ⟨result, after⟩
  have step : action state = (result, after) := step
  rw [step]
  cases result <;> rfl

namespace Emission

variable {α β : Type}

@[simp]
theorem runOn_pure (value : α) (world : World) :
    (pure value : Emission α).runOn world = (.ok value, world) := rfl

@[simp]
theorem runOn_get (world : World) : (get : Emission World).runOn world = (.ok world, world) := rfl

@[simp]
theorem runOn_modify (change : World → World) (world : World) :
    (modify change : Emission Unit).runOn world = (.ok (), change world) := rfl

@[simp]
theorem runOn_throw (fault : Fault) (world : World) :
    (throw fault : Emission α).runOn world = (.error fault, world) := rfl

@[simp]
theorem runOn_failWith (error : GenerateError) (world : World) :
    (failWith error : Emission α).runOn world = (.error (.generate error), world) := rfl

@[simp]
theorem runOn_note (event : Event) (world : World) :
    (note event).runOn world = (.ok (), { world with journal := world.journal ++ [event] }) := rfl

@[simp]
theorem runOn_say (lines : Logger → List LogLine) (world : World) :
    (say lines).runOn world =
      (.ok (), { world with printed := world.printed ++ lines world.logger }) := rfl

@[simp]
theorem runOn_modifySession (change : Session → Session) (world : World) :
    (modifySession change).runOn world =
      (.ok (), { world with session := change world.session }) := rfl

theorem runOn_bind (action : Emission α) (next : α → Emission β) (world : World) :
    (action >>= next).runOn world =
      match action.runOn world with
      | (.ok value, after) => (next value).runOn after
      | (.error fault, after) => (.error fault, after) := by
  have unfolded := run_bind_state action next world
  unfold runOn
  rw [unfolded]
  rcases (ExceptT.run action).run world with ⟨fault | value, after⟩ <;> rfl

/-- A part that succeeds hands its value and its world on. -/
theorem runOn_bind_ok {action : Emission α} {world after : World} {value : α}
    (step : action.runOn world = (.ok value, after)) (next : α → Emission β) :
    (action >>= next).runOn world = (next value).runOn after := by
  rw [runOn_bind, step]

/-- A part that fails ends the whole. -/
theorem runOn_bind_error {action : Emission α} {world after : World} {fault : Fault}
    (step : action.runOn world = (.error fault, after)) (next : α → Emission β) :
    (action >>= next).runOn world = (.error fault, after) := by
  rw [runOn_bind, step]

theorem runOn_forM_cons (item : α) (items : List α) (action : α → Emission PUnit)
    (world : World) :
    ((item :: items).forM action).runOn world =
      match (action item).runOn world with
      | (.ok _, after) => (items.forM action).runOn after
      | (.error fault, after) => (.error fault, after) := by
  have unfolded : (item :: items).forM action = action item >>= fun _ => items.forM action := rfl
  rw [unfolded, runOn_bind]
  rcases (action item).runOn world with ⟨fault | value, after⟩ <;> rfl

@[simp]
theorem runOn_discard (action : Emission α) (world : World) :
    (discard action).runOn world =
      ((action.runOn world).1.map fun _ => (), (action.runOn world).2) := by
  have unfolded : (discard action : Emission PUnit) = action >>= fun _ => pure () := rfl
  rw [unfolded, runOn_bind]
  rcases action.runOn world with ⟨fault | value, after⟩ <;> rfl

/-! ## What actions do to the world -/

/-- Before and after an action the world is related by `R`, whether the action succeeds or not. -/
def Moves (R : World → World → Prop) (action : Emission α) : Prop :=
  ∀ world, R world (action.runOn world).2

section Moves

variable {R : World → World → Prop}

theorem Moves.pure (refl : ∀ world, R world world) (value : α) :
    Moves R (Pure.pure value : Emission α) := refl

theorem Moves.bind (trans : ∀ a b c, R a b → R b c → R a c) {action : Emission α}
    {next : α → Emission β} (first : Moves R action) (second : ∀ value, Moves R (next value)) :
    Moves R (action >>= next) := by
  intro world
  have step := first world
  rw [runOn_bind]
  rcases ran : action.runOn world with ⟨fault | value, after⟩
  · rw [ran] at step
    exact step
  · rw [ran] at step
    exact trans _ _ _ step (second value after)

theorem Moves.forM (refl : ∀ world, R world world) (trans : ∀ a b c, R a b → R b c → R a c)
    {items : List α} {action : α → Emission PUnit} (each : ∀ item ∈ items, Moves R (action item)) :
    Moves R (items.forM action) := by
  induction items with
  | nil => exact Moves.pure refl _
  | cons item items ih =>
      refine Moves.bind trans (each item List.mem_cons_self) fun _ => ?_
      exact ih fun other member => each other (List.mem_cons_of_mem _ member)

end Moves

end Emission

end BridgeCode
