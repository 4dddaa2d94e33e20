import BridgeCode.Proofs.Run.Plan

/-!
The course of a run, whatever its generators do.

Which steps a run takes is fixed by its settings, its declarations and the generators that are at
hand: `course` lists them. What a generator does is not: making it and every hook of it may change
the world and may fail in any way. A hook is called on the generator that was made last, so steps
hand a generator on (`Move.perform`).

* `generate_follows_course`: a run takes the steps of its course one after the other, up to the end
  or up to the first that fails, and answers with what became of that step.
-/

namespace BridgeCode

/-- A declaration as it is handed to a generator. -/
inductive Hook where
  | enum (origin name : String) (doc : Doc) (body : EnumBody)
  | record (origin name : String) (doc : Doc) (params : List String) (fields : List Field)
  | interface (origin name : String) (doc : Doc) (params : List String) (methods : List Method)

/-- Calls the hook of a generator. -/
def Hook.call (backend : Backend) : Hook → Emission Unit
  | .enum origin name doc body => backend.enum origin name doc body
  | .record origin name doc params fields => backend.record origin name doc params fields
  | .interface origin name doc params methods => backend.interface origin name doc params methods

/-- A step of a run with any generators. -/
inductive Move where
  /-- A list of output files is attached. -/
  | attach (path : String)
  /-- A step that no generator has a part in. -/
  | own (step : Step)
  /-- A generator is made. -/
  | make (factory : BackendFactory)
  /-- A hook of the generator that was made last is called. -/
  | hook (request : Hook)

/-- Takes a step with the generator in hand, and hands on the generator for the next one. -/
def Move.perform (context : Context) (decls : List TypeDecl) (hand : Option Backend) :
    Move → Emission (Option Backend)
  | .attach path => do
    .attachList path
    return hand
  | .own step => do
    step.perform context.emitter
    return hand
  | .make factory => do
    let backend ← factory context decls
    return some backend
  | .hook request => do
    match hand with
    | some backend => request.call backend
    | none => pure ()
    return hand

/-! ## The course of a run -/

/-- What is done with a declaration: the hook of its kind, or an error. -/
def TypeDecl.move (decl : TypeDecl) : Move :=
  match decl.body with
  | .enum body =>
    if decl.params = [] then .hook (.enum decl.origin decl.name decl.doc body)
    else .own (.stop (.enumWithParams decl.name decl.origin))
  | .record fields => .hook (.record decl.origin decl.name decl.doc decl.params fields)
  | .interface methods => .hook (.interface decl.origin decl.name decl.doc decl.params methods)
  | .unsupported _ raw => .own (.stop (.unsupportedKind decl.origin raw))

/-- What precedes the generator of a slot: a mark in the journal, the folders, a line in the log. -/
def Slot.preparation (config : Config) (slot : Slot) : List Step :=
  [.enter slot] ++
    (slot.folders config).map (fun folder => .call (.createFolder folder.name folder.path)) ++
    [.announce slot]

/-- The steps of an enabled slot. A slot without a generator has none of its folders created. -/
def Slot.course (registry : Registry) (config : Config) (decls : List TypeDecl) (slot : Slot) :
    List Move :=
  match registry slot with
  | none => [.own (.stop (.missingBackend slot.key slot.label))]
  | some factory =>
    (slot.preparation config).map .own ++
      .make factory :: (decls.filter (·.isLocal)).map TypeDecl.move

/-- The step that attaches the configured list of output files, unless the session has it. -/
def attachMoves (config : Config) (session : Session) : List Move :=
  match config.outFileList with
  | none => []
  | some path => if session.writesManifestTo path then [] else [.attach path]

/-- The steps of a run in a session. -/
def course (registry : Registry) (config : Config) (decls : List TypeDecl) (session : Session) :
    List Move :=
  attachMoves config session ++
    (Slot.all.filter (·.enabled config)).flatMap (Slot.course registry config decls)

/-- Steps that all succeed lead from one world to another. -/
inductive Passes (context : Context) (decls : List TypeDecl) :
    List Move → Option Backend → World → Option Backend → World → Prop
  | done {hand world} : Passes context decls [] hand world hand world
  | next {move moves hand hand' hand'' world middle after} :
      (move.perform context decls hand).runOn world = (.ok hand', middle) →
      Passes context decls moves hand' middle hand'' after →
      Passes context decls (move :: moves) hand world hand'' after

/-! ## A run takes the steps of its course -/

namespace Move

variable (context : Context) (decls : List TypeDecl)

/-- Takes steps until one fails. -/
def performAll (moves : List Move) (hand : Option Backend) : Emission (Option Backend) :=
  moves.foldlM (perform context decls) hand

theorem performAll_cons (move : Move) (moves : List Move) (hand : Option Backend) :
    performAll context decls (move :: moves) hand =
      move.perform context decls hand >>= performAll context decls moves :=
  List.foldlM_cons

theorem performAll_append (front back : List Move) (hand : Option Backend) :
    performAll context decls (front ++ back) hand =
      performAll context decls front hand >>= performAll context decls back :=
  List.foldlM_append

/-- Steps succeed to the last, or up to one that fails. -/
theorem performAll_cases (moves : List Move) (hand : Option Backend) (world : World) :
    (∃ hand' after, Passes context decls moves hand world hand' after ∧
      (performAll context decls moves hand).runOn world = (.ok hand', after)) ∨
    ∃ front move back hand' middle fault after, moves = front ++ move :: back ∧
      Passes context decls front hand world hand' middle ∧
      (move.perform context decls hand').runOn middle = (.error fault, after) ∧
      (performAll context decls moves hand).runOn world = (.error fault, after) := by
  induction moves generalizing hand world with
  | nil => exact .inl ⟨hand, world, .done, rfl⟩
  | cons move moves ih =>
      rw [performAll_cons]
      rcases step : (move.perform context decls hand).runOn world with ⟨fault | next, middle⟩
      · rw [Emission.runOn_bind_error step]
        exact .inr ⟨[], move, moves, hand, world, fault, middle, rfl, .done, step, rfl⟩
      · rw [Emission.runOn_bind_ok step]
        rcases ih next middle with ⟨hand', after, passes, ran⟩ |
          ⟨front, failing, back, hand', before, fault, after, rfl, passes, failed, ran⟩
        · exact .inl ⟨hand', after, .next step passes, ran⟩
        · exact .inr ⟨move :: front, failing, back, hand', before, fault, after, rfl,
            .next step passes, failed, ran⟩

/-- Steps of the run's own leave the generator in hand as it is. -/
theorem performAll_own (steps : List Step) (hand : Option Backend) :
    performAll context decls (steps.map .own) hand =
      Step.performAll context.emitter steps >>= fun _ => pure hand := by
  induction steps with
  | nil => exact (pure_bind _ _).symm
  | cons step steps ih =>
      rw [List.map_cons, performAll_cons, Step.performAll_cons, bind_assoc]
      simp only [perform, bind_assoc, pure_bind]
      exact congrArg _ (funext fun _ => ih)

/-- Handing one declaration on is the step for it. -/
theorem perform_decl (backend : Backend) {decl : TypeDecl} (isLocal : decl.isLocal = true) :
    decl.move.perform context decls (some backend) =
      backend.generateOne decl >>= fun _ => pure (some backend) := by
  unfold TypeDecl.move Backend.generateOne
  rw [if_pos isLocal]
  cases decl.body with
  | enum body =>
      dsimp only
      cases decl.params with
      | nil => rfl
      | cons param params => rfl
  | record fields => rfl
  | interface methods => rfl
  | unsupported kind raw => rfl

/-- A generator is handed the declarations that are defined here, in their order. -/
theorem performAll_decls (backend : Backend) (handed : List TypeDecl) :
    performAll context decls ((handed.filter (·.isLocal)).map TypeDecl.move) (some backend) =
      backend.generateAll handed >>= fun _ => pure (some backend) := by
  induction handed with
  | nil => exact (pure_bind _ _).symm
  | cons decl handed ih =>
      have split : backend.generateAll (decl :: handed) =
          backend.generateOne decl >>= fun _ => backend.generateAll handed := rfl
      rw [split, bind_assoc]
      cases isLocal : decl.isLocal with
      | true =>
          rw [List.filter_cons_of_pos isLocal, List.map_cons, performAll_cons,
            perform_decl context decls backend isLocal, bind_assoc]
          refine congrArg _ (funext fun _ => ?_)
          rw [pure_bind, ih]
      | false =>
          have passed : backend.generateOne decl = pure () := by
            unfold Backend.generateOne
            rw [if_neg (by simp [isLocal])]
          rw [List.filter_cons_of_neg (by simp [isLocal]), ih, passed, pure_bind]

theorem performAll_make (factory : BackendFactory) (moves : List Move) (hand : Option Backend) :
    performAll context decls (.make factory :: moves) hand =
      factory context decls >>= fun backend => performAll context decls moves (some backend) := by
  rw [performAll_cons]
  simp only [perform, bind_assoc, pure_bind]

theorem performAll_preparation (slot : Slot) :
    Step.performAll context.emitter (slot.preparation context.config) = (do
      .note (.entered slot)
      (slot.folders context.config).forM fun folder =>
        context.emitter.createFolder folder.name folder.path
      .say (·.debug ("Generating " ++ slot.label ++ "...") none)) := by
  unfold Slot.preparation
  rw [Step.performAll_append, Step.performAll_append, Step.performAll_folders,
    Step.performAll_singleton, Step.performAll_singleton, bind_assoc]
  rfl

/-- A slot that is enabled is run as its course says, whichever generator was in hand before. -/
theorem discard_performAll_slot (registry : Registry) {slot : Slot}
    (enabled : slot.enabled context.config = true) (hand : Option Backend) :
    (performAll context decls (slot.course registry context.config decls) hand >>=
      fun _ => pure ()) = runSlot registry context decls slot := by
  unfold Slot.course runSlot
  rw [if_pos enabled]
  cases registry slot with
  | none => rfl
  | some factory =>
      dsimp only
      rw [performAll_append, performAll_own, performAll_preparation]
      simp only [bind_assoc, pure_bind]
      -- Mark, folders and line are the same; what is left is the generator.
      refine congrArg _ (funext fun _ => congrArg _ (funext fun _ => congrArg _ ?_))
      refine funext fun _ => ?_
      rw [performAll_make, bind_assoc]
      refine congrArg _ (funext fun backend => ?_)
      rw [performAll_decls, bind_assoc]
      simp only [pure_bind]
      exact bind_pure _

/-- Slots are run as the courses of those that are enabled say. -/
theorem performAll_slots (registry : Registry) (slots : List Slot) (hand : Option Backend) :
    (performAll context decls ((slots.filter (·.enabled context.config)).flatMap
      (Slot.course registry context.config decls)) hand >>= fun _ => pure ()) =
        slots.forM (runSlot registry context decls) := by
  induction slots generalizing hand with
  | nil => exact pure_bind _ _
  | cons slot slots ih =>
      have split : (slot :: slots).forM (runSlot registry context decls) =
          runSlot registry context decls slot >>= fun _ =>
            slots.forM (runSlot registry context decls) := rfl
      rw [split]
      cases enabled : slot.enabled context.config with
      | true =>
          rw [List.filter_cons_of_pos enabled, List.flatMap_cons, performAll_append, bind_assoc,
            ← discard_performAll_slot context decls registry enabled hand, bind_assoc]
          refine congrArg _ (funext fun next => ?_)
          rw [pure_bind, ih]
      | false =>
          have passed : runSlot registry context decls slot = pure () := by
            unfold runSlot
            rw [if_neg (by simp [enabled])]
          rw [List.filter_cons_of_neg (by simp [enabled]), ih, passed, pure_bind]

end Move

/-- A run takes the steps of its course. -/
theorem runSlots_course (registry : Registry) (config : Config) (decls : List TypeDecl)
    (world : World) :
    (runSlots registry config decls).runOn world =
      (Move.performAll ⟨config, { skip := config.skipGeneration }⟩ decls
        (course registry config decls world.session) none >>= fun _ => pure ()).runOn world := by
  have slots := Move.performAll_slots ⟨config, { skip := config.skipGeneration }⟩ decls registry
    Slot.all none
  unfold runSlots course attachOutFileList attachMoves
  rw [Move.performAll_append, bind_assoc]
  cases config.outFileList with
  | none => exact congrArg (Emission.runOn · world) (congrArg _ (funext fun _ => slots.symm))
  | some path =>
      dsimp only
      rw [bind_assoc, Emission.runOn_bind_ok (Emission.runOn_get world)]
      cases world.session.writesManifestTo path with
      | true => exact congrArg (Emission.runOn · world) (congrArg _ (funext fun _ => slots.symm))
      | false =>
          rw [if_neg (by simp), if_neg (by simp), Move.performAll_cons]
          simp only [Move.perform, bind_assoc, pure_bind]
          refine congrArg (Emission.runOn · world) (congrArg _ (funext fun _ => slots.symm))

/-- A run takes the steps of its course one after the other. It answers nothing if all of them
succeed. Otherwise it ends with the first that fails: an error of generation is answered with its
message, and any other fault is passed on. -/
theorem generate_follows_course (registry : Registry) (config : Config) (decls : List TypeDecl)
    (world : World) :
    (∃ hand after,
      Passes ⟨config, { skip := config.skipGeneration }⟩ decls
        (course registry config decls world.session) none world hand after ∧
      (generate registry config decls).runOn world = (.ok none, after)) ∨
    ∃ front move back hand middle fault after,
      course registry config decls world.session = front ++ move :: back ∧
      Passes ⟨config, { skip := config.skipGeneration }⟩ decls front none world hand middle ∧
      (move.perform ⟨config, { skip := config.skipGeneration }⟩ decls hand).runOn middle =
        (.error fault, after) ∧
      (generate registry config decls).runOn world =
        (match fault with
          | .generate error => .ok (some error.message)
          | other => .error other, after) := by
  rw [runOn_generate, runSlots_course]
  rcases Move.performAll_cases ⟨config, { skip := config.skipGeneration }⟩ decls
      (course registry config decls world.session) none world with
    ⟨hand, after, passes, ran⟩ |
    ⟨front, move, back, hand, middle, fault, after, divided, passes, failed, ran⟩
  · refine .inl ⟨hand, after, passes, ?_⟩
    rw [Emission.runOn_bind_ok ran]
    rfl
  · refine .inr ⟨front, move, back, hand, middle, fault, after, divided, passes, failed, ?_⟩
    rw [Emission.runOn_bind_error ran]
    cases fault <;> rfl

end BridgeCode
