import ResourceEditor.Command.Assignment
/-
This file follows forms through the edits of command lines: each edit leaves alone all of the
session but its form, and what each does to the form they do together.
-/

namespace ResourceEditor

namespace Editing

variable {α β : Type} {schema : Schema} {along : Record → Record → Prop}

/-- Work on a form of a schema changes nothing of its session but the form, and that as said. -/
def Moves (schema : Schema) (along : Record → Record → Prop) (edits : Editing α) : Prop :=
  ∀ target model, ∃ next,
    (edits.run.run (Session.ofModel schema target model)).2 =
      Session.ofModel schema target next ∧ along model next

theorem run_attempt (change : Schema → Record → Except EditError Record) {session : Session}
    (isOpen : session.closed = false) (model : Record) :
    (attempt change).run { session with model } =
      match change session.schema model with
      | .ok next => (.ok (), { session with model := next })
      | .error error => (.error (.edit error), { session with model }) := by
  unfold attempt Session.edit
  simp only [StateT.run, modifyGet, MonadStateOf.modifyGet, StateT.modifyGet, isOpen,
    Bool.false_eq_true, if_false]
  cases change session.schema model <;> rfl

/-- Work goes on with what an edit answers, on the form that the edit leaves. -/
theorem run_attempt_bind (change : Schema → Record → Except EditError Record)
    (next : Except EditorError Unit → Editing β) {session : Session}
    (isOpen : session.closed = false) (model : Record) :
    (liftM (attempt change) >>= next : Editing β).run.run { session with model } =
      match change session.schema model with
      | .ok changed => (next (.ok ())).run.run { session with model := changed }
      | .error error => (next (.error (.edit error))).run.run { session with model } := by
  have ran : (liftM (attempt change) >>= next : Editing β).run.run { session with model } =
      let (result, last) := (attempt change).run { session with model }
      (next result).run.run last := rfl
  rw [ran, run_attempt change isOpen]
  cases change session.schema model <;> rfl

section Closure

variable (stays : ∀ model, along model model)
  (joins : ∀ first second third, along first second → along second third → along first third)

include stays in
theorem moves_pure (value : α) : Moves schema along (pure value) :=
  fun _ model => ⟨model, rfl, stays model⟩

include stays in
theorem moves_throw (error : CommandError) : Moves schema along (throw error : Editing α) :=
  fun _ model => ⟨model, rfl, stays model⟩

include joins in
theorem Moves.bind {edits : Editing α} {next : α → Editing β}
    (first : Moves schema along edits) (later : ∀ value, Moves schema along (next value)) :
    Moves schema along (edits >>= next) := by
  intro target model
  obtain ⟨between, same, here⟩ := first target model
  cases ran : edits.run.run (Session.ofModel schema target model) with
  | mk result session =>
      rw [ran] at same
      dsimp only at same
      rw [ExceptT.run_bind, StateT.run_bind, ran, same]
      cases result with
      | ok value =>
          obtain ⟨last, last_eq, there⟩ := later value target between
          exact ⟨last, last_eq, joins _ _ _ here there⟩
      | error error => exact ⟨between, rfl, here⟩

include stays joins in
theorem moves_forM {items : List α} {edit : α → Editing Unit}
    (each : ∀ item ∈ items, Moves schema along (edit item)) :
    Moves schema along (items.forM edit) := by
  induction items with
  | nil => exact moves_pure stays ()
  | cons item rest ih =>
      obtain ⟨here, others⟩ := List.forall_mem_cons.mp each
      exact here.bind joins fun _ => ih others

include stays in
/-- An edit that is refused changes nothing. -/
theorem moves_attempt {change : Schema → Record → Except EditError Record}
    (changes : ∀ model next, change schema model = .ok next → along model next) :
    Moves schema along (liftM (attempt change)) := by
  intro target model
  have ran : ((liftM (attempt change) : Editing _).run.run
      (Session.ofModel schema target model)).2 =
        ((attempt change).run { Session.ofModel schema target model with model }).2 := rfl
  have isOpen : (Session.ofModel schema target model).closed = false := rfl
  rw [ran, run_attempt change isOpen]
  dsimp only [Session.ofModel]
  cases changed : change schema model with
  | error error => exact ⟨model, rfl, stays model⟩
  | ok next => exact ⟨next, rfl, changes model next changed⟩

include stays in
/-- What is read from a text is there at once, or there is nothing to do. -/
theorem moves_read {result : Except CommandError α} {next : α → Editing β}
    (later : ∀ value, result = .ok value → Moves schema along (next value)) :
    Moves schema along (liftM result >>= next) := by
  cases result with
  | error error => exact moves_throw stays error
  | ok value => exact later value rfl

include stays in
theorem moves_orFail (resource : Resource) (result : Except EditorError Unit) :
    Moves schema along (orFail resource result) := by
  cases result with
  | ok value => exact moves_pure stays value
  | error error => exact moves_throw stays _

variable (grows : ∀ list model next, Record.append schema model list = .ok next → along model next)

include stays joins grows in
theorem moves_assign {path : Path} {raw : String} (resource : Resource)
    (sets : ∀ model next, Record.setScalar schema model path raw = .ok next → along model next) :
    Moves schema along (assign resource path raw) := by
  rw [assign]
  induction listCount path with
  | zero =>
      rw [assignWithin]
      exact (moves_attempt stays sets).bind joins (moves_orFail stays resource)
  | succ count ih =>
      rw [assignWithin]
      refine (moves_attempt stays sets).bind joins fun result => ?_
      cases missingEntry? result with
      | none => exact moves_orFail stays resource result
      | some list =>
          refine (moves_attempt stays (grows list)).bind joins fun grown => ?_
          exact (moves_orFail stays resource grown).bind joins fun _ => ih

include stays joins grows in
theorem moves_assignAll {assignments : List String} (resource : Resource)
    (sets : ∀ raw ∈ assignments, ∀ path value, readAssignment raw = .ok (path, value) →
      ∀ model next, Record.setScalar schema model path value = .ok next → along model next) :
    Moves schema along (assignAll resource assignments) :=
  moves_forM stays joins fun raw member =>
    moves_read stays fun (path, value) read =>
      moves_assign stays joins grows resource (sets raw member path value read)

variable (sets : ∀ path raw model next,
  Record.setScalar schema model path raw = .ok next → along model next)

end Closure

end Editing

end ResourceEditor
