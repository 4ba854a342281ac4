import ResourceEditor.Proofs.Session.Run
import ResourceEditor.Schema.Catalog
/-
This file shows that the flag of a session is up exactly while one submit waits for the controller,
that no two submits wait, and that the flag comes down however a submit ends. It also shows that
closing a session is final: nothing that happens afterwards changes its form, sends a write or says
a word.
-/

namespace ResourceEditor

/-- The waiting submit that an event ends, by its position. -/
def Event.position? : Event → Option Nat
  | .answered position _ => some position
  | .dropped position => some position
  | _ => none

namespace Session

/-- One submit waits while the flag is up, and none otherwise. -/
def Exclusive (session : Session) : Prop := session.waiting.length = session.submitting.toNat

theorem ofModel_exclusive (schema : Schema) (target : Target) (model : Record) :
    (ofModel schema target model).Exclusive := rfl

theorem Exclusive.length_le {session : Session} (exclusive : session.Exclusive) :
    session.waiting.length ≤ 1 := by
  rw [exclusive]
  exact Bool.toNat_le _

theorem Exclusive.submitting_iff {session : Session} (exclusive : session.Exclusive) :
    session.isSubmitting = true ↔ ∃ write, session.waiting = [write] := by
  rw [← List.length_eq_one_iff, exclusive, isSubmitting]
  cases session.submitting <;> decide

theorem Exclusive.waiting_eq {session : Session} (exclusive : session.Exclusive) {position : Nat}
    {write : Write} (waits : session.waiting[position]? = some write) :
    position = 0 ∧ session.waiting = [write] := by
  obtain ⟨inside, same⟩ := List.getElem?_eq_some_iff.mp waits
  have single := exclusive.length_le
  have first : position = 0 := by omega
  subst first
  obtain ⟨only, waiting⟩ := List.length_eq_one_iff.mp (show session.waiting.length = 1 by omega)
  exact ⟨rfl, by simpa [waiting] using waits⟩

/-- The end of a submit takes the flag down, and nobody waits any more. -/
theorem Exclusive.finish {session : Session} (exclusive : session.Exclusive) {position : Nat}
    {write : Write} (waits : session.waiting[position]? = some write) :
    (session.finish position).submitting = false ∧ (session.finish position).waiting = [] := by
  obtain ⟨rfl, waiting⟩ := exclusive.waiting_eq waits
  exact ⟨rfl, by simp [Session.finish, waiting]⟩

theorem Transition.exclusive {session next : Session} {event : Event} {effect : Effect}
    (transition : Transition session event next effect) (exclusive : session.Exclusive) :
    next.Exclusive := by
  have ended {position : Nat} {write : Write} (waits : session.waiting[position]? = some write) :
      (session.finish position).Exclusive := by
    obtain ⟨down, nobody⟩ := exclusive.finish waits
    rw [Exclusive, down, nobody]
    rfl
  cases transition with
  | sent isOpen free valid =>
      have nobody : session.waiting.length = 0 := by rw [exclusive, free]; rfl
      simp [Exclusive, nobody]
  | unheard answer closed waits => exact ended waits
  | saved model isOpen waits => exact ended waits
  | failed failure isOpen waits => exact ended waits
  | dropped waits => exact ended waits
  | _ => exact exclusive

theorem after_exclusive {session : Session} (exclusive : session.Exclusive)
    (events : List Event) : (session.after events).Exclusive :=
  after_invariant Exclusive (fun _ event before => (step_transition _ event).exclusive before)
    session events exclusive

/-- Only a submit that begins puts the flag up. -/
theorem Transition.submitting_eq_false {session next : Session} {event : Event} {effect : Effect}
    (transition : Transition session event next effect) (free : session.submitting = false)
    (quiet : event.isBegin = false) : next.submitting = false := by
  cases transition with
  | sent => cases quiet
  | unheard | saved | failed | dropped => rfl
  | _ => exact free

theorem after_submitting {session : Session} (free : session.submitting = false)
    {events : List Event} (quiet : ∀ event ∈ events, event.isBegin = false) :
    (session.after events).submitting = false := by
  induction events generalizing session with
  | nil => exact free
  | cons event rest ih =>
      obtain ⟨first, others⟩ := List.forall_mem_cons.mp quiet
      exact ih ((session.step_transition event).submitting_eq_false free first) others

/-- A submit called while another one waits changes nothing. -/
theorem begin_busy {session : Session} (isOpen : session.closed = false)
    (held : session.submitting = true) :
    session.step .begin = (session, { answer := .alreadySubmitting }) := by
  simp [step, begin, acquire?, isOpen, held]

theorem begin_sends {session : Session} (isOpen : session.closed = false)
    (free : session.submitting = false)
    (valid : session.model.violations session.schema = []) :
    session.step .begin =
      ({ session with submitting := true, waiting := session.waiting ++ [session.write] },
        { answer := .pending, sent := some session.write }) := by
  simp [step, begin, acquire?, isOpen, free, valid, write]

/-- After the end of a waiting submit, and after one that was invalid, the flag is down. -/
theorem Exclusive.ended {session : Session} (exclusive : session.Exclusive) {event : Event}
    (ends : (∃ position ∈ event.position?, position < session.waiting.length) ∨
      ∃ violations, (session.step event).2.answer = .invalid violations) :
    (session.step event).1.submitting = false := by
  rcases ends with ⟨position, asked, inside⟩ | ⟨violations, invalid⟩
  · obtain ⟨write, waits⟩ : ∃ write, session.waiting[position]? = some write :=
      ⟨_, List.getElem?_eq_getElem inside⟩
    have down := (exclusive.finish waits).1
    cases event with
    | answered other answer =>
        cases asked
        rw [step, reply, waits]
        dsimp only
        split
        · exact down
        · cases answer <;> exact down
    | dropped other =>
        cases asked
        rw [step, abandon, waits]
        exact down
    | _ => cases asked
  · have transition := session.step_transition event
    generalize session.step event = stepped at transition invalid
    obtain ⟨next, effect⟩ := stepped
    cases transition with
    | invalid isOpen free found some => exact free
    | _ => cases invalid

/-- One submit at most has a write in flight, and the flag says whether one has. Whoever comes in
between changes nothing, and after every end of a submit the next valid form is sent again. -/
theorem submits_exclusive (schema : Schema) (target : Target) (model : Record)
    (events : List Event) :
    let session := (ofModel schema target model).after events
    (session.isSubmitting = true ↔ ∃ write, session.waiting = [write]) ∧
      session.waiting.length ≤ 1 ∧
      (session.closed = false → session.isSubmitting = true →
        session.step .begin = (session, { answer := .alreadySubmitting })) ∧
      ∀ event,
        ((∃ position ∈ event.position?, position < session.waiting.length) ∨
          ∃ violations, (session.step event).2.answer = .invalid violations) →
        ∀ quiet : List Event, (∀ other ∈ quiet, other.isBegin = false) →
          let next := (session.step event).1.after quiet
          next.isSubmitting = false ∧ next.waiting = [] ∧
            (next.closed = false → next.model.violations schema = [] →
              (next.step .begin).2 =
                { answer := .pending, sent := some ⟨target, next.model.pruned⟩ }) := by
  intro session
  have exclusive : session.Exclusive :=
    after_exclusive (ofModel_exclusive schema target model) events
  refine ⟨exclusive.submitting_iff, exclusive.length_le, begin_busy, ?_⟩
  intro event ends quiet noBegin next
  have free : next.submitting = false := after_submitting (exclusive.ended ends) noBegin
  have stepped : next.Exclusive :=
    after_exclusive ((session.step_transition event).exclusive exclusive) quiet
  have nobody : next.waiting = [] := by
    rw [← List.length_eq_zero_iff, stepped, free]
    rfl
  have sameSchema : next.schema = schema := by
    simp [next, session, (step_transition _ event).schema_eq, ofModel]
  have sameTarget : next.target = target := by
    simp [next, session, (step_transition _ event).target_eq, ofModel]
  refine ⟨free, nobody, ?_⟩
  intro isOpen valid
  rw [begin_sends isOpen free (by rw [sameSchema]; exact valid), write, sameTarget]

/-- A node's form that lacks nothing. -/
def completeNode : Record :=
  [("name", .text "edge-1"), ("location", .text "lab"), ("serial", .text "SN-1")]

def rename (name : String) : Event := .edit fun form => .ok (Members.set form "name" (.text name))

/-- The first of two submits of a node fails, the form is edited, and the third submit is sent. -/
theorem node_submits_exclusive :
    let session := (ofModel .node (.create "/nodes") completeNode).after [.begin]
    let next := (session.step (.reply (.error (.unreachable "refused")))).1.after [rename "edge-2"]
    (session.closed = false ∧ session.isSubmitting = true ∧
        session.step .begin = (session, { answer := .alreadySubmitting })) ∧
      next.closed = false ∧ next.model.violations .node = [] ∧
      (next.step .begin).2 =
        { answer := .pending, sent := some ⟨.create "/nodes", next.model.pruned⟩ } := by
  intro session next
  obtain ⟨_, _, busy, again⟩ :=
    submits_exclusive .node (.create "/nodes") completeNode [.begin]
  have isOpen : session.closed = false := by decide
  have held : session.isSubmitting = true := by decide
  have reopened : next.closed = false := by decide
  have valid : next.model.violations .node = [] := by decide
  obtain ⟨_, _, sends⟩ := again (.reply (.error (.unreachable "refused")))
    (.inl ⟨0, rfl, by decide⟩) [rename "edge-2"] (by simp [Event.isBegin, rename])
  exact ⟨⟨isOpen, held, busy isOpen held⟩, reopened, valid, sends reopened valid⟩

end Session

/-- Nothing of an effect can be noticed but the answer to the one who asked. -/
structure Effect.IsSilent (effect : Effect) : Prop where
  notice : effect.notice = none
  sent : effect.sent = none
  published : effect.published = none

namespace Session

theorem Transition.silent {session next : Session} {event : Event} {effect : Effect}
    (transition : Transition session event next effect) (closed : session.closed = true) :
    effect.IsSilent := by
  cases transition with
  | refused edits isOpen => rw [closed] at isOpen; cases isOpen
  | edited model edits isOpen => rw [closed] at isOpen; cases isOpen
  | sent isOpen => rw [closed] at isOpen; cases isOpen
  | saved model isOpen => rw [closed] at isOpen; cases isOpen
  | failed failure isOpen => rw [closed] at isOpen; cases isOpen
  | _ => exact ⟨rfl, rfl, rfl⟩

/-- A closed session stays closed and keeps its form. -/
theorem Transition.keeps {session next : Session} {event : Event} {effect : Effect}
    (transition : Transition session event next effect) (closed : session.closed = true) :
    next.closed = true ∧ next.model = session.model := by
  cases transition with
  | edited model edits isOpen => rw [closed] at isOpen; cases isOpen
  | closing => exact ⟨rfl, rfl⟩
  | _ => exact ⟨closed, rfl⟩

theorem after_keeps {session : Session} (closed : session.closed = true) (events : List Event) :
    (session.after events).closed = true ∧ (session.after events).model = session.model := by
  refine after_invariant (fun reached => reached.closed = true ∧ reached.model = session.model)
    ?_ session events ⟨closed, rfl⟩
  intro reached event ⟨stillClosed, same⟩
  obtain ⟨nextClosed, nextSame⟩ := (reached.step_transition event).keeps stillClosed
  exact ⟨nextClosed, nextSame.trans same⟩

theorem effects_silent {session : Session} (closed : session.closed = true)
    (events : List Event) : ∀ effect ∈ session.effects events, effect.IsSilent :=
  forall_mem_effects Effect.IsSilent fun earlier event =>
    (step_transition _ event).silent (after_keeps closed earlier).1

theorem edit_closed {session : Session} (closed : session.closed = true)
    (change : Record → Except EditorError Record) :
    session.edit change = (session, { answer := .refused .sessionClosed }) := by
  rw [edit, if_pos closed]

theorem reopen_closed {session : Session} (closed : session.closed = true) :
    session.reopen = (session, { answer := .refused .sessionClosed }) := by
  rw [reopen, edit_closed closed]

theorem begin_closed {session : Session} (closed : session.closed = true) :
    session.begin = (session, { answer := .closed }) := by
  rw [begin, if_pos closed]

/-- The reply to a submit that still waits is thrown away, whatever it is. -/
theorem reply_closed {session : Session} (closed : session.closed = true) {position : Nat}
    {write : Write} (waits : session.waiting[position]? = some write)
    (answer : Except Failure Record) :
    session.reply position answer =
      (session.finish position, { answer := .closed, settled := some write }) := by
  rw [reply, waits]
  dsimp only
  rw [if_pos closed]

/-- Whatever happens after a session was closed, it stays closed with the form it had, every edit
and every reopening is refused, every submit is told that the session is closed, and nothing is
sent, published or noticed. -/
theorem close_final (schema : Schema) (target : Target) (model : Record)
    (earlier continuation : List Event) :
    let closing := (ofModel schema target model).after earlier
    let session := closing.after (.close :: continuation)
    session.closed = true ∧ session.model = closing.model ∧
      (∀ change, session.step (.edit change) =
        (session, { answer := .refused .sessionClosed })) ∧
      session.step .reopen = (session, { answer := .refused .sessionClosed }) ∧
      session.step .begin = (session, { answer := .closed }) ∧
      (∀ position write, session.waiting[position]? = some write → ∀ answer,
        (session.step (.answered position answer)).2 =
          { answer := .closed, settled := some write }) ∧
      ∀ effect ∈ closing.effects (.close :: continuation), effect.IsSilent := by
  intro closing session
  obtain ⟨closed, same⟩ : session.closed = true ∧ session.model = closing.model :=
    after_keeps rfl continuation
  refine ⟨closed, same, edit_closed closed, reopen_closed closed, begin_closed closed, ?_, ?_⟩
  · intro position write waits answer
    exact congrArg Prod.snd (reply_closed closed waits answer)
  · rw [effects_cons]
    exact List.forall_mem_cons.mpr ⟨⟨rfl, rfl, rfl⟩, effects_silent rfl continuation⟩

/-- A node is saved after its session was closed, and nobody hears of it. -/
theorem node_close_final :
    let start := ofModel .node (.create "/nodes") completeNode
    let session := start.after [.begin, .close, rename "edge-2"]
    session.waiting[0]? = some start.write ∧
      (session.step (.reply (.ok completeNode))).2 =
        { answer := .closed, settled := some start.write } := by
  intro start session
  have waits : session.waiting[0]? = some start.write := by
    change (start.after [.begin, .close, rename "edge-2"]).waiting[0]? = _
    rw [after_cons, begin_sends rfl rfl (by decide)]
    rfl
  obtain ⟨_, _, _, _, _, unheard, _⟩ :=
    close_final .node (.create "/nodes") completeNode [.begin] [rename "edge-2"]
  exact ⟨waits, unheard 0 start.write waits (.ok completeNode)⟩

end Session

end ResourceEditor
