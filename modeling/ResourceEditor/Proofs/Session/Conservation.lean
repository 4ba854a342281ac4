import Mathlib.Data.List.Basic
import ResourceEditor.Proofs.Session.Exclusion
/-
This file keeps the books of a session: every write that was sent is settled once or still waited
for, every outcome has its notice, and what is sent is the form as it was when its submit began.
-/

namespace ResourceEditor

/-- How a submit that had sent its write came to its end. An unheard one found the session
closed. -/
inductive Ending where
  | submitted
  | failed
  | unheard
  | dropped
deriving DecidableEq

def Effect.ending? (effect : Effect) : Option Ending :=
  match effect.answer, effect.settled with
  | .submitted _, _ => some .submitted
  | .failed _, _ => some .failed
  | .closed, some _ => some .unheard
  | .done, some _ => some .dropped
  | _, _ => none

/-- The notice that an answer is due, with the text of a success. -/
def Answer.notice? (success : String) : Answer → Option Notice
  | .submitted _ => some (.success success)
  | .failed failure => some (.error failure.userMessage)
  | _ => none

theorem Ending.length_eq (endings : List Ending) :
    endings.length = endings.count .submitted + endings.count .failed + endings.count .unheard +
      endings.count .dropped := by
  induction endings with
  | nil => rfl
  | cons ending rest ih =>
      rw [List.length_cons, ih]
      cases ending <;> simp <;> omega

namespace Session

theorem Transition.ending_isSome {session next : Session} {event : Event} {effect : Effect}
    (transition : Transition session event next effect) :
    effect.ending?.isSome = effect.settled.isSome := by
  cases transition <;> rfl

theorem Transition.notice_eq {session next : Session} {event : Event} {effect : Effect}
    (transition : Transition session event next effect) :
    effect.notice = effect.answer.notice? session.successText := by
  cases transition <;> rfl

/-- Only a submit that begins sends, and it sends the form as it is, if that is valid. -/
theorem Transition.sent_eq {session next : Session} {event : Event} {effect : Effect}
    (transition : Transition session event next effect) {write : Write}
    (sent : effect.sent = some write) :
    event = .begin ∧ write = session.write ∧ session.model.violations session.schema = [] := by
  cases transition with
  | sent isOpen free valid => exact ⟨rfl, (Option.some.inj sent).symm, valid⟩
  | _ => cases sent

theorem Transition.model_eq {session next : Session} {event : Event} {effect : Effect}
    (transition : Transition session event next effect) (noEdit : event.isEdit = false) :
    next.model = session.model := by
  cases transition with
  | edited model edits => rw [edits] at noEdit; cases noEdit
  | _ => rfl

/-- A step moves a write from those sent to those waited for, and from there to those settled. -/
theorem Transition.conserves {session next : Session} {event : Event} {effect : Effect}
    (transition : Transition session event next effect) (exclusive : session.Exclusive) :
    session.waiting ++ effect.sent.toList = effect.settled.toList ++ next.waiting := by
  have ended {position : Nat} {write : Write} (waits : session.waiting[position]? = some write) :
      session.waiting ++ [] = [write] ++ (session.finish position).waiting := by
    rw [(exclusive.waiting_eq waits).2, (exclusive.finish waits).2]
  cases transition with
  | sent => rfl
  | unheard answer closed waits => exact ended waits
  | saved model isOpen waits => exact ended waits
  | failed failure isOpen waits => exact ended waits
  | dropped waits => exact ended waits
  | _ => exact List.append_nil _

theorem effects_conserve {session : Session} (exclusive : session.Exclusive)
    (events : List Event) :
    session.waiting ++ (session.effects events).filterMap Effect.sent =
      (session.effects events).filterMap Effect.settled ++ (session.after events).waiting := by
  induction events generalizing session with
  | nil => simp
  | cons event rest ih =>
      have transition := session.step_transition event
      have step := transition.conserves exclusive
      have later := ih (transition.exclusive exclusive)
      simp only [List.filterMap_eq_flatMap_toList, effects_cons, List.flatMap_cons,
        after_cons] at later ⊢
      rw [← List.append_assoc, step, List.append_assoc, later, List.append_assoc]

theorem effects_endings (session : Session) (events : List Event) :
    ((session.effects events).filterMap Effect.settled).length =
      ((session.effects events).filterMap Effect.ending?).length := by
  rw [List.length_filterMap_eq_countP, List.length_filterMap_eq_countP]
  apply List.countP_congr
  intro effect member
  have same := forall_mem_effects (fun effect => effect.ending?.isSome = effect.settled.isSome)
    (fun _ event => (step_transition _ event).ending_isSome) effect member
  rw [same]

theorem after_model {session : Session} {events : List Event}
    (noEdit : ∀ event ∈ events, event.isEdit = false) :
    (session.after events).model = session.model := by
  induction events generalizing session with
  | nil => rfl
  | cons event rest ih =>
      obtain ⟨first, others⟩ := List.forall_mem_cons.mp noEdit
      exact (ih others).trans ((session.step_transition event).model_eq first)

theorem effects_notices (session : Session) (events : List Event) :
    (session.effects events).filterMap Effect.notice =
      (session.effects events).filterMap fun effect =>
        effect.answer.notice? session.successText := by
  apply List.filterMap_congr
  apply forall_mem_effects
  intro earlier event
  have same : (session.after earlier).successText = session.successText := by
    rw [successText, successText, after_schema, after_target]
  rw [← same]
  exact (step_transition _ event).notice_eq

theorem effects_sent {session : Session} {events : List Event} {position : Nat} {write : Write}
    (sent : (session.effects events)[position]?.bind Effect.sent = some write) :
    let beginning := session.after (events.take position)
    events[position]? = some .begin ∧ write = ⟨session.target, beginning.model.pruned⟩ ∧
      beginning.model.violations session.schema = [] := by
  intro beginning
  rw [effects_getElem?] at sent
  obtain ⟨effect, found, sent⟩ := Option.bind_eq_some_iff.mp sent
  obtain ⟨event, there, rfl⟩ := Option.map_eq_some_iff.mp found
  obtain ⟨rfl, written, valid⟩ := (beginning.step_transition event).sent_eq sent
  rw [Session.write, after_target] at written
  rw [after_schema] at valid
  exact ⟨there, written, valid⟩

theorem Transition.failed_eq {session next : Session} {event : Event} {effect : Effect}
    (transition : Transition session event next effect) {failure : Failure}
    (failed : effect.answer = .failed failure) :
    next.closed = false ∧ next.submitting = false := by
  cases transition with
  | failed _ isOpen => exact ⟨isOpen, rfl⟩
  | _ => cases failed

/-- A submit that is repeated on the same form sends the same again. -/
theorem begin_again {first again : Session} {write : Write}
    (sent : (first.step .begin).2.sent = some write) (schema : again.schema = first.schema)
    (target : again.target = first.target) (model : again.model = first.model)
    (isOpen : again.closed = false) (free : again.submitting = false) :
    (again.step .begin).2.sent = some write := by
  obtain ⟨_, rfl, valid⟩ := (first.step_transition .begin).sent_eq sent
  rw [begin_sends isOpen free (by rw [schema, model, valid])]
  simp only [Session.write, target, model]

/-- Every write was sent once and is settled once or waited for; the outcomes have their notices in
order; a write is the form of the session as it was when its submit began, and was valid; no submit
changes the form, so that a failed one that is repeated sends the same again. -/
theorem writes_conserved (schema : Schema) (target : Target) (model : Record)
    (events : List Event) :
    let start := ofModel schema target model
    let session := start.after events
    let effects := start.effects events
    let sent := effects.filterMap Effect.sent
    let endings := effects.filterMap Effect.ending?
    (sent.length =
        endings.count .submitted + endings.count .failed + endings.count .unheard +
          endings.count .dropped + session.waiting.length ∧
      sent = effects.filterMap Effect.settled ++ session.waiting) ∧
    effects.filterMap Effect.notice =
      effects.filterMap (fun effect => effect.answer.notice? start.successText) ∧
    (∀ position write, effects[position]?.bind Effect.sent = some write →
      let beginning := start.after (events.take position)
      events[position]? = some .begin ∧ write = ⟨target, beginning.model.pruned⟩ ∧
        beginning.model.violations schema = []) ∧
    (∀ event, event.isEdit = false → (session.step event).1.model = session.model) ∧
    ∀ write, (session.step .begin).2.sent = some write →
      ∀ quiet position failure, (∀ event ∈ quiet, event.isEdit = false) →
        let failing := (session.after (.begin :: quiet)).step (.answered position (.error failure))
        failing.2.answer = .failed failure →
          failing.1.closed = false ∧ failing.1.isSubmitting = false ∧
            ∀ still, (∀ event ∈ still, event.isEdit = false) →
              let again := failing.1.after still
              again.closed = false → again.isSubmitting = false →
                (again.step .begin).2.sent = some write := by
  intro start session effects sent endings
  have exclusive : start.Exclusive := ofModel_exclusive schema target model
  have balance : sent = effects.filterMap Effect.settled ++ session.waiting :=
    effects_conserve exclusive events
  refine ⟨⟨?_, balance⟩, effects_notices start events, ?_, ?_, ?_⟩
  · have outcomes : (effects.filterMap Effect.settled).length = endings.length :=
      effects_endings start events
    rw [balance, List.length_append, outcomes, Ending.length_eq]
  · intro position write
    exact effects_sent
  · intro event noEdit
    exact (session.step_transition event).model_eq noEdit
  · intro write begun quiet position failure noEdit failing failed
    have transition := step_transition (session.after (.begin :: quiet))
      (.answered position (.error failure))
    obtain ⟨isOpen, free⟩ := transition.failed_eq failed
    refine ⟨isOpen, free, ?_⟩
    intro still noEditStill again againOpen againFree
    have sameModel : again.model = session.model := by
      rw [after_model noEditStill, transition.model_eq rfl,
        after_model (List.forall_mem_cons.mpr ⟨rfl, noEdit⟩)]
    refine begin_again begun ?_ ?_ sameModel againOpen againFree
    · rw [after_schema, transition.schema_eq, after_schema]
    · rw [after_target, transition.target_eq, after_target]

/-- The write of a node fails while a second submit is turned away. The next submit sends the same
again. -/
theorem node_writes_conserved :
    let start := ofModel .node (.create "/nodes") completeNode
    let failing := (start.after [.begin, .begin]).step (.reply (.error (.server 409 "taken")))
    (start.step .begin).2.sent = some start.write ∧
      failing.2.answer = .failed (.server 409 "taken") ∧
      failing.1.closed = false ∧ failing.1.isSubmitting = false ∧
      (failing.1.step .begin).2.sent = some start.write := by
  intro start failing
  have begun : start.step .begin = _ := begin_sends rfl rfl (by decide)
  have sent : (start.step .begin).2.sent = some start.write := by rw [begun]
  have failed : failing.2.answer = .failed (.server 409 "taken") := by
    change ((start.after [.begin, .begin]).step _).2.answer = _
    rw [after_cons, begun, after_cons, begin_busy rfl rfl]
    rfl
  obtain ⟨_, _, _, _, repeated⟩ := writes_conserved .node (.create "/nodes") completeNode []
  obtain ⟨isOpen, free, third⟩ := repeated start.write sent [.begin] 0 (.server 409 "taken")
    (by simp [Event.isEdit]) failed
  exact ⟨sent, failed, isOpen, free, third [] (by simp) isOpen free⟩

end Session

end ResourceEditor
