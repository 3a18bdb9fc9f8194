import CommandShell.Pool.Exchange

/-!
# What one action can do to an exchange

`Exchange.Transition` lists the effects of an action: nothing moves, one item moves
from one place to another, one item changes its line in somebody's hands, one item
is lost because the party that would receive it is gone, or one party leaves.
`Exchange.transition_step` says that there are no others, so that an invariant of
all runs needs one case for each effect.
-/

namespace CommandShell

namespace Exchange

/-! ## The item of a number -/

/-- With each number held once, taking the item of a number out leaves the others. -/
theorem held_perm_of_find? {exchange : Exchange} {id : Nat} {item : WorkItem}
    (distinct : (exchange.held.map WorkItem.id).Nodup) (found : exchange.find? id = some item) :
    exchange.held.Perm (item :: exchange.without id) := by
  rcases exchange with ⟨pool, held⟩
  unfold find? at found
  unfold without
  dsimp only at distinct found ⊢
  induction held with
  | nil => simp at found
  | cons first rest ih =>
    rw [List.map_cons, List.nodup_cons] at distinct
    by_cases same : first.id = id
    · have absent : ∀ other ∈ rest, other.id ≠ id := by
        intro other member equal
        exact distinct.1 (List.mem_map.mpr ⟨other, member, equal.trans same.symm⟩)
      have others : rest.filter (·.id ≠ id) = rest :=
        List.filter_eq_self.mpr fun other member => by simpa using absent other member
      rw [List.find?_cons_of_pos (by simpa using same)] at found
      rw [List.filter_cons_of_neg (by simpa using same), others, Option.some.inj found]
    · rw [List.find?_cons_of_neg (by simpa using same)] at found
      rw [List.filter_cons_of_pos (by simpa using same)]
      exact ((ih distinct.2 found).cons first).trans (List.Perm.swap item first _)

/-! ## Transitions -/

/-- Whether an answer says that something was moved, changed or left. -/
def Answer.reportsChange : Answer → Bool
  | .item _ | .done => true
  | .nothing | .size _ | .refused _ => false

/-- The effects of an action on an exchange, with the answer and the records of each. -/
inductive Transition (before : Exchange) : Action → Outcome → Prop
  | idle {action : Action} {answer : Answer} :
    answer.reportsChange = false → Transition before action ⟨before, answer, []⟩
  | acquired {action : Action} {item : WorkItem} {rest : List WorkItem} :
    action = .tryAcquire ∨ action = .acquire → before.pool.hasProducer = true →
    before.pool.free.items = item :: rest →
    Transition before action
      ⟨⟨{ before.pool with free := { before.pool.free with items := rest } },
        item :: before.held⟩, .item item, []⟩
  | received {action : Action} {item : WorkItem} {rest : List WorkItem} :
    action = .tryReceive ∨ action = .receive → before.pool.hasConsumer = true →
    before.pool.pending.items = item :: rest →
    Transition before action
      ⟨⟨{ before.pool with pending := { before.pool.pending with items := rest } },
        item :: before.held⟩, .item item, []⟩
  | filled {id : Nat} {text : String} {item : WorkItem} :
    before.find? id = some item →
    Transition before (.fill id text)
      ⟨⟨before.pool, item.fill text :: before.without id⟩, .item (item.fill text),
        item.fillRecords text⟩
  | submitted {id : Nat} {item : WorkItem} :
    before.find? id = some item → before.pool.hasProducer = true →
    before.pool.hasConsumer = true →
    before.pool.pending.items.length < before.pool.pending.bound →
    Transition before (.submit id)
      ⟨⟨{ before.pool with
          pending := { before.pool.pending with items := before.pool.pending.items ++ [item] } },
        before.without id⟩, .done, []⟩
  | released {id : Nat} {item : WorkItem} :
    before.find? id = some item → before.pool.hasConsumer = true →
    before.pool.hasProducer = true →
    before.pool.free.items.length < before.pool.free.bound →
    Transition before (.release id)
      ⟨⟨{ before.pool with
          free := { before.pool.free with items := before.pool.free.items ++ [item.clear] } },
        before.without id⟩, .done, before.pool.releaseRecords⟩
  /-- A held item is submitted to nobody and lost. -/
  | rejected {id : Nat} {item : WorkItem} :
    before.find? id = some item → before.pool.hasProducer = true →
    before.pool.hasConsumer = false →
    Transition before (.submit id)
      ⟨⟨before.pool, before.without id⟩, .refused .queueClosed, []⟩
  /-- A held item is released to nobody and lost. -/
  | discarded {id : Nat} {item : WorkItem} :
    before.find? id = some item → before.pool.hasConsumer = true →
    before.pool.hasProducer = false →
    Transition before (.release id)
      ⟨⟨before.pool, before.without id⟩, .done, before.pool.releaseRecords⟩
  | producerLeft :
    Transition before .dropProducer ⟨⟨before.pool.dropProducer, before.held⟩, .done, []⟩
  | consumerLeft :
    Transition before .dropConsumer ⟨⟨before.pool.dropConsumer, before.held⟩, .done, []⟩

variable {before : Exchange}

theorem Transition.refuse {action : Action} {reason : Refusal} :
    Transition before action (before.refuse reason) :=
  .idle rfl

theorem Transition.take_acquire {action : Action} {waiting closed : Answer}
    (named : action = .tryAcquire ∨ action = .acquire) (there : before.pool.hasProducer = true)
    (waits : waiting.reportsChange = false) (ends : closed.reportsChange = false) :
    Transition before action (before.take before.pool.acquire waiting closed) := by
  cases answer : before.pool.acquire with
  | item item next =>
    obtain ⟨rest, items, rfl⟩ := Pool.acquire_eq_item_iff.mp answer
    exact .acquired named there items
  | empty => exact .idle waits
  | closed => exact .idle ends

theorem Transition.take_receive {action : Action} {waiting closed : Answer}
    (named : action = .tryReceive ∨ action = .receive) (there : before.pool.hasConsumer = true)
    (waits : waiting.reportsChange = false) (ends : closed.reportsChange = false) :
    Transition before action (before.take before.pool.receive waiting closed) := by
  cases answer : before.pool.receive with
  | item item next =>
    obtain ⟨rest, items, rfl⟩ := Pool.receive_eq_item_iff.mp answer
    exact .received named there items
  | empty => exact .idle waits
  | closed => exact .idle ends

/-- A step has one of the effects of a transition. -/
theorem transition_step (before : Exchange) (action : Action) :
    Transition before action (before.step action) := by
  cases action with
  | tryAcquire =>
    simp only [step]
    split
    · next there => exact .take_acquire (.inl rfl) there rfl rfl
    · exact .refuse
  | acquire =>
    simp only [step]
    split
    · next there => exact .take_acquire (.inr rfl) there rfl rfl
    · exact .refuse
  | fill id text =>
    simp only [step]
    split
    · exact .refuse
    · next item found => exact .filled found
  | submit id =>
    simp only [step]
    split
    · next there =>
      split
      · exact .refuse
      · next item found =>
        cases answer : before.pool.submit item with
        | done next =>
          obtain ⟨consumer, room, rfl⟩ := Pool.submit_eq_done_iff.mp answer
          exact .submitted found there consumer room
        | full => exact .refuse
        | closed => exact .rejected found there (Pool.submit_eq_closed_iff.mp answer)
    · exact .refuse
  | tryReceive =>
    simp only [step]
    split
    · next there => exact .take_receive (.inl rfl) there rfl rfl
    · exact .refuse
  | receive =>
    simp only [step]
    split
    · next there => exact .take_receive (.inr rfl) there rfl rfl
    · exact .refuse
  | release id =>
    simp only [step]
    split
    · next there =>
      split
      · exact .refuse
      · next item found =>
        cases answer : before.pool.release item with
        | done next =>
          obtain ⟨producer, room, rfl⟩ := Pool.release_eq_done_iff.mp answer
          exact .released found there producer room
        | full => exact .refuse
        | closed => exact .discarded found there (Pool.release_eq_closed_iff.mp answer)
    · exact .refuse
  | poolSize =>
    simp only [step]
    split
    · exact .idle rfl
    · exact .refuse
  | dropProducer => exact .producerLeft
  | dropConsumer => exact .consumerLeft

/-- No action changes how many items the channels have room for, or who they see. -/
theorem Transition.wired {action : Action} {outcome : Outcome}
    (transition : Transition before action outcome) (wired : before.pool.Wired) :
    outcome.exchange.pool.Wired ∧ outcome.exchange.pool.size = before.pool.size := by
  obtain ⟨freeBound, pendingBound, producer, consumer⟩ := wired
  cases transition with
  | producerLeft => exact ⟨⟨freeBound, pendingBound, rfl, consumer⟩, rfl⟩
  | consumerLeft => exact ⟨⟨freeBound, pendingBound, producer, rfl⟩, rfl⟩
  | _ => exact ⟨⟨freeBound, pendingBound, producer, consumer⟩, rfl⟩

/-- Only a party that leaves is gone after an action. -/
theorem Transition.hasProducer_eq {action : Action} {outcome : Outcome}
    (transition : Transition before action outcome) (stays : action ≠ .dropProducer) :
    outcome.exchange.pool.hasProducer = before.pool.hasProducer := by
  cases transition with
  | producerLeft => exact (stays rfl).elim
  | _ => rfl

theorem Transition.hasConsumer_eq {action : Action} {outcome : Outcome}
    (transition : Transition before action outcome) (stays : action ≠ .dropConsumer) :
    outcome.exchange.pool.hasConsumer = before.pool.hasConsumer := by
  cases transition with
  | consumerLeft => exact (stays rfl).elim
  | _ => rfl

end Exchange

end CommandShell
