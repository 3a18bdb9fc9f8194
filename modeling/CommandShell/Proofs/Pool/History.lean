import CommandShell.Proofs.Pool.Filling
import CommandShell.Proofs.Pool.Transition

/-!
# What went through a pool, in order

A history is the actions that were done with a pool, each with the exchange before it and
its outcome. As long as the consumer is there, the items that were received and those
that are pending are the submitted ones, in order and as they were submitted; as long as
the producer is there, the acquired and the free ones are those of the new pool followed
by the released ones, emptied (`Exchange.history_in_order`).

Both are one law of a queue: what was in it and what came in is what went out and what is
in it now. It holds for each transition (`Exchange.Transition.pending_queue`,
`Exchange.Transition.free_queue`), and so for a history (`Exchange.queue_of_history`).
-/

namespace CommandShell

namespace Exchange

/-! ## Histories -/

/-- One action of a history: the exchange before it, the action, and its outcome. -/
structure Entry : Type where
  before : Exchange
  action : Action
  outcome : Outcome

/-- The history of actions that are done one after the other. -/
def history (exchange : Exchange) : List Action → List Entry
  | [] => []
  | action :: rest =>
    ⟨exchange, action, exchange.step action⟩ :: history (exchange.step action).exchange rest

/-- Whether an action takes a free item. -/
def Action.isAcquire : Action → Bool
  | .tryAcquire | .acquire => true
  | _ => false

/-- Whether an action takes a pending item. -/
def Action.isReceive : Action → Bool
  | .tryReceive | .receive => true
  | _ => false

/-- The item of an answer. -/
def Answer.item? : Answer → Option WorkItem
  | .item found => some found
  | _ => none

namespace Entry

/-- The item that was acquired. -/
def acquired? (entry : Entry) : Option WorkItem :=
  if entry.action.isAcquire then entry.outcome.answer.item? else none

/-- The item that was submitted, as it was then. -/
def submitted? (entry : Entry) : Option WorkItem :=
  match entry.action with
  | .submit id => if entry.outcome.answer = .done then entry.before.find? id else none
  | _ => none

/-- The item that was received. -/
def received? (entry : Entry) : Option WorkItem :=
  if entry.action.isReceive then entry.outcome.answer.item? else none

/-- The item that was released, as it was before it was emptied. -/
def released? (entry : Entry) : Option WorkItem :=
  match entry.action with
  | .release id => if entry.outcome.answer = .done then entry.before.find? id else none
  | _ => none

/-- Nothing moves when the answer reports no change. -/
theorem nothing_moves (entry : Entry) (silent : entry.outcome.answer.reportsChange = false) :
    entry.acquired? = none ∧ entry.submitted? = none ∧
      entry.received? = none ∧ entry.released? = none := by
  have noItem : entry.outcome.answer.item? = none := by
    cases answer : entry.outcome.answer with
    | item => rw [answer] at silent; cases silent
    | _ => rfl
  have undone : entry.outcome.answer ≠ .done := by
    intro done
    rw [done] at silent
    cases silent
  refine ⟨?_, ?_, ?_, ?_⟩
  · rw [acquired?, noItem, ite_self]
  · unfold submitted?
    split
    · rw [if_neg undone]
    · rfl
  · rw [received?, noItem, ite_self]
  · unfold released?
    split
    · rw [if_neg undone]
    · rfl

end Entry

variable {exchange before : Exchange} {action : Action} {outcome : Outcome} {actions : List Action}
  {size capacity : Nat}

/-- A history holds the outcomes of the run. -/
theorem map_outcome_history (exchange : Exchange) (actions : List Action) :
    (exchange.history actions).map Entry.outcome = (exchange.run actions).2 := by
  induction actions generalizing exchange with
  | nil => rfl
  | cons action rest ih => exact congrArg _ (ih _)

/-- What every transition keeps holds before each entry of a history and at its end. -/
theorem holds_of_history (holds : Exchange → Prop) (actions : List Action)
    (keeps : ∀ {before : Exchange} {action : Action} {outcome : Outcome},
      Transition before action outcome → holds before → holds outcome.exchange)
    (ready : holds exchange) :
    (∀ entry ∈ exchange.history actions, holds entry.before) ∧ holds (exchange.run actions).1 := by
  induction actions generalizing exchange with
  | nil => exact ⟨fun _ member => (List.not_mem_nil member).elim, ready⟩
  | cons action rest ih =>
    obtain ⟨later, last⟩ := ih (keeps (transition_step exchange action) ready)
    refine ⟨?_, last⟩
    intro entry member
    rcases List.mem_cons.mp member with rfl | member
    · exact ready
    · exact later entry member

theorem transition_of_mem_history {entry : Entry} (member : entry ∈ exchange.history actions) :
    Transition entry.before entry.action entry.outcome := by
  induction actions generalizing exchange with
  | nil => cases member
  | cons action rest ih =>
    rcases List.mem_cons.mp member with rfl | member
    · exact transition_step exchange action
    · exact ih member

/-! ## The two queues -/

/-- The pending items: what is submitted comes in, what is received goes out. -/
theorem Transition.pending_queue (transition : Transition before action outcome)
    (stays : action ≠ .dropConsumer) :
    before.pool.pending.items ++ (Entry.submitted? ⟨before, action, outcome⟩).toList =
      (Entry.received? ⟨before, action, outcome⟩).toList ++
        outcome.exchange.pool.pending.items := by
  cases transition with
  | @idle _ answer silent =>
    have still := Entry.nothing_moves ⟨before, action, ⟨before, answer, []⟩⟩ silent
    rw [still.2.1, still.2.2.1]
    exact List.append_nil _
  | acquired named =>
    rcases named with rfl | rfl <;> exact List.append_nil _
  | received named _ items =>
    rcases named with rfl | rfl <;> exact (List.append_nil _).trans items
  | filled => exact List.append_nil _
  | submitted found =>
    simp only [Entry.submitted?, if_pos, found]
    rfl
  | released => exact List.append_nil _
  | rejected => exact List.append_nil _
  | discarded => exact List.append_nil _
  | producerLeft => exact List.append_nil _
  | consumerLeft => exact (stays rfl).elim

/-- The free items: what is released comes in, emptied, and what is acquired goes out. -/
theorem Transition.free_queue (transition : Transition before action outcome)
    (there : before.pool.hasProducer = true) (stays : action ≠ .dropProducer) :
    before.pool.free.items ++
        ((Entry.released? ⟨before, action, outcome⟩).map WorkItem.clear).toList =
      (Entry.acquired? ⟨before, action, outcome⟩).toList ++ outcome.exchange.pool.free.items := by
  cases transition with
  | @idle _ answer silent =>
    have still := Entry.nothing_moves ⟨before, action, ⟨before, answer, []⟩⟩ silent
    rw [still.1, still.2.2.2]
    exact List.append_nil _
  | acquired named _ items =>
    rcases named with rfl | rfl <;> exact (List.append_nil _).trans items
  | received named =>
    rcases named with rfl | rfl <;> exact List.append_nil _
  | filled => exact List.append_nil _
  | submitted => exact List.append_nil _
  | released found =>
    simp only [Entry.released?, if_pos, found]
    rfl
  | rejected => exact List.append_nil _
  | discarded _ _ gone =>
    rw [there] at gone
    cases gone
  | producerLeft => exact (stays rfl).elim
  | consumerLeft => exact List.append_nil _

/-- A queue that follows the law in every transition follows it in a history. -/
theorem queue_of_history (holds : Exchange → Prop) {allowed : Action → Prop}
    (queue : Exchange → List WorkItem) (enters leaves : Entry → Option WorkItem)
    (keeps : ∀ {before : Exchange} {action : Action} {outcome : Outcome},
      Transition before action outcome → holds before → allowed action → holds outcome.exchange)
    (law : ∀ {before : Exchange} {action : Action} {outcome : Outcome},
      Transition before action outcome → holds before → allowed action →
      queue before ++ (enters ⟨before, action, outcome⟩).toList =
        (leaves ⟨before, action, outcome⟩).toList ++ queue outcome.exchange)
    (ready : holds exchange) (all : ∀ action ∈ actions, allowed action) :
    queue exchange ++ (exchange.history actions).filterMap enters =
      (exchange.history actions).filterMap leaves ++ queue (exchange.run actions).1 := by
  have first (observe : Entry → Option WorkItem) (entry : Entry) (rest : List Entry) :
      (entry :: rest).filterMap observe = (observe entry).toList ++ rest.filterMap observe := by
    cases seen : observe entry <;> simp [seen]
  induction actions generalizing exchange with
  | nil => exact List.append_nil _
  | cons action rest ih =>
    have transition := transition_step exchange action
    have may := all action (List.mem_cons_self ..)
    have now := law transition ready may
    have later := ih (keeps transition ready may) fun next member =>
      all next (List.mem_cons_of_mem _ member)
    rw [history, first, first, ← List.append_assoc, now, List.append_assoc, later,
      ← List.append_assoc]
    rfl

/-- The received and the pending items are those that were pending and then the submitted ones. -/
theorem pending_of_history (stays : .dropConsumer ∉ actions) :
    (exchange.history actions).filterMap Entry.received? ++
        (exchange.run actions).1.pool.pending.items =
      exchange.pool.pending.items ++ (exchange.history actions).filterMap Entry.submitted? := by
  symm
  exact queue_of_history (fun _ => True) (·.pool.pending.items) Entry.submitted? Entry.received?
    (fun _ _ _ => trivial) (fun transition _ => transition.pending_queue) trivial
    fun action member same => stays (same ▸ member)

/-- The acquired and the free items are those that were free and then the released ones, emptied. -/
theorem free_of_history (there : exchange.pool.hasProducer = true)
    (stays : .dropProducer ∉ actions) :
    (exchange.history actions).filterMap Entry.acquired? ++
        (exchange.run actions).1.pool.free.items =
      exchange.pool.free.items ++
        ((exchange.history actions).filterMap Entry.released?).map WorkItem.clear := by
  rw [List.map_filterMap]
  symm
  exact queue_of_history (·.pool.hasProducer = true) (·.pool.free.items)
    (fun entry => entry.released?.map WorkItem.clear) Entry.acquired?
    (fun transition there may => (transition.hasProducer_eq may).trans there)
    (fun transition => transition.free_queue) there
    fun action member same => stays (same ▸ member)

/-! ## What the items hold -/

/-- All items: the free, the pending and the held ones. -/
def items (exchange : Exchange) : List WorkItem :=
  exchange.pool.free.items ++ exchange.pool.pending.items ++ exchange.held

/-- Free items are empty, and every item fits its capacity, wherever it is. -/
structure Stocked (capacity : Nat) (exchange : Exchange) : Prop where
  blank : ∀ item ∈ exchange.pool.free.items, item.line = ""
  free : ∀ item ∈ exchange.pool.free.items, item.Fits capacity
  pending : ∀ item ∈ exchange.pool.pending.items, item.Fits capacity
  held : ∀ item ∈ exchange.held, item.Fits capacity

theorem Stocked.of_create {pool : Pool} (created : Pool.create size capacity = .ok pool) :
    Stocked capacity { pool } := by
  obtain ⟨_, rfl⟩ := Pool.create_eq_ok_iff.mp created
  refine ⟨?_, ?_, nofun, nofun⟩
  · intro item member
    obtain ⟨id, _, rfl⟩ := List.mem_map.mp member
    rfl
  · intro item member
    obtain ⟨id, _, rfl⟩ := List.mem_map.mp member
    exact WorkItem.fits_empty capacity id

theorem Transition.stocked (transition : Transition before action outcome)
    (stocked : Stocked capacity before) : Stocked capacity outcome.exchange := by
  obtain ⟨blank, free, pending, held⟩ := stocked
  have found_fits {id : Nat} {item : WorkItem} (found : before.find? id = some item) :
      item.Fits capacity :=
    held item (List.mem_of_find?_eq_some found)
  have others_fit {id : Nat} : ∀ item ∈ before.without id, item.Fits capacity :=
    fun item member => held item (List.mem_filter.mp member).1
  cases transition with
  | idle => exact ⟨blank, free, pending, held⟩
  | @acquired _ item rest _ _ items =>
    rw [items] at blank free
    rw [List.forall_mem_cons] at blank free
    exact ⟨blank.2, free.2, pending, List.forall_mem_cons.mpr ⟨free.1, held⟩⟩
  | @received _ item rest _ _ items =>
    rw [items, List.forall_mem_cons] at pending
    exact ⟨blank, free, pending.2, List.forall_mem_cons.mpr ⟨pending.1, held⟩⟩
  | @filled id text item found =>
    exact ⟨blank, free, pending,
      List.forall_mem_cons.mpr ⟨(found_fits found).fill text, others_fit⟩⟩
  | @submitted id item found =>
    refine ⟨blank, free, ?_, others_fit⟩
    exact List.forall_mem_append.mpr ⟨pending, List.forall_mem_singleton.mpr (found_fits found)⟩
  | @released id item found =>
    refine ⟨?_, ?_, pending, others_fit⟩
    · exact List.forall_mem_append.mpr ⟨blank, List.forall_mem_singleton.mpr item.line_clear⟩
    · exact List.forall_mem_append.mpr
        ⟨free, List.forall_mem_singleton.mpr (found_fits found).clear⟩
  | rejected => exact ⟨blank, free, pending, others_fit⟩
  | discarded => exact ⟨blank, free, pending, others_fit⟩
  | producerLeft => exact ⟨nofun, nofun, pending, held⟩
  | consumerLeft => exact ⟨blank, free, nofun, held⟩

/-- What is acquired was free. -/
theorem Transition.mem_free_of_acquired? (transition : Transition before action outcome)
    {item : WorkItem} (acquired : Entry.acquired? ⟨before, action, outcome⟩ = some item) :
    item ∈ before.pool.free.items := by
  cases transition with
  | @idle _ answer silent =>
    have still := Entry.nothing_moves ⟨before, action, ⟨before, answer, []⟩⟩ silent
    rw [still.1] at acquired
    cases acquired
  | acquired named _ items =>
    rcases named with rfl | rfl <;> cases acquired <;> simp [items]
  | received named =>
    rcases named with rfl | rfl <;> cases acquired
  | _ => cases acquired

/-- In any history of a new pool the received and the pending items are the submitted ones, in order
and as they were submitted, as long as the consumer stays. As long as the producer stays, the
numbers of the acquired and the free items are those of the new pool and then those of the released
items, in order. Free and acquired items are empty, and all items fit their capacity. -/
theorem history_in_order {size : Nat} (capacity : Nat) (positive : 0 < size)
    (actions : List Action) :
    ∃ pool, Pool.create size capacity = .ok pool ∧
      let start : Exchange := { pool }
      let history := start.history actions
      let exchange := (start.run actions).1
      history.map Entry.outcome = (start.run actions).2 ∧
      (.dropConsumer ∉ actions →
        history.filterMap Entry.received? ++ exchange.pool.pending.items =
          history.filterMap Entry.submitted?) ∧
      (.dropProducer ∉ actions →
        (history.filterMap Entry.acquired? ++ exchange.pool.free.items).map WorkItem.id =
          List.range size ++ (history.filterMap Entry.released?).map WorkItem.id) ∧
      (∀ item ∈ exchange.pool.free.items, item.line = "") ∧
      (∀ item ∈ history.filterMap Entry.acquired?, item.line = "") ∧
      ∀ item ∈ exchange.items, item.Fits capacity := by
  obtain ⟨pool, created⟩ := Pool.exists_create capacity positive
  refine ⟨pool, created, ?_⟩
  intro start history exchange
  obtain ⟨along, last⟩ :=
    holds_of_history (Stocked capacity) actions Transition.stocked (Stocked.of_create created)
  have acquired_blank : ∀ item ∈ history.filterMap Entry.acquired?, item.line = "" := by
    intro item member
    obtain ⟨entry, there, acquired⟩ := List.mem_filterMap.mp member
    have transition := transition_of_mem_history there
    exact (along entry there).blank item (transition.mem_free_of_acquired? acquired)
  have fits : ∀ item ∈ exchange.items, item.Fits capacity :=
    List.forall_mem_append.mpr ⟨List.forall_mem_append.mpr ⟨last.free, last.pending⟩, last.held⟩
  refine ⟨map_outcome_history start actions, ?_, ?_, last.blank, acquired_blank, fits⟩
  · intro stays
    rw [pending_of_history stays]
    obtain ⟨_, rfl⟩ := Pool.create_eq_ok_iff.mp created
    rfl
  · intro stays
    obtain ⟨_, rfl⟩ := Pool.create_eq_ok_iff.mp created
    have numbers : start.pool.free.items.map WorkItem.id = List.range size := by
      exact (List.map_map ..).trans (List.map_id _)
    rw [free_of_history rfl stays, List.map_append, numbers, List.map_map]
    rfl

/-- A line is cut and then submitted twice, and the other item is acquired again. -/
def recycled : List Action :=
  [.acquire, .fill 0 "abcdef", .submit 0, .tryAcquire, .submit 1, .receive, .submit 0,
    .tryReceive, .release 1, .acquire]

theorem history_in_order_recycled :
    ∃ pool, Pool.create 2 4 = .ok pool ∧
      let start : Exchange := { pool }
      let history := start.history recycled
      let exchange := (start.run recycled).1
      (history.filterMap Entry.received? ++ exchange.pool.pending.items).map WorkItem.line =
        ["abcd", "", "abcd"] ∧
      (history.filterMap Entry.acquired? ++ exchange.pool.free.items).map WorkItem.id =
        [0, 1, 1] := by
  obtain ⟨pool, created, -, pending, free, -, -, -⟩ :=
    history_in_order 4 (by decide : 0 < 2) recycled
  refine ⟨pool, created, ?_, ?_⟩
  · rw [pending (by decide)]
    obtain ⟨-, rfl⟩ := Pool.create_eq_ok_iff.mp created
    decide +kernel
  · rw [free (by decide)]
    obtain ⟨-, rfl⟩ := Pool.create_eq_ok_iff.mp created
    decide +kernel

end Exchange

end CommandShell
