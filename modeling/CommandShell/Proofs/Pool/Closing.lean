import CommandShell.Proofs.Pool.History
import CommandShell.Proofs.Pool.Ownership

/-!
# When a party leaves a pool

A party may leave in any state of the pool. What the other one can still take is then
served in order, and after it the same answer comes for ever: there is nothing when the
producer left, and the queue is closed when the consumer left. What was pending when the
consumer left, or is submitted later, is lost for good (`Exchange.leaving_of_run`).

While a party is gone nothing comes into the queue that the other one takes from, so that
queue only shrinks from the front; `Exchange.answersTo_history` turns this into the list
of all answers.
-/

namespace CommandShell

namespace Exchange

variable {exchange before : Exchange} {action : Action} {outcome : Outcome} {actions : List Action}
  {size capacity : Nat}

/-! ## Orderly exchanges -/

/-- The channels belong together, and no number is in two places. -/
structure Orderly (exchange : Exchange) : Prop where
  wired : exchange.pool.Wired
  distinct : exchange.ids.Nodup

theorem Orderly.of_create {pool : Pool} (created : Pool.create size capacity = .ok pool) :
    Orderly { pool } := by
  have owned := Owned.of_create created
  exact ⟨owned.wired, owned.ids_perm.nodup_iff.mpr List.nodup_range⟩

theorem Transition.orderly (transition : Transition before action outcome)
    (orderly : Orderly before) : Orderly outcome.exchange := by
  obtain ⟨lost, perm, _⟩ := transition.exists_lost orderly.distinct
  have distinct := perm.nodup_iff.mp orderly.distinct
  exact ⟨(transition.wired orderly.wired).1, (List.nodup_append.mp distinct).2.1⟩

theorem Orderly.run (orderly : Orderly exchange) (actions : List Action) :
    Orderly (exchange.run actions).1 :=
  (holds_of_history Orderly actions Transition.orderly orderly).2

/-- A number that is nowhere stays nowhere. -/
theorem Orderly.not_mem_ids_run (orderly : Orderly exchange) {id : Nat}
    (nowhere : id ∉ exchange.ids) : id ∉ (exchange.run actions).1.ids := by
  have keeps {before : Exchange} {action : Action} {outcome : Outcome}
      (transition : Transition before action outcome) (now : Orderly before ∧ id ∉ before.ids) :
      Orderly outcome.exchange ∧ id ∉ outcome.exchange.ids := by
    obtain ⟨lost, perm, _⟩ := transition.exists_lost now.1.distinct
    exact ⟨transition.orderly now.1, fun member =>
      now.2 (perm.mem_iff.mpr (List.mem_append_right _ member))⟩
  exact (holds_of_history (fun exchange => Orderly exchange ∧ id ∉ exchange.ids) actions keeps
    ⟨orderly, nowhere⟩).2.2

/-! ## Parties that are gone -/

theorem Transition.hasProducer_eq_false (transition : Transition before action outcome)
    (gone : before.pool.hasProducer = false) : outcome.exchange.pool.hasProducer = false := by
  cases transition with
  | producerLeft => rfl
  | _ => exact gone

theorem Transition.hasConsumer_eq_false (transition : Transition before action outcome)
    (gone : before.pool.hasConsumer = false) : outcome.exchange.pool.hasConsumer = false := by
  cases transition with
  | consumerLeft => rfl
  | _ => exact gone

/-- Nothing becomes pending without a producer. -/
theorem Transition.pending_eq (transition : Transition before action outcome)
    (gone : before.pool.hasProducer = false) (other : action.isReceive = false)
    (there : outcome.exchange.pool.hasConsumer = true) :
    outcome.exchange.pool.pending.items = before.pool.pending.items := by
  cases transition with
  | received named =>
    rcases named with rfl | rfl <;> cases other
  | submitted _ producer =>
    rw [gone] at producer
    cases producer
  | consumerLeft => cases there
  | _ => rfl

/-- Nothing becomes free without a consumer. -/
theorem Transition.free_eq (transition : Transition before action outcome)
    (gone : before.pool.hasConsumer = false) (other : action.isAcquire = false)
    (there : outcome.exchange.pool.hasProducer = true) :
    outcome.exchange.pool.free.items = before.pool.free.items := by
  cases transition with
  | acquired named =>
    rcases named with rfl | rfl <;> cases other
  | released _ consumer =>
    rw [gone] at consumer
    cases consumer
  | producerLeft => cases there
  | _ => rfl

/-! ## Answers -/

/-- The answers to the actions of a kind, while the party that can do them is there. -/
def answersTo (asks : Action → Bool) (party : Exchange → Bool) (history : List Entry) :
    List Answer :=
  (history.filter fun entry => asks entry.action && party entry.before).map (·.outcome.answer)

/-- The first answers when items are given out in order, and the same answer follows them for
ever. -/
def served (items : List WorkItem) (ending : Answer) (count : Nat) : List Answer :=
  (items.take count).map .item ++ List.replicate (count - items.length) ending

theorem served_cons (item : WorkItem) (rest : List WorkItem) (ending : Answer) (count : Nat) :
    served (item :: rest) ending (count + 1) = .item item :: served rest ending count := by
  simp [served]

theorem served_nil (ending : Answer) (count : Nat) :
    served [] ending (count + 1) = ending :: served [] ending count := by
  simp [served, List.replicate_succ]

theorem answersTo_of_gone {asks : Action → Bool} {party : Exchange → Bool}
    (gone : ∀ {before : Exchange} {action : Action} {outcome : Outcome},
      Transition before action outcome → party before = false → party outcome.exchange = false)
    (absent : party exchange = false) : answersTo asks party (exchange.history actions) = [] := by
  have along := (holds_of_history (party · = false) actions gone absent).1
  have nothing : (exchange.history actions).filter
      (fun entry => asks entry.action && party entry.before) = [] := by
    rw [List.filter_eq_nil_iff]
    intro entry member
    simp [along entry member]
  rw [answersTo, nothing, List.map_nil]

/-- A queue from which only one kind of action takes serves its items in order, and then gives the
same answer for ever. -/
theorem answersTo_history (holds : Exchange → Prop) {asks : Action → Bool}
    {party : Exchange → Bool} (queue : Exchange → List WorkItem) {ending : Answer}
    (keeps : ∀ {before : Exchange} {action : Action} {outcome : Outcome},
      Transition before action outcome → holds before → holds outcome.exchange)
    (gone : ∀ {before : Exchange} {action : Action} {outcome : Outcome},
      Transition before action outcome → party before = false → party outcome.exchange = false)
    (other : ∀ {before : Exchange} {action : Action} {outcome : Outcome},
      Transition before action outcome → holds before → asks action = false →
      party outcome.exchange = true → queue outcome.exchange = queue before)
    (next : ∀ {before : Exchange} {action : Action} {item : WorkItem} {rest : List WorkItem},
      asks action = true → party before = true → queue before = item :: rest →
      (before.step action).answer = .item item ∧ queue (before.step action).exchange = rest)
    (last : ∀ {before : Exchange} {action : Action},
      holds before → asks action = true → party before = true → queue before = [] →
      (before.step action).answer = ending ∧ queue (before.step action).exchange = [])
    (ready : holds exchange) :
    answersTo asks party (exchange.history actions) =
      served (queue exchange) ending (answersTo asks party (exchange.history actions)).length := by
  induction actions generalizing exchange with
  | nil => simp [answersTo, history, served]
  | cons action rest ih =>
    have transition := transition_step exchange action
    have later := ih (keeps transition ready)
    cases there : party exchange with
    | false =>
      rw [answersTo_of_gone gone there]
      simp [served]
    | true =>
      cases asked : asks action with
      | false =>
        have same : answersTo asks party (exchange.history (action :: rest)) =
            answersTo asks party ((exchange.step action).exchange.history rest) := by
          simp [answersTo, history, asked]
        rw [same]
        cases still : party (exchange.step action).exchange with
        | false =>
          rw [answersTo_of_gone gone still]
          simp [served]
        | true => rwa [other transition ready asked still] at later
      | true =>
        have first : answersTo asks party (exchange.history (action :: rest)) =
            (exchange.step action).answer ::
              answersTo asks party ((exchange.step action).exchange.history rest) := by
          simp [answersTo, history, asked, there]
        rw [first, List.length_cons]
        cases items : queue exchange with
        | nil =>
          obtain ⟨answer, empty⟩ := last ready asked there items
          rw [empty] at later
          rw [served_nil, answer, ← later]
        | cons item others =>
          obtain ⟨answer, behind⟩ := next asked there items
          rw [behind] at later
          rw [served_cons, answer, ← later]

/-! ## Receiving without a producer -/

theorem step_of_pending {item : WorkItem} {rest : List WorkItem} (asks : action.isReceive = true)
    (there : exchange.pool.hasConsumer = true)
    (items : exchange.pool.pending.items = item :: rest) :
    (exchange.step action).answer = .item item ∧
      (exchange.step action).exchange.pool.pending.items = rest := by
  have taken := Pool.receive_eq_item_iff.mpr ⟨rest, items, rfl⟩
  cases action with
  | tryReceive => simp [step, there, taken, take]
  | receive => simp [step, there, taken, take]
  | _ => cases asks

theorem step_of_nothing_pending (asks : action.isReceive = true)
    (there : exchange.pool.hasConsumer = true) (nothing : exchange.pool.pending.items = [])
    (gone : exchange.pool.pending.hasSender = false) :
    exchange.step action = ⟨exchange, .nothing, []⟩ := by
  have closed := Pool.receive_eq_closed_iff.mpr ⟨nothing, gone⟩
  cases action with
  | tryReceive => simp [step, there, closed, take]
  | receive => simp [step, there, closed, take]
  | _ => cases asks

theorem step_release_of_gone {id : Nat} {item : WorkItem} (found : exchange.find? id = some item)
    (there : exchange.pool.hasConsumer = true) (gone : exchange.pool.hasProducer = false) :
    exchange.step (.release id) =
      ⟨⟨exchange.pool, exchange.without id⟩, .done, exchange.pool.releaseRecords⟩ := by
  have closed : exchange.pool.release item = .closed := Pool.release_eq_closed_iff.mpr gone
  simp only [step, if_pos there, found, closed, put]

/-! ## Acquiring without a consumer -/

theorem step_of_free {item : WorkItem} {rest : List WorkItem} (asks : action.isAcquire = true)
    (there : exchange.pool.hasProducer = true)
    (items : exchange.pool.free.items = item :: rest) :
    (exchange.step action).answer = .item item ∧
      (exchange.step action).exchange.pool.free.items = rest := by
  have taken := Pool.acquire_eq_item_iff.mpr ⟨rest, items, rfl⟩
  cases action with
  | tryAcquire => simp [step, there, taken, take]
  | acquire => simp [step, there, taken, take]
  | _ => cases asks

theorem step_of_nothing_free (asks : action.isAcquire = true)
    (there : exchange.pool.hasProducer = true) (nothing : exchange.pool.free.items = [])
    (gone : exchange.pool.free.hasSender = false) :
    exchange.step action = ⟨exchange, .refused .queueClosed, []⟩ := by
  have closed := Pool.acquire_eq_closed_iff.mpr ⟨nothing, gone⟩
  cases action with
  | tryAcquire => simp [step, there, closed, take]
  | acquire => simp [step, there, closed, take]
  | _ => cases asks

theorem step_submit_of_gone {id : Nat} {item : WorkItem} (found : exchange.find? id = some item)
    (there : exchange.pool.hasProducer = true) (gone : exchange.pool.hasConsumer = false) :
    exchange.step (.submit id) =
      ⟨⟨exchange.pool, exchange.without id⟩, .refused .queueClosed, []⟩ := by
  have closed : exchange.pool.submit item = .closed := Pool.submit_eq_closed_iff.mpr gone
  simp only [step, if_pos there, found, closed, put]

/-- An item that is submitted to nobody is nowhere afterwards. -/
theorem Orderly.not_mem_ids_submit (orderly : Orderly exchange) {id : Nat} {item : WorkItem}
    (found : exchange.find? id = some item) (there : exchange.pool.hasProducer = true)
    (gone : exchange.pool.hasConsumer = false) :
    id ∉ (exchange.step (.submit id)).exchange.ids := by
  obtain rfl : item.id = id := by simpa using List.find?_some found
  have taken := ids_perm_of_find? orderly.distinct found
  have distinct := taken.nodup_iff.mp orderly.distinct
  rw [step_submit_of_gone found there gone]
  exact (List.nodup_cons.mp distinct).1

/-- An item that is pending when the consumer leaves is nowhere afterwards. -/
theorem Orderly.not_mem_ids_dropConsumer (orderly : Orderly exchange) {item : WorkItem}
    (pending : item ∈ exchange.pool.pending.items) :
    item.id ∉ (exchange.step .dropConsumer).exchange.ids := by
  have distinct := (ids_perm_dropConsumer exchange).nodup_iff.mp orderly.distinct
  have number : item.id ∈ exchange.pool.pending.items.map WorkItem.id :=
    List.mem_map_of_mem pending
  intro member
  exact (List.nodup_append.mp distinct).2.2 item.id number item.id member rfl

/-! ## While the consumer is there -/

theorem take_acquire_ne_queueClosed {waiting : Answer}
    (sender : exchange.pool.free.hasSender = true) (waits : waiting ≠ .refused .queueClosed) :
    (exchange.take exchange.pool.acquire waiting (.refused .queueClosed)).answer ≠
      .refused .queueClosed := by
  cases received : exchange.pool.acquire with
  | item item next => exact nofun
  | empty => exact waits
  | closed =>
    rw [(Pool.acquire_eq_closed_iff.mp received).2] at sender
    cases sender

/-- The queue is never reported to be closed. -/
theorem Orderly.step_ne_queueClosed (orderly : Orderly exchange)
    (there : exchange.pool.hasConsumer = true) (action : Action) :
    (exchange.step action).answer ≠ .refused .queueClosed := by
  have sender : exchange.pool.free.hasSender = true := orderly.wired.consumer.trans there
  cases action with
  | tryAcquire =>
    simp only [step]
    split
    · exact take_acquire_ne_queueClosed sender (by simp)
    · simp [refuse]
  | acquire =>
    simp only [step]
    split
    · exact take_acquire_ne_queueClosed sender (by simp)
    · simp [refuse]
  | fill id text =>
    simp only [step]
    split <;> simp [refuse]
  | submit id =>
    simp only [step]
    split
    · split
      · simp [refuse]
      · next item found =>
        cases sent : exchange.pool.submit item with
        | done next => simp [put]
        | full => simp [put, refuse]
        | closed =>
          rw [Pool.submit_eq_closed_iff.mp sent] at there
          cases there
    · simp [refuse]
  | tryReceive =>
    simp only [step, if_pos there]
    cases exchange.pool.receive <;> simp [take]
  | receive =>
    simp only [step, if_pos there]
    cases exchange.pool.receive <;> simp [take]
  | release id =>
    simp only [step, if_pos there]
    split
    · simp [refuse]
    · next item found => cases exchange.pool.release item <;> simp [put, refuse]
  | poolSize => simp [step, if_pos there]
  | dropProducer => simp [step]
  | dropConsumer => simp [step]

/-- Waiting for an item ends with none only when the producer is gone and nothing is pending. -/
theorem Orderly.nothing_of_receive (orderly : Orderly exchange)
    (ended : (exchange.step .receive).answer = .nothing) :
    exchange.pool.hasProducer = false ∧ exchange.pool.pending.items = [] := by
  simp only [step] at ended
  split at ended
  · cases received : exchange.pool.receive with
    | item item next =>
      rw [received] at ended
      cases ended
    | empty =>
      rw [received] at ended
      cases ended
    | closed =>
      obtain ⟨nothing, gone⟩ := Pool.receive_eq_closed_iff.mp received
      exact ⟨orderly.wired.producer.symm.trans gone, nothing⟩
  · cases ended

/-! ## What the other party is left with -/

/-- An exchange whose producer is gone, with these items pending when it left, and later actions:
the consumer receives those items in order and then nothing for ever, and it can release what it
holds, but nothing becomes free by it. -/
structure WithoutProducer (pending : List WorkItem) (exchange : Exchange) (later : List Action) :
    Prop where
  received :
    let answers := answersTo Action.isReceive (·.pool.hasConsumer) (exchange.history later)
    answers = served pending .nothing answers.length
  released : ∀ {id : Nat} {item : WorkItem}, (exchange.run later).1.find? id = some item →
    (exchange.run later).1.pool.hasConsumer = true →
    ((exchange.run later).1.step (.release id)).answer = .done ∧
      ((exchange.run later).1.step (.release id)).exchange.pool = (exchange.run later).1.pool
  nothing_free : (exchange.run later).1.pool.free.items = []

/-- An exchange whose consumer is gone, with these items pending and free when it left, and later
actions: the producer acquires the free items in order and is then told for ever that the queue is
closed, as for all that it submits. The pending and the submitted items are never seen again. -/
structure WithoutConsumer (pending free : List WorkItem) (exchange : Exchange)
    (later : List Action) : Prop where
  acquired :
    let answers := answersTo Action.isAcquire (·.pool.hasProducer) (exchange.history later)
    answers = served free (.refused .queueClosed) answers.length
  submitted : ∀ {id : Nat} {item : WorkItem}, (exchange.run later).1.find? id = some item →
    (exchange.run later).1.pool.hasProducer = true →
    ((exchange.run later).1.step (.submit id)).answer = .refused .queueClosed ∧
      ∀ further, id ∉ (((exchange.run later).1.step (.submit id)).exchange.run further).1.ids
  pending_lost : ∀ item ∈ pending, item.id ∉ (exchange.run later).1.ids

/-- Nothing becomes free without a producer. -/
theorem Transition.free_eq_nil (transition : Transition before action outcome)
    (gone : before.pool.hasProducer = false) (nothing : before.pool.free.items = []) :
    outcome.exchange.pool.free.items = [] := by
  cases transition with
  | acquired _ _ items =>
    rw [nothing] at items
    cases items
  | released _ _ producer =>
    rw [gone] at producer
    cases producer
  | producerLeft => rfl
  | _ => exact nothing

theorem Orderly.withoutProducer (orderly : Orderly before) (later : List Action) :
    WithoutProducer before.pool.pending.items (before.step .dropProducer).exchange later := by
  have wired := (transition_step before .dropProducer).orderly orderly |>.wired
  have gone : (before.step .dropProducer).exchange.pool.hasProducer = false := rfl
  have nothing : (before.step .dropProducer).exchange.pool.free.items = [] := rfl
  obtain ⟨still, empty⟩ := (holds_of_history
    (fun exchange => exchange.pool.hasProducer = false ∧ exchange.pool.free.items = []) later
    (fun transition now =>
      ⟨transition.hasProducer_eq_false now.1, transition.free_eq_nil now.1 now.2⟩)
    ⟨gone, nothing⟩).2
  refine ⟨?_, ?_, empty⟩
  · exact answersTo_history
      (fun exchange => exchange.pool.Wired ∧ exchange.pool.hasProducer = false)
      (·.pool.pending.items)
      (fun transition now => ⟨(transition.wired now.1).1, transition.hasProducer_eq_false now.2⟩)
      Transition.hasConsumer_eq_false
      (fun transition now => transition.pending_eq now.2)
      step_of_pending
      (fun now asks there none => by
        rw [step_of_nothing_pending asks there none (now.1.producer.trans now.2)]
        exact ⟨rfl, none⟩)
      ⟨wired, gone⟩
  · intro id item found there
    rw [step_release_of_gone found there still]
    exact ⟨rfl, rfl⟩

theorem Orderly.withoutConsumer (orderly : Orderly before) (later : List Action) :
    WithoutConsumer before.pool.pending.items before.pool.free.items
      (before.step .dropConsumer).exchange later := by
  have left := (transition_step before .dropConsumer).orderly orderly
  have gone : (before.step .dropConsumer).exchange.pool.hasConsumer = false := rfl
  have still := (holds_of_history (·.pool.hasConsumer = false) later
    Transition.hasConsumer_eq_false gone).2
  refine ⟨?_, ?_, ?_⟩
  · exact answersTo_history
      (fun exchange => exchange.pool.Wired ∧ exchange.pool.hasConsumer = false)
      (·.pool.free.items)
      (fun transition now => ⟨(transition.wired now.1).1, transition.hasConsumer_eq_false now.2⟩)
      Transition.hasProducer_eq_false
      (fun transition now => transition.free_eq now.2)
      step_of_free
      (fun now asks there none => by
        rw [step_of_nothing_free asks there none (now.1.consumer.trans now.2)]
        exact ⟨rfl, none⟩)
      ⟨left.wired, gone⟩
  · intro id item found there
    have now := left.run later
    refine ⟨by rw [step_submit_of_gone found there still], fun further => ?_⟩
    exact ((transition_step _ _).orderly now).not_mem_ids_run
      (now.not_mem_ids_submit found there still)
  · intro item member
    exact left.not_mem_ids_run (orderly.not_mem_ids_dropConsumer member)

/-- In any state that a new pool can reach, a party that leaves takes nothing away that the other
one could still take, and nothing comes after it; what the consumer had not received is lost, and
so is what is submitted later. The queue is reported to be closed only when the consumer is gone,
and the end of all lines only when the producer is gone and nothing is pending. -/
theorem leaving_of_run {size : Nat} (capacity : Nat) (positive : 0 < size)
    (earlier later : List Action) :
    ∃ pool, Pool.create size capacity = .ok pool ∧
      let before := (Exchange.run { pool } earlier).1
      WithoutProducer before.pool.pending.items (before.step .dropProducer).exchange later ∧
      WithoutConsumer before.pool.pending.items before.pool.free.items
        (before.step .dropConsumer).exchange later ∧
      (before.pool.hasConsumer = true →
        ∀ action, (before.step action).answer ≠ .refused .queueClosed) ∧
      ((before.step .receive).answer = .nothing →
        before.pool.hasProducer = false ∧ before.pool.pending.items = []) := by
  obtain ⟨pool, created⟩ := Pool.exists_create capacity positive
  have orderly := (Orderly.of_create created).run earlier
  exact ⟨pool, created, orderly.withoutProducer later, orderly.withoutConsumer later,
    orderly.step_ne_queueClosed, orderly.nothing_of_receive⟩

/-- Two items are pending and one is free. -/
def twoPending : List Action :=
  [.acquire, .fill 0 "a", .submit 0, .tryAcquire, .fill 1 "b", .submit 1]

/-- What either party may still try, in one list. -/
def afterwards : List Action :=
  [.receive, .release 0, .tryAcquire, .tryReceive, .acquire, .submit 2, .tryReceive, .acquire]

theorem leaving_of_run_two_pending :
    ∃ pool, Pool.create 3 4 = .ok pool ∧
      let before := (Exchange.run { pool } twoPending).1
      answersTo Action.isReceive (·.pool.hasConsumer)
          ((before.step .dropProducer).exchange.history afterwards) =
        [.item ⟨0, "a", 4⟩, .item ⟨1, "b", 4⟩, .nothing] ∧
      answersTo Action.isAcquire (·.pool.hasProducer)
          ((before.step .dropConsumer).exchange.history afterwards) =
        [.item ⟨2, "", 4⟩, .refused .queueClosed, .refused .queueClosed] ∧
      1 ∉ ((before.step .dropConsumer).exchange.run afterwards).1.ids := by
  obtain ⟨pool, created, producerLeft, consumerLeft, -, -⟩ :=
    leaving_of_run 4 (by decide : 0 < 3) twoPending afterwards
  refine ⟨pool, created, producerLeft.received.trans ?_, consumerLeft.acquired.trans ?_, ?_⟩
  · obtain ⟨-, rfl⟩ := Pool.create_eq_ok_iff.mp created
    decide +kernel
  · obtain ⟨-, rfl⟩ := Pool.create_eq_ok_iff.mp created
    decide +kernel
  · apply consumerLeft.pending_lost ⟨1, "b", 4⟩
    obtain ⟨-, rfl⟩ := Pool.create_eq_ok_iff.mp created
    decide +kernel

end Exchange

end CommandShell
