import CommandShell.Proofs.Pool.Transition

/-!
# Every item is in exactly one place

As long as both parties of a pool are there, each of its items is free, pending or in
somebody's hands, and only one of these, whatever was done with the pool before. The
invariant is `Exchange.Owned`: the numbers found in the three places are those of the
new pool in another order. It holds at the start, each transition keeps it, and so it
holds after any actions (`Exchange.Owned.run`).

Counting gives the rest: a held item leaves room in both channels, so it can always be
submitted and always be released.
-/

namespace CommandShell

namespace Exchange

/-- The numbers of all items: the free ones, the pending ones and the held ones. -/
def ids (exchange : Exchange) : List Nat :=
  exchange.pool.free.items.map WorkItem.id ++ exchange.pool.pending.items.map WorkItem.id
    ++ exchange.held.map WorkItem.id

/-- Whether a party leaves by an action. -/
def Action.isDrop : Action → Bool
  | .dropProducer | .dropConsumer => true
  | _ => false

/-- Both parties are there, and each number below `size` is in one place. -/
structure Owned (size : Nat) (exchange : Exchange) : Prop where
  wired : exchange.pool.Wired
  size_eq : exchange.pool.size = size
  producer : exchange.pool.hasProducer = true
  consumer : exchange.pool.hasConsumer = true
  ids_perm : exchange.ids.Perm (List.range size)

variable {size capacity : Nat} {exchange : Exchange}

/-! ## Where an action takes the items -/

/-- Taking a held item out of somebody's hands takes its number out of the list. -/
theorem ids_perm_of_find? {id : Nat} {item : WorkItem} (distinct : exchange.ids.Nodup)
    (found : exchange.find? id = some item) :
    exchange.ids.Perm (item.id :: (exchange.pool.free.items.map WorkItem.id ++
      exchange.pool.pending.items.map WorkItem.id ++
      (exchange.without id).map WorkItem.id)) := by
  have held := (held_perm_of_find? (List.nodup_append.mp distinct).2.1 found).map WorkItem.id
  rw [List.map_cons] at held
  exact (held.append_left _).trans List.perm_middle

/-- The pending items are lost when the consumer leaves. -/
theorem ids_perm_dropConsumer (exchange : Exchange) :
    exchange.ids.Perm (exchange.pool.pending.items.map WorkItem.id ++
      (exchange.step .dropConsumer).exchange.ids) := by
  simp only [ids, step, Pool.dropConsumer, Channel.dropReceiver, Channel.dropSender, List.map_nil,
    List.append_nil, List.append_assoc]
  exact List.perm_append_comm_assoc _ _ _

/-- An action moves items from place to place, or it loses some; it loses none as long as both
parties are there. -/
theorem Transition.exists_lost {action : Action} {outcome : Outcome}
    (transition : Transition exchange action outcome) (distinct : exchange.ids.Nodup) :
    ∃ lost, exchange.ids.Perm (lost ++ outcome.exchange.ids) ∧
      (exchange.pool.hasProducer = true → exchange.pool.hasConsumer = true →
        action.isDrop = false → lost = []) := by
  cases transition with
  | idle => exact ⟨[], .refl _, fun _ _ _ => rfl⟩
  | acquired _ _ items =>
    refine ⟨[], ?_, fun _ _ _ => rfl⟩
    simp only [ids, items, List.map_cons, List.nil_append]
    exact List.perm_middle.symm
  | received _ _ items =>
    refine ⟨[], ?_, fun _ _ _ => rfl⟩
    simp only [ids, items, List.map_cons, List.nil_append, List.append_assoc]
    exact List.perm_middle.symm.append_left _
  | filled found =>
    refine ⟨[], ?_, fun _ _ _ => rfl⟩
    simp only [ids, List.map_cons, WorkItem.id_fill, List.nil_append]
    exact (ids_perm_of_find? distinct found).trans List.perm_middle.symm
  | submitted found =>
    refine ⟨[], ?_, fun _ _ _ => rfl⟩
    have moved := (ids_perm_of_find? distinct found).trans List.perm_middle.symm
    simpa only [ids, List.map_append, List.map_cons, List.map_nil, List.append_assoc,
      List.nil_append, List.singleton_append] using moved
  | released found =>
    refine ⟨[], ?_, fun _ _ _ => rfl⟩
    have taken := ids_perm_of_find? distinct found
    simp only [ids, List.map_append, List.map_cons, List.map_nil, List.append_assoc,
      List.nil_append, List.singleton_append, WorkItem.id_clear] at taken ⊢
    exact taken.trans List.perm_middle.symm
  | @rejected id item found _ gone =>
    refine ⟨[item.id], ids_perm_of_find? distinct found, fun _ consumer _ => ?_⟩
    rw [consumer] at gone
    cases gone
  | @discarded id item found _ gone =>
    refine ⟨[item.id], ids_perm_of_find? distinct found, fun producer _ _ => ?_⟩
    rw [producer] at gone
    cases gone
  | producerLeft =>
    refine ⟨exchange.pool.free.items.map WorkItem.id, ?_, nofun⟩
    simp only [ids, Pool.dropProducer, Channel.dropReceiver, Channel.dropSender, List.map_nil,
      List.nil_append, List.append_assoc]
    exact .refl _
  | consumerLeft => exact ⟨_, ids_perm_dropConsumer exchange, nofun⟩

/-! ## The invariant along a run -/

theorem Owned.of_create {pool : Pool} (created : Pool.create size capacity = .ok pool) :
    Owned size { pool } := by
  have wired := Pool.Wired.of_create created
  obtain ⟨_, rfl⟩ := Pool.create_eq_ok_iff.mp created
  refine ⟨wired, rfl, rfl, rfl, ?_⟩
  have numbers : ((List.range size).map (WorkItem.empty capacity)).map WorkItem.id =
      List.range size := by
    rw [List.map_map]
    exact List.map_id _
  simp only [ids, numbers, List.map_nil, List.append_nil]
  exact List.Perm.refl _

/-- An action that leaves both parties there moves items without losing or doubling one. -/
theorem Owned.transition {action : Action} {outcome : Outcome} (owned : Owned size exchange)
    (stays : action.isDrop = false) (transition : Transition exchange action outcome) :
    Owned size outcome.exchange := by
  obtain ⟨wired, sameSize⟩ := transition.wired owned.wired
  have distinct : exchange.ids.Nodup := owned.ids_perm.nodup_iff.mpr List.nodup_range
  obtain ⟨lost, perm, kept⟩ := transition.exists_lost distinct
  obtain rfl := kept owned.producer owned.consumer stays
  have producer := transition.hasProducer_eq fun drop => by rw [drop] at stays; cases stays
  have consumer := transition.hasConsumer_eq fun drop => by rw [drop] at stays; cases stays
  exact ⟨wired, sameSize.trans owned.size_eq, producer.trans owned.producer,
    consumer.trans owned.consumer, perm.symm.trans owned.ids_perm⟩

theorem Owned.run {actions : List Action} (owned : Owned size exchange)
    (stay : ∀ action ∈ actions, action.isDrop = false) :
    Owned size (exchange.run actions).1 := by
  induction actions generalizing exchange with
  | nil => exact owned
  | cons action rest ih =>
    have stays := stay action (List.mem_cons_self ..)
    have next := owned.transition stays (transition_step exchange action)
    exact ih next fun later member => stay later (List.mem_cons_of_mem _ member)

/-! ## Room for every held item -/

theorem Owned.count (owned : Owned size exchange) :
    exchange.pool.free.items.length + exchange.pool.pending.items.length
      + exchange.held.length = size := by
  simpa [ids, Nat.add_assoc] using owned.ids_perm.length_eq

theorem Owned.submit_done (owned : Owned size exchange) {item : WorkItem}
    (held : item ∈ exchange.held) : ∃ next, exchange.pool.submit item = .done next := by
  have positive := List.length_pos_of_mem held
  have count := owned.count
  have bound := owned.wired.pendingBound.trans owned.size_eq
  exact ⟨_, Pool.submit_eq_done_iff.mpr ⟨owned.consumer, by omega, rfl⟩⟩

theorem Owned.release_done (owned : Owned size exchange) {item : WorkItem}
    (held : item ∈ exchange.held) : ∃ next, exchange.pool.release item = .done next := by
  have positive := List.length_pos_of_mem held
  have count := owned.count
  have bound := owned.wired.freeBound.trans owned.size_eq
  exact ⟨_, Pool.release_eq_done_iff.mpr ⟨owned.producer, by omega, rfl⟩⟩

/-! ## When nothing is free -/

theorem Owned.tryAcquire_nothing_iff (owned : Owned size exchange) :
    (exchange.step .tryAcquire).answer = .nothing ↔ exchange.pool.free.items = [] := by
  have sender := owned.wired.consumer.trans owned.consumer
  simp only [step, owned.producer, if_true]
  cases answer : exchange.pool.acquire with
  | item item next =>
    obtain ⟨rest, items, _⟩ := Pool.acquire_eq_item_iff.mp answer
    simp [take, items]
  | empty => simpa [take] using (Pool.acquire_eq_empty_iff.mp answer).1
  | closed =>
    have gone := (Pool.acquire_eq_closed_iff.mp answer).2
    rw [sender] at gone
    cases gone

/-- No item is free exactly when every number is pending or held. -/
theorem Owned.free_nil_iff (owned : Owned size exchange) :
    exchange.pool.free.items = [] ↔
      ∀ id < size, id ∈ exchange.pool.pending.items.map WorkItem.id ∨
        id ∈ exchange.held.map WorkItem.id := by
  have distinct : exchange.ids.Nodup := owned.ids_perm.nodup_iff.mpr List.nodup_range
  constructor
  · intro nothing id below
    have member : id ∈ exchange.ids := owned.ids_perm.mem_iff.mpr (List.mem_range.mpr below)
    simpa [ids, nothing] using member
  · intro taken
    apply List.eq_nil_iff_forall_not_mem.mpr
    intro item free
    have number : item.id ∈ exchange.pool.free.items.map WorkItem.id :=
      List.mem_map_of_mem free
    have below : item.id < size := by
      apply List.mem_range.mp
      apply owned.ids_perm.mem_iff.mp
      simp [ids, number]
    rw [ids, List.append_assoc, List.nodup_append] at distinct
    rcases taken item.id below with pending | held
    · exact distinct.2.2 item.id number item.id (List.mem_append_left _ pending) rfl
    · exact distinct.2.2 item.id number item.id (List.mem_append_right _ held) rfl

/-- After any actions on a new pool that both parties stay for, the items are those of the new
pool, each in one place; whoever holds an item can submit it and can release it; and there is
nothing to acquire exactly when every item is pending or held. -/
theorem ids_perm_range {size : Nat} (capacity : Nat) (positive : 0 < size) (actions : List Action)
    (stay : ∀ action ∈ actions, action.isDrop = false) :
    ∃ pool, Pool.create size capacity = .ok pool ∧
      let exchange := (Exchange.run { pool } actions).1
      exchange.ids.Perm (List.range size) ∧
      (∀ item ∈ exchange.held,
        (∃ next, exchange.pool.submit item = .done next) ∧
        ∃ next, exchange.pool.release item = .done next) ∧
      ((exchange.step .tryAcquire).answer = .nothing ↔
        ∀ id < size, id ∈ exchange.pool.pending.items.map WorkItem.id ∨
          id ∈ exchange.held.map WorkItem.id) := by
  obtain ⟨pool, created⟩ := Pool.exists_create capacity positive
  refine ⟨pool, created, ?_⟩
  have owned := (Owned.of_create created).run stay
  refine ⟨owned.ids_perm, ?_, ?_⟩
  · intro item held
    exact ⟨owned.submit_done held, owned.release_done held⟩
  · exact owned.tryAcquire_nothing_iff.trans owned.free_nil_iff

/-- Two items that go round the wrong way: one is submitted by who received it, the other is
released by who acquired it. -/
def crossed : List Action :=
  [.acquire, .fill 0 "ab", .submit 0, .receive, .submit 0, .acquire, .release 1, .tryAcquire,
    .tryReceive]

theorem ids_perm_range_crossed :
    ∃ pool, Pool.create 2 8 = .ok pool ∧
      let exchange := (Exchange.run { pool } crossed).1
      exchange.held.map WorkItem.id = [0, 1] ∧ exchange.ids.Perm [0, 1] ∧
      (exchange.step .tryAcquire).answer = .nothing := by
  have stay : ∀ action ∈ crossed, action.isDrop = false := by decide
  obtain ⟨pool, created, perm, -, nothing⟩ := ids_perm_range 8 (by decide : 0 < 2) _ stay
  refine ⟨pool, created, ?_, perm, nothing.mpr ?_⟩
  · obtain ⟨-, rfl⟩ := Pool.create_eq_ok_iff.mp created
    rfl
  · obtain ⟨-, rfl⟩ := Pool.create_eq_ok_iff.mp created
    decide

end Exchange

end CommandShell
