import CommandShell.Proofs.Pool.History
import CommandShell.Proofs.Pool.Ownership
import CommandShell.Proofs.Relay.Schedule

/-!
# Lines in batches

Texts can be offered to a pool in batches, with a drain after each one. A batch that is no
larger than the pool always finds free items, and the drain that follows executes exactly
its lines, in order (`Shell.drain_holding`). It leaves the pool at rest again, with the items that
the batch used behind those that it did not (`Pool.AtRest.feed`).

So how texts are cut into batches makes no difference to the shell: it does what it does
when it executes the lines one after the other (`Shell.feedAll_of_run`).
-/

namespace CommandShell

/-! ## Items that went round -/

namespace WorkItem

variable {item : WorkItem} {items : List WorkItem} {batch : List String}

/-- An empty item that was filled and cleared is as it was before. -/
theorem clear_fill (blank : item.line = "") (text : String) : (item.fill text).clear = item := by
  rcases item with ⟨id, line, capacity⟩
  subst blank
  simp only [clear, fill]

theorem map_clear_zipWith_fill (blank : ∀ item ∈ items, item.line = "")
    (same : items.length = batch.length) :
    (List.zipWith fill items batch).map clear = items := by
  induction items generalizing batch with
  | nil => rfl
  | cons item rest ih =>
    cases batch with
    | nil => cases same
    | cons text texts =>
      obtain ⟨first, others⟩ := List.forall_mem_cons.mp blank
      rw [List.zipWith_cons_cons, List.map_cons, clear_fill first,
        ih others (Nat.succ.inj same)]

theorem map_line_zipWith_fill {capacity : Nat} (alike : ∀ item ∈ items, item.capacity = capacity)
    (same : items.length = batch.length) :
    (List.zipWith fill items batch).map line = batch.map (lineOf capacity) := by
  induction items generalizing batch with
  | nil =>
    rw [List.eq_nil_of_length_eq_zero same.symm]
    rfl
  | cons item rest ih =>
    cases batch with
    | nil => cases same
    | cons text texts =>
      obtain ⟨first, others⟩ := List.forall_mem_cons.mp alike
      rw [List.zipWith_cons_cons, List.map_cons, line_fill, first,
        ih others (Nat.succ.inj same), List.map_cons]

end WorkItem

/-! ## Offering a batch -/

/-- What offering texts to a pool gives: the answer to each, the pool, and the records. -/
structure Offers : Type where
  answers : List (Except Fault (Option Nat))
  pool : Pool
  records : List Event

namespace Pool

/-- Offer texts one after the other. -/
def offerAll (pool : Pool) : List String → Offers
  | [] => ⟨[], pool, []⟩
  | text :: rest =>
    let (answer, next, records) := pool.offer text
    let others := next.offerAll rest
    ⟨answer :: others.answers, others.pool, records ++ others.records⟩

/-- The pool with other items in its channels. -/
def holding (pool : Pool) (free pending : List WorkItem) : Pool :=
  { pool with
    free := { pool.free with items := free }
    pending := { pool.pending with items := pending } }

variable {pool : Pool} {free pending taken : List WorkItem} {batch : List String}

/-- While an item is free and the channel has room, the text is taken in by that item. -/
theorem offer_holding {item : WorkItem} (consumer : pool.hasConsumer = true)
    (room : pending.length < pool.pending.bound) (text : String) :
    (pool.holding (item :: free) pending).offer text =
      (.ok (some item.id), pool.holding free (pending ++ [item.fill text]),
        item.fillRecords text) := by
  have acquired : (pool.holding (item :: free) pending).acquire =
      .item item (pool.holding free pending) := acquire_eq_item_iff.mpr ⟨free, rfl, rfl⟩
  have submitted : (pool.holding free pending).submit (item.fill text) =
      .done (pool.holding free (pending ++ [item.fill text])) :=
    submit_eq_done_iff.mpr ⟨consumer, room, rfl⟩
  simp only [offer, acquired, submitted]

/-- A batch goes into as many free items as it has texts, one after the other. -/
theorem offerAll_holding (untouched : List WorkItem) (consumer : pool.hasConsumer = true)
    (same : taken.length = batch.length)
    (room : pending.length + batch.length ≤ pool.pending.bound) :
    let offers := (pool.holding (taken ++ untouched) pending).offerAll batch
    offers.answers = taken.map (fun item => .ok (some item.id)) ∧
      offers.pool = pool.holding untouched (pending ++ List.zipWith WorkItem.fill taken batch) ∧
      Event.outward offers.records = [] := by
  induction batch generalizing taken pending with
  | nil =>
    obtain rfl := List.eq_nil_of_length_eq_zero same
    exact ⟨rfl, by rw [offerAll, List.zipWith_nil_left, List.append_nil, List.nil_append], rfl⟩
  | cons text texts ih =>
    cases taken with
    | nil => cases same
    | cons item rest =>
      rw [List.length_cons] at room
      have first : (pool.holding (item :: (rest ++ untouched)) pending).offer text =
          (.ok (some item.id), pool.holding (rest ++ untouched) (pending ++ [item.fill text]),
            item.fillRecords text) := offer_holding consumer (by omega) text
      have room' : (pending ++ [item.fill text]).length + texts.length ≤ pool.pending.bound := by
        rw [List.length_append, List.length_singleton]
        omega
      obtain ⟨answers, after, records⟩ := ih (Nat.succ.inj same) room'
      simp only [List.cons_append, offerAll, first, answers, after, records, List.map_cons,
        List.zipWith_cons_cons, List.append_assoc, List.nil_append, Event.outward_append,
        WorkItem.outward_fillRecords, and_self]

end Pool

/-! ## Draining -/

namespace Shell

variable {shell : Shell} {pool next after : Pool} {item : WorkItem} {free pending : List WorkItem}

theorem drain_of_nothing (nothing : pool.pending.items = []) :
    shell.drain pool = ⟨⟨shell, []⟩, pool, 0⟩ := by
  unfold drain
  split
  · rfl
  · rfl
  · next item next received =>
    rw [Pool.pending_of_receive received] at nothing
    cases nothing

/-- The first pending item is handled and released, and then the others are drained. -/
theorem drain_of_done (received : pool.receive = .item item next)
    (released : next.release item = .done after) :
    shell.drain pool =
      let turn := shell.execute item.line
      let rest := turn.shell.drain after
      ⟨⟨rest.turn.shell, turn.events ++ rest.turn.events⟩, rest.pool, rest.count + 1⟩ := by
  rw [drain]
  split
  · next other => rw [received] at other; cases other
  · next other => rw [received] at other; cases other
  · next item' next' received' =>
    rw [received] at received'
    cases received'
    split
    · next full => rw [released] at full; cases full
    · next closed => rw [released] at closed; cases closed
    · next after' released' =>
      rw [released] at released'
      cases released'
      rfl

/-- A drain that finds room for the items executes the pending lines in order and returns the items,
emptied, behind the free ones. -/
theorem drain_holding (shell : Shell) (producer : pool.hasProducer = true)
    (room : free.length + pending.length ≤ pool.free.bound) :
    shell.drain (pool.holding free pending) =
      ⟨shell.executeAll (pending.map WorkItem.line),
        pool.holding (free ++ pending.map WorkItem.clear) [], pending.length⟩ := by
  -- Each item moves from the front of the pending ones to the end of the free ones, so their
  -- number, which is all that the room is for, stays the same.
  induction pending generalizing shell free with
  | nil =>
    rw [drain_of_nothing rfl, List.map_nil, List.map_nil, List.append_nil]
    rfl
  | cons item rest ih =>
    rw [List.length_cons] at room
    have received : (pool.holding free (item :: rest)).receive =
        .item item (pool.holding free rest) := Pool.receive_eq_item_iff.mpr ⟨rest, rfl, rfl⟩
    have released : (pool.holding free rest).release item =
        .done (pool.holding (free ++ [item.clear]) rest) :=
      Pool.release_eq_done_iff.mpr
        ⟨producer, (by omega : free.length < pool.free.bound), rfl⟩
    have room' : (free ++ [item.clear]).length + rest.length ≤ pool.free.bound := by
      rw [List.length_append, List.length_singleton]
      omega
    simp only [drain_of_done received released, ih _ room', List.map_cons, List.append_assoc,
      List.singleton_append, List.length_cons]
    rfl

end Shell

/-! ## A pool at rest -/

/-- Both parties of a pool are there, and all of its items are free, empty and of one capacity. -/
structure Pool.AtRest (size capacity : Nat) (pool : Pool) : Prop where
  wired : pool.Wired
  size_eq : pool.size = size
  producer : pool.hasProducer = true
  consumer : pool.hasConsumer = true
  pending : pool.pending.items = []
  length : pool.free.items.length = size
  blank : ∀ item ∈ pool.free.items, item.line = ""
  alike : ∀ item ∈ pool.free.items, item.capacity = capacity

variable {size capacity : Nat} {pool : Pool} {batch : List String}

namespace Exchange

/-- A party that is there after an action was there before, and the action was not to leave. -/
theorem stays_of_step {exchange : Exchange} {action : Action}
    (producer : (exchange.step action).exchange.pool.hasProducer = true)
    (consumer : (exchange.step action).exchange.pool.hasConsumer = true) :
    action.isDrop = false ∧ exchange.pool.hasProducer = true ∧
      exchange.pool.hasConsumer = true := by
  have stays : action.isDrop = false := by
    cases action with
    | dropProducer => cases producer
    | dropConsumer => cases consumer
    | _ => rfl
  have transition := transition_step exchange action
  refine ⟨stays, ?_, ?_⟩
  · rwa [transition.hasProducer_eq fun drop => by rw [drop] at stays; cases stays] at producer
  · rwa [transition.hasConsumer_eq fun drop => by rw [drop] at stays; cases stays] at consumer

/-- Parties that are there after a run were there all along. -/
theorem stay_of_run {exchange : Exchange} {actions : List Action}
    (producer : (exchange.run actions).1.pool.hasProducer = true)
    (consumer : (exchange.run actions).1.pool.hasConsumer = true) :
    (∀ action ∈ actions, action.isDrop = false) ∧ exchange.pool.hasProducer = true ∧
      exchange.pool.hasConsumer = true := by
  induction actions generalizing exchange with
  | nil => exact ⟨nofun, producer, consumer⟩
  | cons action rest ih =>
    obtain ⟨others, there, here⟩ := ih producer consumer
    obtain ⟨first, before⟩ := stays_of_step there here
    exact ⟨List.forall_mem_cons.mpr ⟨first, others⟩, before⟩

/-- A pool is at rest when, after any actions, both parties are there and no item is held or
pending. -/
theorem atRest_of_run {fresh : Pool} {actions : List Action}
    (created : Pool.create size capacity = .ok fresh)
    (reached : (run { pool := fresh } actions).1 = ⟨pool, []⟩)
    (producer : pool.hasProducer = true) (consumer : pool.hasConsumer = true)
    (pending : pool.pending.items = []) : pool.AtRest size capacity := by
  obtain ⟨stay, -, -⟩ := stay_of_run (by rwa [reached]) (by rwa [reached])
  have owned := (Owned.of_create created).run stay
  have stocked :=
    (holds_of_history (Stocked capacity) actions Transition.stocked (Stocked.of_create created)).2
  rw [reached] at owned stocked
  have count := owned.count
  simp only [pending, List.length_nil, Nat.add_zero] at count
  exact {
    wired := owned.wired
    size_eq := owned.size_eq
    producer
    consumer
    pending
    length := count
    blank := stocked.blank
    alike := fun item member => (stocked.free item member).capacity_eq
  }

end Exchange

namespace Pool.AtRest

/-- The pool is at rest still when its first free items become the last ones. -/
theorem rotate (rest : pool.AtRest size capacity) (count : Nat) :
    (pool.holding (pool.free.items.drop count ++ pool.free.items.take count) []).AtRest
      size capacity := by
  have same : (pool.free.items.drop count ++ pool.free.items.take count).Perm pool.free.items :=
    List.perm_append_comm.trans (.of_eq (List.take_append_drop count _))
  obtain ⟨freeBound, pendingBound, seesProducer, seesConsumer⟩ := rest.wired
  exact {
    wired := ⟨freeBound, pendingBound, seesProducer, seesConsumer⟩
    size_eq := rest.size_eq
    producer := rest.producer
    consumer := rest.consumer
    pending := rfl
    length := same.length_eq.trans rest.length
    blank := fun item member => rest.blank item (same.mem_iff.mp member)
    alike := fun item member => rest.alike item (same.mem_iff.mp member)
  }

/-- A batch that is no larger than the pool goes into the first free items, and the drain after it
executes its lines and puts these items behind the others. -/
theorem feed (rest : pool.AtRest size capacity) (few : batch.length ≤ size) (shell : Shell) :
    let taken := pool.free.items.take batch.length
    let untouched := pool.free.items.drop batch.length
    let offers := pool.offerAll batch
    offers.answers = taken.map (fun item => .ok (some item.id)) ∧
      offers.pool = pool.holding untouched (List.zipWith WorkItem.fill taken batch) ∧
      Event.outward offers.records = [] ∧
      shell.drain offers.pool =
        ⟨shell.executeAll (batch.map (WorkItem.lineOf capacity)),
          pool.holding (untouched ++ taken) [], batch.length⟩ := by
  intro taken untouched offers
  have all : taken ++ untouched = pool.free.items := List.take_append_drop ..
  have same : taken.length = batch.length :=
    List.length_take_of_le (by rwa [rest.length])
  have bounds : pool.pending.bound = size ∧ pool.free.bound = size :=
    ⟨rest.wired.pendingBound.trans rest.size_eq, rest.wired.freeBound.trans rest.size_eq⟩
  have whole : pool.holding (taken ++ untouched) [] = pool := by
    rw [all, ← rest.pending]
    rfl
  have fits : ([] : List WorkItem).length + batch.length ≤ pool.pending.bound := by
    rw [List.length_nil, Nat.zero_add, bounds.1]
    exact few
  obtain ⟨answers, after, records⟩ := offerAll_holding untouched rest.consumer same fits
  rw [whole, List.nil_append] at after
  rw [whole] at answers records
  have blank : ∀ item ∈ taken, item.line = "" :=
    fun item member => rest.blank item (List.mem_of_mem_take member)
  have alike : ∀ item ∈ taken, item.capacity = capacity :=
    fun item member => rest.alike item (List.mem_of_mem_take member)
  have filled : (List.zipWith WorkItem.fill taken batch).length = batch.length := by
    rw [List.length_zipWith, same, Nat.min_self]
  refine ⟨answers, after, records, ?_⟩
  have room : untouched.length + (List.zipWith WorkItem.fill taken batch).length =
      pool.free.bound := by
    rw [filled, ← same, Nat.add_comm, ← List.length_append, all, rest.length, bounds.2]
  -- The items were empty before they were filled, so releasing them gives the same items back.
  rw [after, Shell.drain_holding shell rest.producer (Nat.le_of_eq room),
    WorkItem.map_line_zipWith_fill alike same, WorkItem.map_clear_zipWith_fill blank same, filled]

end Pool.AtRest

/-! ## Batches -/

namespace Shell

/-- Offer a batch to a pool and drain the pool. -/
def feed (shell : Shell) (pool : Pool) (batch : List String) : Drained :=
  let offers := pool.offerAll batch
  let drained := shell.drain offers.pool
  { drained with turn := ⟨drained.turn.shell, offers.records ++ drained.turn.events⟩ }

/-- Offer batches one after the other, with a drain after each. -/
def feedAll (shell : Shell) (pool : Pool) : List (List String) → Drained
  | [] => ⟨⟨shell, []⟩, pool, 0⟩
  | batch :: rest =>
    let first := shell.feed pool batch
    let others := feedAll first.turn.shell first.pool rest
    ⟨⟨others.turn.shell, first.turn.events ++ others.turn.events⟩, others.pool,
      first.count + others.count⟩

variable {batches : List (List String)}

theorem executeAll_append (shell : Shell) (earlier later : List String) :
    shell.executeAll (earlier ++ later) =
      (shell.executeAll earlier).andThen (executeAll · later) := by
  induction earlier generalizing shell with
  | nil => rfl
  | cons line rest ih =>
    simp only [List.cons_append, executeAll, Turn.andThen, ih, List.append_assoc]

/-- After any number of batches the pool is at rest again, and the shell has executed their
lines. -/
theorem feedAll_of_atRest (shell : Shell) (rest : pool.AtRest size capacity)
    (few : ∀ batch ∈ batches, batch.length ≤ size) :
    (shell.feedAll pool batches).pool.AtRest size capacity ∧
      Relay.SameOutward (shell.feedAll pool batches).turn
        (shell.executeAll (batches.flatten.map (WorkItem.lineOf capacity))) := by
  induction batches generalizing shell pool with
  | nil => exact ⟨rest, rfl, rfl⟩
  | cons batch others ih =>
    obtain ⟨first, more⟩ := List.forall_mem_cons.mp few
    obtain ⟨-, -, records, drained⟩ := rest.feed first shell
    obtain ⟨last, shells, events⟩ :=
      ih (shell.executeAll (batch.map (WorkItem.lineOf capacity))).shell (rest.rotate batch.length)
        more
    simp only [feedAll, feed, drained]
    refine ⟨last, ?_, ?_⟩
    · simp only [List.flatten_cons, List.map_append, executeAll_append, Turn.shell_andThen, shells]
    · simp only [List.flatten_cons, List.map_append, executeAll_append, Turn.events_andThen,
        Event.outward_append, records, List.nil_append, events]

/-- Texts are offered to a pool in batches that are no larger than the pool, and the pool is drained
after each batch; whatever was done with the pool before, both parties are there and no item is held
or pending. Then the shell ends as it does when it executes the lines one after the other, and the
same was seen outside. Each batch is taken in by the first free items in order, and its drain
handles as many items as the batch has texts and leaves none pending: all items are free and empty
again, those that the batch did not use first, and then those that it used. -/
theorem feedAll_of_run (shell : Shell) {fresh : Pool} {actions : List Exchange.Action}
    (created : Pool.create size capacity = .ok fresh)
    (reached : (Exchange.run { pool := fresh } actions).1 = ⟨pool, []⟩)
    (producer : pool.hasProducer = true) (consumer : pool.hasConsumer = true)
    (pending : pool.pending.items = []) (few : ∀ batch ∈ batches, batch.length ≤ size) :
    let fed := shell.feedAll pool batches
    let direct := shell.executeAll (batches.flatten.map (WorkItem.lineOf capacity))
    fed.turn.shell = direct.shell ∧
    Event.outward fed.turn.events = Event.outward direct.events ∧
    Event.console fed.turn.events = Event.console direct.events ∧
    Event.calls fed.turn.events = Event.calls direct.events ∧
    ∀ earlier batch later, batches = earlier ++ batch :: later →
      let before := shell.feedAll pool earlier
      let taken := before.pool.free.items.take batch.length
      let untouched := before.pool.free.items.drop batch.length
      let offers := before.pool.offerAll batch
      let drained := before.turn.shell.drain offers.pool
      offers.answers = taken.map (fun item => .ok (some item.id)) ∧
      offers.pool.free.items = untouched ∧
      offers.pool.pending.items = List.zipWith WorkItem.fill taken batch ∧
      drained.count = batch.length ∧
      drained.pool.pending.items = [] ∧
      drained.pool.free.items = untouched ++ taken ∧
      drained.pool.free.items.length = size ∧
      ∀ item ∈ drained.pool.free.items, item.line = "" := by
  intro fed direct
  have rest := Exchange.atRest_of_run created reached producer consumer pending
  obtain ⟨-, same, events⟩ := feedAll_of_atRest shell rest few
  refine ⟨same, events, Event.console_eq_of_outward_eq events,
    Event.calls_eq_of_outward_eq events, ?_⟩
  rintro earlier batch later rfl
  intro before taken untouched offers drained
  have few' : ∀ batch ∈ earlier, batch.length ≤ size :=
    fun batch member => few batch (List.mem_append_left _ member)
  have fits : batch.length ≤ size := few batch (by simp)
  have rest' := (feedAll_of_atRest shell rest few').1
  obtain ⟨answers, after, -, drain⟩ := rest'.feed fits before.turn.shell
  have again := rest'.rotate batch.length
  have pool_eq : drained.pool = before.pool.holding (untouched ++ taken) [] :=
    congrArg Drained.pool drain
  rw [← pool_eq] at again
  refine ⟨answers, ?_, ?_, congrArg Drained.count drain, again.pending, ?_, again.length,
    again.blank⟩
  · exact congrArg (·.free.items) after
  · exact congrArg (·.pending.items) after
  · exact congrArg (·.free.items) pool_eq

/-- One item went round before, so that the two batches use the items in the order 1, 0, 1. -/
theorem feedAll_of_run_three_lines :
    let shell : Shell := { config := {}, registry := ⟨8, Demo.modules 0⟩ }
    let batches := [["math add 2 3 4"], ["select math\r\n", "mul 6 7"]]
    ∃ fresh pool, Pool.create 2 12 = .ok fresh ∧
      (Exchange.run { pool := fresh } [.acquire, .submit 0, .receive, .release 0]).1 = ⟨pool, []⟩ ∧
      Event.console (shell.feedAll pool batches).turn.events = "5\nshell> math> 42\nmath> " ∧
      Event.calls (shell.feedAll pool batches).turn.events =
        [(.command 1 0, ["add", "2", "3"]), (.command 1 1, ["mul", "6", "7"])] ∧
      let before := shell.feedAll pool [["math add 2 3 4"]]
      let drained :=
        before.turn.shell.drain (before.pool.offerAll ["select math\r\n", "mul 6 7"]).pool
      drained.count = 2 ∧ drained.pool.free.items.map WorkItem.id = [0, 1] := by
  intro shell batches
  obtain ⟨fresh, created⟩ := Pool.exists_create 12 (by decide : 0 < 2)
  obtain ⟨pool, reached, producer, consumer, pending, free⟩ : ∃ pool,
      (Exchange.run { pool := fresh } [.acquire, .submit 0, .receive, .release 0]).1 = ⟨pool, []⟩ ∧
      pool.hasProducer = true ∧ pool.hasConsumer = true ∧ pool.pending.items = [] ∧
      pool.free.items.map WorkItem.id = [1, 0] := by
    obtain ⟨-, rfl⟩ := Pool.create_eq_ok_iff.mp created
    exact ⟨_, rfl, rfl, rfl, rfl, rfl⟩
  have few : ∀ batch ∈ batches, batch.length ≤ 2 := by decide
  obtain ⟨-, -, console, calls, each⟩ :=
    feedAll_of_run shell created reached producer consumer pending few
  obtain ⟨-, -, -, count, -, after, -, -⟩ := each [["math add 2 3 4"]] _ [] rfl
  obtain ⟨-, -, -, -, -, first, -, -⟩ := each [] _ _ rfl
  have turned : (shell.feedAll pool [["math add 2 3 4"]]).pool.free.items.map WorkItem.id =
      [0, 1] := by
    have ids := congrArg (List.map WorkItem.id) first
    rw [List.map_append, List.map_drop, List.map_take] at ids
    exact ids.trans (congrArg (fun ids => ids.drop 1 ++ ids.take 1) free)
  refine ⟨fresh, pool, created, reached, console.trans ?_, calls.trans ?_, count, ?_⟩
  · decide +kernel
  · decide +kernel
  · rw [after, List.map_append, List.map_drop, List.map_take, turned]
    rfl

end Shell

end CommandShell
