import CommandShell.Channel
import CommandShell.Memory
import CommandShell.WorkItem

/-!
# The line pool

A fixed number of work items goes round between a producer and a consumer. The
producer acquires a free item, fills it and submits it; the consumer receives it,
uses its line and releases it. An item is free, pending, or in somebody's hands,
and when no item is free the producer waits: that is all the flow control.

The free items are a channel from the consumer to the producer, the pending ones a
channel back, each with room for every item.
-/

namespace CommandShell

/-- The two channels of a pool of `size` line buffers. -/
structure Pool : Type where
  size : Nat
  free : Channel WorkItem
  pending : Channel WorkItem
  deriving DecidableEq

namespace Pool

/-- A pool of at least one item, all of them free. -/
def create (size capacity : Nat) : Except Fault Pool :=
  if size = 0 then
    .error (.invalidConfig "line pool needs at least one item")
  else
    .ok {
      size
      free := { bound := size, items := (List.range size).map (WorkItem.empty capacity) }
      pending := { bound := size } }

/-- The memory that a new pool asks for: two channels, with five words for an item and one for its
place, and then the text of each item. -/
def requests (size capacity : Nat) : List Nat :=
  48 * size :: 48 * size :: List.replicate size capacity

/-- A pool of at least one item for which memory has to be found. -/
def allocate (memory : Memory) (size capacity : Nat) : Option (Except Fault Pool) :=
  memory.provide (requests size capacity) (create size capacity)

/-- The record of a new pool. -/
def createRecords (size capacity : Nat) : List Event :=
  if size = 0 then []
  else
    [.logged .debug ("line pool ready: " ++ toString size ++ " buffers of "
      ++ toString capacity ++ " bytes")]

theorem console_createRecords (size capacity : Nat) :
    Event.console (createRecords size capacity) = "" := by
  unfold createRecords
  split <;> rfl

/-! ## The producer's side -/

/-- Whether the producer is there. -/
def hasProducer (pool : Pool) : Bool :=
  pool.free.hasReceiver

/-- Take a free item. -/
def acquire (pool : Pool) : Receipt WorkItem Pool :=
  pool.free.receive.map fun free => { pool with free }

/-- Queue an item for the consumer. -/
def submit (pool : Pool) (item : WorkItem) : Delivery Pool :=
  (pool.pending.send item).map fun pending => { pool with pending }

/-- The producer goes away. -/
def dropProducer (pool : Pool) : Pool :=
  { pool with free := pool.free.dropReceiver, pending := pool.pending.dropSender }

/-! ## The consumer's side -/

/-- Whether the consumer is there. -/
def hasConsumer (pool : Pool) : Bool :=
  pool.pending.hasReceiver

/-- Take the oldest pending item. -/
def receive (pool : Pool) : Receipt WorkItem Pool :=
  pool.pending.receive.map fun pending => { pool with pending }

/-- Return an item, emptied, to the free ones. -/
def release (pool : Pool) (item : WorkItem) : Delivery Pool :=
  (pool.free.send item.clear).map fun free => { pool with free }

/-- The record of releasing an item that nobody will acquire again. -/
def releaseRecords (pool : Pool) : List Event :=
  if pool.hasProducer then []
  else [.logged .debug "producer gone, line buffer discarded"]

/-- The consumer goes away. -/
def dropConsumer (pool : Pool) : Pool :=
  { pool with pending := pool.pending.dropReceiver, free := pool.free.dropSender }

/-! ## Lines into the pool -/

/-- Acquire an item, fill a text in and submit it: the item's number, or nothing when the producer
would have to wait. -/
def offer (pool : Pool) (text : String) : Except Fault (Option Nat) × Pool × List Event :=
  match pool.acquire with
  | .closed => (.error .queueClosed, pool, [])
  | .empty => (.ok none, pool, [])
  | .item item pool =>
    match pool.submit (item.fill text) with
    | .done pool => (.ok (some item.id), pool, item.fillRecords text)
    | .full => (.ok none, pool, item.fillRecords text)
    | .closed => (.error .queueClosed, pool, item.fillRecords text)

/-! ## When an operation gives which answer -/

variable {pool next : Pool} {item : WorkItem} {size capacity : Nat}

/-- A pool can be made of any number of items but none. -/
theorem create_eq_ok_iff :
    create size capacity = .ok pool ↔
      0 < size ∧ pool =
        { size
          free := { bound := size, items := (List.range size).map (WorkItem.empty capacity) }
          pending := { bound := size } } := by
  unfold create
  split
  · next zero => simp [zero]
  · next nonzero => simp [Nat.pos_of_ne_zero nonzero, eq_comm (a := pool)]

theorem exists_create (capacity : Nat) (positive : 0 < size) :
    ∃ pool, create size capacity = .ok pool :=
  ⟨_, create_eq_ok_iff.mpr ⟨positive, rfl⟩⟩

theorem acquire_eq_item_iff :
    pool.acquire = .item item next ↔
      ∃ rest, pool.free.items = item :: rest ∧
        next = { pool with free := { pool.free with items := rest } } := by
  unfold acquire
  rw [Receipt.map_eq_item_iff]
  constructor
  · rintro ⟨inner, received, rfl⟩
    obtain ⟨rest, items, rfl⟩ := Channel.receive_eq_item_iff.mp received
    exact ⟨rest, items, rfl⟩
  · rintro ⟨rest, items, rfl⟩
    exact ⟨_, Channel.receive_eq_item_iff.mpr ⟨rest, items, rfl⟩, rfl⟩

theorem acquire_eq_empty_iff :
    pool.acquire = .empty ↔ pool.free.items = [] ∧ pool.free.hasSender = true := by
  simp [acquire, Channel.receive_eq_empty_iff]

theorem acquire_eq_closed_iff :
    pool.acquire = .closed ↔ pool.free.items = [] ∧ pool.free.hasSender = false := by
  simp [acquire, Channel.receive_eq_closed_iff]

theorem submit_eq_done_iff :
    pool.submit item = .done next ↔
      pool.hasConsumer = true ∧ pool.pending.items.length < pool.pending.bound ∧
        next = { pool with
          pending := { pool.pending with items := pool.pending.items ++ [item] } } := by
  simp [submit, hasConsumer, Delivery.map_eq_done_iff, Channel.send_eq_done_iff, and_assoc]

theorem submit_eq_full_iff :
    pool.submit item = .full ↔
      pool.hasConsumer = true ∧ pool.pending.bound ≤ pool.pending.items.length := by
  simp [submit, hasConsumer, Channel.send_eq_full_iff]

theorem submit_eq_closed_iff : pool.submit item = .closed ↔ pool.hasConsumer = false := by
  simp [submit, hasConsumer, Channel.send_eq_closed_iff]

theorem receive_eq_item_iff :
    pool.receive = .item item next ↔
      ∃ rest, pool.pending.items = item :: rest ∧
        next = { pool with pending := { pool.pending with items := rest } } := by
  unfold receive
  rw [Receipt.map_eq_item_iff]
  constructor
  · rintro ⟨inner, received, rfl⟩
    obtain ⟨rest, items, rfl⟩ := Channel.receive_eq_item_iff.mp received
    exact ⟨rest, items, rfl⟩
  · rintro ⟨rest, items, rfl⟩
    exact ⟨_, Channel.receive_eq_item_iff.mpr ⟨rest, items, rfl⟩, rfl⟩

theorem receive_eq_empty_iff :
    pool.receive = .empty ↔ pool.pending.items = [] ∧ pool.pending.hasSender = true := by
  simp [receive, Channel.receive_eq_empty_iff]

theorem receive_eq_closed_iff :
    pool.receive = .closed ↔ pool.pending.items = [] ∧ pool.pending.hasSender = false := by
  simp [receive, Channel.receive_eq_closed_iff]

theorem release_eq_done_iff :
    pool.release item = .done next ↔
      pool.hasProducer = true ∧ pool.free.items.length < pool.free.bound ∧
        next = { pool with
          free := { pool.free with items := pool.free.items ++ [item.clear] } } := by
  simp [release, hasProducer, Delivery.map_eq_done_iff, Channel.send_eq_done_iff, and_assoc]

theorem release_eq_full_iff :
    pool.release item = .full ↔
      pool.hasProducer = true ∧ pool.free.bound ≤ pool.free.items.length := by
  simp [release, hasProducer, Channel.send_eq_full_iff]

theorem release_eq_closed_iff : pool.release item = .closed ↔ pool.hasProducer = false := by
  simp [release, hasProducer, Channel.send_eq_closed_iff]

/-! ## The two channels belong together -/

/-- Both channels have room for every item and see the same two parties. -/
structure Wired (pool : Pool) : Prop where
  freeBound : pool.free.bound = pool.size
  pendingBound : pool.pending.bound = pool.size
  producer : pool.pending.hasSender = pool.hasProducer
  consumer : pool.free.hasSender = pool.hasConsumer

theorem Wired.of_create (created : create size capacity = .ok pool) : pool.Wired := by
  obtain ⟨_, rfl⟩ := create_eq_ok_iff.mp created
  exact ⟨rfl, rfl, rfl, rfl⟩

/-! ## What an operation leaves alone -/

theorem pending_of_receive (received : pool.receive = .item item next) :
    pool.pending.items = item :: next.pending.items := by
  obtain ⟨rest, items, rfl⟩ := receive_eq_item_iff.mp received
  exact items

theorem pending_of_release (released : pool.release item = .done next) :
    next.pending = pool.pending := by
  obtain ⟨_, _, rfl⟩ := release_eq_done_iff.mp released
  rfl

end Pool

end CommandShell
