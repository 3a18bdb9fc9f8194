import CommandShell.Pool.Basic

/-!
# Exchanging items with a pool

An `Exchange` is a pool together with the items that somebody took out of it and
holds. `Exchange.step` does one action and gives its answer. Any held item may be
submitted or released, however it was obtained. An action that would wait is not
done, and its answer is `Exchange.Refusal.wouldBlock`.
-/

namespace CommandShell

/-- A pool and the items that are in somebody's hands. -/
structure Exchange : Type where
  pool : Pool
  held : List WorkItem := []
  deriving DecidableEq

namespace Exchange

/-- What can be done with a pool. -/
inductive Action : Type where
  | tryAcquire
  | acquire
  | fill (id : Nat) (text : String)
  | submit (id : Nat)
  | tryReceive
  | receive
  | release (id : Nat)
  | poolSize
  | dropProducer
  | dropConsumer
  deriving DecidableEq

/-- Why an action was not done, or failed. -/
inductive Refusal : Type where
  /-- Nobody holds an item of that number. -/
  | notHeld
  /-- The producer is gone. -/
  | noProducer
  /-- The consumer is gone, and the action is one of its own. -/
  | noConsumer
  /-- The action would wait for the other party. -/
  | wouldBlock
  /-- The consumer is gone, and the producer cannot go on. -/
  | queueClosed
  deriving DecidableEq

/-- What an action answers. -/
inductive Answer : Type where
  | item (item : WorkItem)
  | nothing
  | done
  | size (size : Nat)
  | refused (reason : Refusal)
  deriving DecidableEq

/-- An exchange after an action, the action's answer, and its events. -/
structure Outcome : Type where
  exchange : Exchange
  answer : Answer
  events : List Event := []
  deriving DecidableEq

/-- The held item of a number. -/
def find? (exchange : Exchange) (id : Nat) : Option WorkItem :=
  exchange.held.find? (·.id = id)

/-- The held items without those of a number. -/
def without (exchange : Exchange) (id : Nat) : List WorkItem :=
  exchange.held.filter (·.id ≠ id)

/-- An action that changes nothing. -/
def refuse (exchange : Exchange) (reason : Refusal) : Outcome :=
  ⟨exchange, .refused reason, []⟩

/-- Take an item out and hold it; `waiting` is the answer when there is none yet, `closed` when
there never will be one. -/
def take (exchange : Exchange) (receipt : Receipt WorkItem Pool) (waiting closed : Answer) :
    Outcome :=
  match receipt with
  | .item item pool => ⟨⟨pool, item :: exchange.held⟩, .item item, []⟩
  | .empty => ⟨exchange, waiting, []⟩
  | .closed => ⟨exchange, closed, []⟩

/-- Put a held item back into the pool by a delivery; an item that nobody will receive is gone. -/
def put (exchange : Exchange) (id : Nat) (delivery : Delivery Pool) (closed : Answer)
    (events : List Event) : Outcome :=
  match delivery with
  | .done pool => ⟨⟨pool, exchange.without id⟩, .done, events⟩
  | .full => exchange.refuse .wouldBlock
  | .closed => ⟨⟨exchange.pool, exchange.without id⟩, closed, events⟩

/-- Do one action. -/
def step (exchange : Exchange) : Action → Outcome
  | .tryAcquire =>
    if exchange.pool.hasProducer then
      exchange.take exchange.pool.acquire .nothing (.refused .queueClosed)
    else exchange.refuse .noProducer
  | .acquire =>
    if exchange.pool.hasProducer then
      exchange.take exchange.pool.acquire (.refused .wouldBlock) (.refused .queueClosed)
    else exchange.refuse .noProducer
  | .fill id text =>
    match exchange.find? id with
    | none => exchange.refuse .notHeld
    | some item =>
      ⟨⟨exchange.pool, item.fill text :: exchange.without id⟩, .item (item.fill text),
        item.fillRecords text⟩
  | .submit id =>
    if exchange.pool.hasProducer then
      match exchange.find? id with
      | none => exchange.refuse .notHeld
      | some item => exchange.put id (exchange.pool.submit item) (.refused .queueClosed) []
    else exchange.refuse .noProducer
  | .tryReceive =>
    if exchange.pool.hasConsumer then
      exchange.take exchange.pool.receive .nothing .nothing
    else exchange.refuse .noConsumer
  | .receive =>
    if exchange.pool.hasConsumer then
      exchange.take exchange.pool.receive (.refused .wouldBlock) .nothing
    else exchange.refuse .noConsumer
  | .release id =>
    if exchange.pool.hasConsumer then
      match exchange.find? id with
      | none => exchange.refuse .notHeld
      | some item =>
        exchange.put id (exchange.pool.release item) .done exchange.pool.releaseRecords
    else exchange.refuse .noConsumer
  | .poolSize =>
    if exchange.pool.hasConsumer then ⟨exchange, .size exchange.pool.size, []⟩
    else exchange.refuse .noConsumer
  | .dropProducer => ⟨⟨exchange.pool.dropProducer, exchange.held⟩, .done, []⟩
  | .dropConsumer => ⟨⟨exchange.pool.dropConsumer, exchange.held⟩, .done, []⟩

/-- Do actions one after the other: the exchange after them, and the outcome of each. -/
def run (exchange : Exchange) : List Action → Exchange × List Outcome
  | [] => (exchange, [])
  | action :: rest =>
    let outcome := exchange.step action
    let later := run outcome.exchange rest
    (later.1, outcome :: later.2)

end Exchange

end CommandShell
