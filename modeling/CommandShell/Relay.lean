import CommandShell.Shell.Drain

/-!
# Two parties and a pool

A producer sends lines through a pool, each one acquired, filled and submitted, and
then goes away; before that it may put a farewell into the log. A consumer receives,
executes and releases items until nothing is pending and the producer is gone.
`Relay.produce?` and `Relay.consume?` are one step of either party; each answers
`none` when its party has finished or has to wait. Any order of steps is a run of the
relay. `Relay.finish` is the run in which the consumer goes first whenever it can.
-/

namespace CommandShell

/-- What the producer is about to do. -/
inductive Producer : Type where
  /-- Acquire an item for the first line; when there is none say farewell, or go away. -/
  | ready (lines : List String)
  /-- Fill the first line into the item. -/
  | acquired (item : WorkItem) (line : String) (rest : List String)
  /-- Submit the item. -/
  | filled (item : WorkItem) (rest : List String)
  /-- Nothing: it is gone. -/
  | gone

/-- What the consumer is about to do. -/
inductive Consumer : Type where
  /-- Receive an item, or stop when none will come. -/
  | waiting
  /-- Execute the item's line. -/
  | received (item : WorkItem)
  /-- Release the item. -/
  | handled (item : WorkItem)
  /-- Nothing: it has stopped. -/
  | stopped

/-- How many steps the producer has before it at most. -/
def Producer.work : Producer → Nat
  | .ready lines => 3 * lines.length + 1
  | .acquired _ _ rest => 3 * rest.length + 3
  | .filled _ rest => 3 * rest.length + 2
  | .gone => 0

/-- How many steps the consumer has before it at most, when this many items still come. -/
def Consumer.work (coming : Nat) : Consumer → Nat
  | .waiting => 3 * coming + 1
  | .received _ => 3 * coming + 3
  | .handled _ => 3 * coming + 2
  | .stopped => 0

/-- How many lines the producer has still to submit. -/
def Producer.coming : Producer → Nat
  | .ready lines => lines.length
  | .acquired _ _ rest | .filled _ rest => rest.length + 1
  | .gone => 0

/-- Both parties, the pool between them, the consumer's shell, and the events so far. -/
structure Relay : Type where
  producer : Producer
  consumer : Consumer := .waiting
  pool : Pool
  shell : Shell
  events : List Event := []
  /-- What the producer has still to put into the log when there are no more lines. -/
  farewell : Option String := none

namespace Relay

/-- A relay of lines, before the first step. -/
def start (shell : Shell) (pool : Pool) (lines : List String)
    (farewell : Option String := none) : Relay :=
  { producer := .ready lines, pool, shell, farewell }

/-- One step of the producer. -/
def produce? (relay : Relay) : Option Relay :=
  match relay.producer with
  | .ready [] =>
    match relay.farewell with
    | some text =>
      some { relay with farewell := none, events := relay.events ++ [.logged .debug text] }
    | none => some { relay with producer := .gone, pool := relay.pool.dropProducer }
  | .ready (line :: rest) =>
    match relay.pool.acquire with
    | .item item pool => some { relay with producer := .acquired item line rest, pool }
    | .empty => none
    | .closed => some { relay with producer := .gone, pool := relay.pool.dropProducer }
  | .acquired item line rest =>
    some { relay with
      producer := .filled (item.fill line) rest
      events := relay.events ++ item.fillRecords line }
  | .filled item rest =>
    match relay.pool.submit item with
    | .done pool => some { relay with producer := .ready rest, pool }
    | .full => none
    | .closed => some { relay with producer := .gone, pool := relay.pool.dropProducer }
  | .gone => none

/-- One step of the consumer. -/
def consume? (relay : Relay) : Option Relay :=
  match relay.consumer with
  | .waiting =>
    match relay.pool.receive with
    | .item item pool => some { relay with consumer := .received item, pool }
    | .empty => none
    | .closed =>
      some { relay with
        consumer := .stopped
        events := relay.events ++ [.logged .info "line queue closed, shell stopping"] }
  | .received item =>
    let turn := relay.shell.handle (some item)
    some { relay with
      consumer := .handled item
      shell := turn.shell
      events := relay.events ++ turn.events }
  | .handled item =>
    match relay.pool.release item with
    | .done pool => some { relay with consumer := .waiting, pool }
    | .full => none
    | .closed =>
      some { relay with
        consumer := .waiting
        events := relay.events ++ relay.pool.releaseRecords }
  | .stopped => none

/-- The two parties. -/
inductive Party : Type where
  | producer
  | consumer
  deriving DecidableEq

/-- One step of a party. -/
def step? (relay : Relay) : Party → Option Relay
  | .producer => relay.produce?
  | .consumer => relay.consume?

/-- Whether both parties have finished. -/
def isFinished (relay : Relay) : Bool :=
  match relay.producer, relay.consumer with
  | .gone, .stopped => true
  | _, _ => false

/-- How many steps both parties have before them at most. -/
def work (relay : Relay) : Nat :=
  relay.producer.work + relay.farewell.toList.length
    + relay.consumer.work (relay.producer.coming + relay.pool.pending.items.length)

/-- Take at most this many steps, the consumer's first. -/
def advance : Nat → Relay → Relay
  | 0, relay => relay
  | steps + 1, relay =>
    match relay.consume? with
    | some next => advance steps next
    | none =>
      match relay.produce? with
      | some next => advance steps next
      | none => relay

/-- Run both parties to their end, the consumer first whenever it can go on. -/
def finish (relay : Relay) : Relay :=
  advance relay.work relay

end Relay

end CommandShell
