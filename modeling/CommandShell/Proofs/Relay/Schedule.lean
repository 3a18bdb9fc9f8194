import CommandShell.Demo
import CommandShell.Relay

/-!
# Every schedule of a relay does the same

A schedule says which party takes the next step, and `Relay.follow?` takes the steps
of one, as long as none of them would have to wait. Whatever the schedule, a relay
never gets stuck, it ends after at most six steps a line and two more, or three if there
is a farewell, and then the shell has executed the lines in order as if there were no pool
at all.

`Relay.Move` lists what a step can do, and three facts carry the argument:

* `Relay.Balanced` is the invariant. As long as the producer is there its item, the
  consumer's item, the free and the pending ones are all the items of the pool.
* `Relay.work` goes down with every step.
* `Relay.outlook`, what becomes of the shell when the remaining lines are executed
  right away, is the same after every step, up to log records.

`Relay.finish` follows one of the schedules that end (`Relay.Balanced.exists_follow?_finish`).
-/

namespace CommandShell

/-! ## Where the items and the lines are -/

/-- The item in the producer's hands. -/
def Producer.held : Producer → List WorkItem
  | .ready _ | .gone => []
  | .acquired item _ _ | .filled item _ => [item]

/-- The item in the consumer's hands. -/
def Consumer.held : Consumer → List WorkItem
  | .waiting | .stopped => []
  | .received item | .handled item => [item]

/-- The lines that a producer has still to submit, as an item of a capacity takes them. -/
def Producer.upcoming (capacity : Nat) : Producer → List String
  | .ready lines => lines.map (WorkItem.lineOf capacity)
  | .acquired _ line rest => (line :: rest).map (WorkItem.lineOf capacity)
  | .filled item rest => item.line :: rest.map (WorkItem.lineOf capacity)
  | .gone => []

/-- The line that a consumer has received and not executed. -/
def Consumer.unread : Consumer → List String
  | .received item => [item.line]
  | .waiting | .handled _ | .stopped => []

namespace Relay

/-- The lines that are not executed yet, in the order in which they will be. -/
def remaining (capacity : Nat) (relay : Relay) : List String :=
  relay.consumer.unread ++ relay.pool.pending.items.map WorkItem.line
    ++ relay.producer.upcoming capacity

/-- What becomes of a relay whose remaining lines are executed right away. -/
def outlook (capacity : Nat) (relay : Relay) : Turn :=
  (Turn.mk relay.shell relay.events).andThen (·.executeAll (relay.remaining capacity))

/-- Take the steps of a schedule, if none of them has to wait. -/
def follow? (relay : Relay) : List Party → Option Relay
  | [] => some relay
  | party :: rest => (relay.step? party).bind (follow? · rest)

/-! ## What a step can do -/

/-- The steps of a relay whose consumer stays until the producer is gone. -/
inductive Move (before : Relay) : Relay → Prop
  | acquired {line : String} {rest : List String} {item : WorkItem} {free : List WorkItem} :
    before.producer = .ready (line :: rest) → before.pool.free.items = item :: free →
    Move before { before with
      producer := .acquired item line rest
      pool := { before.pool with free := { before.pool.free with items := free } } }
  | filled {item : WorkItem} {line : String} {rest : List String} :
    before.producer = .acquired item line rest →
    Move before { before with
      producer := .filled (item.fill line) rest
      events := before.events ++ item.fillRecords line }
  | submitted {item : WorkItem} {rest : List String} :
    before.producer = .filled item rest →
    Move before { before with
      producer := .ready rest
      pool := { before.pool with
        pending := { before.pool.pending with items := before.pool.pending.items ++ [item] } } }
  | announced {text : String} :
    before.producer = .ready [] → before.farewell = some text →
    Move before { before with
      farewell := none
      events := before.events ++ [.logged .debug text] }
  | left : before.producer = .ready [] → before.farewell = none →
    Move before { before with producer := .gone, pool := before.pool.dropProducer }
  | received {item : WorkItem} {pending : List WorkItem} :
    before.consumer = .waiting → before.pool.pending.items = item :: pending →
    Move before { before with
      consumer := .received item
      pool := { before.pool with pending := { before.pool.pending with items := pending } } }
  | handled {item : WorkItem} :
    before.consumer = .received item →
    Move before { before with
      consumer := .handled item
      shell := (before.shell.execute item.line).shell
      events := before.events ++ (before.shell.execute item.line).events }
  | released {item : WorkItem} :
    before.consumer = .handled item → before.pool.hasProducer = true →
    Move before { before with
      consumer := .waiting
      pool := { before.pool with
        free := { before.pool.free with items := before.pool.free.items ++ [item.clear] } } }
  | discarded {item : WorkItem} :
    before.consumer = .handled item → before.pool.hasProducer = false →
    Move before { before with
      consumer := .waiting
      events := before.events ++ before.pool.releaseRecords }
  | stopped :
    before.consumer = .waiting → before.pool.pending.items = [] →
    before.pool.hasProducer = false →
    Move before { before with
      consumer := .stopped
      events := before.events ++ [.logged .info "line queue closed, shell stopping"] }

/-! ## The invariant -/

/-- The consumer is there until the producer is gone, and until then every item is in one of four
places. All items have one capacity. -/
structure Balanced (capacity : Nat) (relay : Relay) : Prop where
  wired : relay.pool.Wired
  positive : 0 < relay.pool.size
  consumer : relay.pool.hasConsumer = true
  gone : relay.pool.hasProducer = false ↔ relay.producer = .gone
  count : relay.pool.hasProducer = true →
    relay.pool.free.items.length + relay.pool.pending.items.length
      + relay.producer.held.length + relay.consumer.held.length = relay.pool.size
  capacity : ∀ item, item ∈ relay.pool.free.items ∨ item ∈ relay.pool.pending.items ∨
    item ∈ relay.producer.held ∨ item ∈ relay.consumer.held → item.capacity = capacity
  stopped : relay.consumer = .stopped →
    relay.pool.hasProducer = false ∧ relay.pool.pending.items = []

variable {capacity : Nat} {relay next : Relay}

/-- A step does one of the listed things: no channel is ever found closed by the producer. -/
theorem Balanced.move_of_step? {party : Party} (balanced : Balanced capacity relay)
    (stepped : relay.step? party = some next) : Move relay next := by
  rcases relay with ⟨producer, consumer, pool, shell, events, farewell⟩
  have sender := balanced.wired.consumer.trans balanced.consumer
  have receiver := balanced.consumer
  have producerSeen := balanced.wired.producer
  dsimp only at sender receiver producerSeen
  cases party with
  | producer =>
    simp only [step?, produce?] at stepped
    cases producer with
    | ready lines =>
      cases lines with
      | nil =>
        cases farewell with
        | some text =>
          cases stepped
          exact .announced rfl rfl
        | none =>
          cases stepped
          exact .left rfl rfl
      | cons line rest =>
        cases answer : pool.acquire with
        | item item after =>
          obtain ⟨free, items, rfl⟩ := Pool.acquire_eq_item_iff.mp answer
          simp only [answer] at stepped
          cases stepped
          exact .acquired rfl items
        | empty => simp [answer] at stepped
        | closed =>
          have closed := (Pool.acquire_eq_closed_iff.mp answer).2
          rw [sender] at closed
          cases closed
    | acquired item line rest =>
      cases stepped
      exact .filled rfl
    | filled item rest =>
      cases answer : pool.submit item with
      | done after =>
        obtain ⟨_, _, rfl⟩ := Pool.submit_eq_done_iff.mp answer
        simp only [answer] at stepped
        cases stepped
        exact .submitted rfl
      | full => simp [answer] at stepped
      | closed =>
        rw [Pool.submit_eq_closed_iff.mp answer] at receiver
        cases receiver
    | gone => cases stepped
  | consumer =>
    simp only [step?, consume?] at stepped
    cases consumer with
    | waiting =>
      cases answer : pool.receive with
      | item item after =>
        obtain ⟨pending, items, rfl⟩ := Pool.receive_eq_item_iff.mp answer
        simp only [answer] at stepped
        cases stepped
        exact .received rfl items
      | empty => simp [answer] at stepped
      | closed =>
        obtain ⟨items, closed⟩ := Pool.receive_eq_closed_iff.mp answer
        simp only [answer] at stepped
        cases stepped
        exact .stopped rfl items (producerSeen.symm.trans closed)
    | received item =>
      cases stepped
      exact .handled rfl
    | handled item =>
      cases answer : pool.release item with
      | done after =>
        obtain ⟨there, _, rfl⟩ := Pool.release_eq_done_iff.mp answer
        simp only [answer] at stepped
        cases stepped
        exact .released rfl there
      | full => simp [answer] at stepped
      | closed =>
        simp only [answer] at stepped
        cases stepped
        exact .discarded rfl (Pool.release_eq_closed_iff.mp answer)
    | stopped => cases stepped

theorem Balanced.start {size : Nat} {pool : Pool} (created : Pool.create size capacity = .ok pool)
    (shell : Shell) (lines : List String) (farewell : Option String) :
    Balanced capacity (start shell pool lines farewell) := by
  have wired := Pool.Wired.of_create created
  obtain ⟨positive, rfl⟩ := Pool.create_eq_ok_iff.mp created
  refine ⟨wired, positive, rfl, by simp [Relay.start, Pool.hasProducer], ?_, ?_, ?_⟩
  · intro _
    simp [Relay.start, Producer.held, Consumer.held]
  · intro item place
    simp only [Relay.start, Producer.held, Consumer.held, List.mem_map, List.not_mem_nil,
      or_false] at place
    obtain ⟨id, _, rfl⟩ := place
    rfl
  · intro stopped
    cases stopped

/-- Every step keeps the invariant. -/
theorem Move.balanced (move : Move relay next) (balanced : Balanced capacity relay) :
    Balanced capacity next := by
  rcases relay with ⟨producer, consumer, pool, shell, events, farewell⟩
  obtain ⟨wired, positive, receiver, gone, count, same, stopped⟩ := balanced
  obtain ⟨freeBound, pendingBound, sender, owner⟩ := wired
  dsimp only at freeBound pendingBound sender owner positive receiver gone count same stopped
  cases move with
  | @acquired line rest item free phase items =>
    dsimp only at phase items
    subst phase
    refine ⟨⟨freeBound, pendingBound, sender, owner⟩, positive, receiver, ?_, ?_, ?_, stopped⟩
    · simpa [Pool.hasProducer] using gone
    · intro there
      have before := count there
      simp only [items, Producer.held, List.length_cons, List.length_nil] at before ⊢
      omega
    · intro other place
      apply same
      simp only [items, Producer.held, List.mem_cons, List.not_mem_nil, or_false] at place ⊢
      grind
  | @filled item line rest phase =>
    dsimp only at phase
    subst phase
    refine ⟨⟨freeBound, pendingBound, sender, owner⟩, positive, receiver, ?_, ?_, ?_, stopped⟩
    · simpa using gone
    · simpa only [Producer.held, List.length_singleton] using count
    · intro other place
      simp only [Producer.held, List.mem_singleton] at place same
      grind [WorkItem.capacity_fill]
  | @submitted item rest phase =>
    dsimp only at phase
    subst phase
    refine ⟨⟨freeBound, pendingBound, sender, owner⟩, positive, receiver, ?_, ?_, ?_, ?_⟩
    · simpa [Pool.hasProducer] using gone
    · intro there
      have before := count there
      simp only [Producer.held, List.length_append, List.length_cons, List.length_nil] at before ⊢
      omega
    · intro other place
      apply same
      simp only [Producer.held, List.mem_append, List.mem_singleton, List.not_mem_nil] at place ⊢
      grind
    · intro ended
      have absent := gone.mp (stopped ended).1
      cases absent
  | announced phase words =>
    exact ⟨⟨freeBound, pendingBound, sender, owner⟩, positive, receiver, gone, count, same, stopped⟩
  | left phase words =>
    dsimp only at phase
    subst phase
    refine ⟨⟨freeBound, pendingBound, rfl, owner⟩, positive, receiver,
      ⟨fun _ => rfl, fun _ => rfl⟩, ?_, ?_, ?_⟩
    · intro there
      cases there
    · intro other place
      apply same
      simp only [Pool.dropProducer, Channel.dropReceiver, Channel.dropSender, Producer.held,
        List.not_mem_nil, false_or] at place ⊢
      grind
    · intro ended
      exact ⟨rfl, (stopped ended).2⟩
  | @received item pending phase items =>
    dsimp only at phase items
    subst phase
    refine ⟨⟨freeBound, pendingBound, sender, owner⟩, positive, receiver, gone, ?_, ?_, ?_⟩
    · intro there
      have before := count there
      simp only [items, Consumer.held, List.length_cons, List.length_nil] at before ⊢
      omega
    · intro other place
      apply same
      simp only [items, Consumer.held, List.mem_cons, List.not_mem_nil, or_false] at place ⊢
      grind
    · intro ended
      cases ended
  | handled phase =>
    dsimp only at phase
    subst phase
    exact ⟨⟨freeBound, pendingBound, sender, owner⟩, positive, receiver, gone, count, same,
      fun ended => by cases ended⟩
  | @released item phase there =>
    dsimp only at phase there
    subst phase
    refine ⟨⟨freeBound, pendingBound, sender, owner⟩, positive, receiver, gone, ?_, ?_, ?_⟩
    · intro _
      have before := count there
      simp only [Consumer.held, List.length_append, List.length_cons, List.length_nil] at before ⊢
      omega
    · intro other place
      simp only [Consumer.held, List.mem_append, List.mem_singleton, List.not_mem_nil,
        or_false] at place same
      grind [WorkItem.capacity_clear]
    · intro ended
      cases ended
  | discarded phase absent =>
    dsimp only at phase absent
    subst phase
    refine ⟨⟨freeBound, pendingBound, sender, owner⟩, positive, receiver, gone, ?_, ?_, ?_⟩
    · intro there
      rw [absent] at there
      cases there
    · intro other place
      apply same
      simp only [Consumer.held, List.not_mem_nil, or_false] at place ⊢
      grind
    · intro ended
      cases ended
  | stopped phase items absent =>
    dsimp only at phase items absent
    subst phase
    exact ⟨⟨freeBound, pendingBound, sender, owner⟩, positive, receiver, gone, count, same,
      fun _ => ⟨absent, items⟩⟩

/-! ## No schedule gets stuck -/

/-- A producer that cannot go on is gone, or waits for a free item. -/
theorem Balanced.producer_of_produce?_eq_none (balanced : Balanced capacity relay)
    (waits : relay.produce? = none) :
    relay.producer = .gone ∨
      relay.producer.held = [] ∧ relay.pool.free.items = [] := by
  rcases relay with ⟨producer, consumer, pool, shell, events, farewell⟩
  obtain ⟨wired, -, receiver, gone, count, -, -⟩ := balanced
  have bound := wired.pendingBound
  dsimp only at bound receiver gone count
  cases producer with
  | ready lines =>
    cases lines with
    | nil => cases farewell <;> simp [produce?] at waits
    | cons line rest =>
      cases answer : pool.acquire with
      | item item after => simp [produce?, answer] at waits
      | empty => exact .inr ⟨rfl, (Pool.acquire_eq_empty_iff.mp answer).1⟩
      | closed => simp [produce?, answer] at waits
  | acquired item line rest => simp [produce?] at waits
  | filled item rest =>
    cases answer : pool.submit item with
    | done after => simp [produce?, answer] at waits
    | full =>
      -- The item in the producer's hands is not among the pending ones, so there is room for it.
      have room := (Pool.submit_eq_full_iff.mp answer).2
      have there : pool.hasProducer = true := by
        rw [← Bool.not_eq_false, gone]
        simp
      have all := count there
      simp only [Producer.held, List.length_singleton] at all
      omega
    | closed => simp [produce?, answer] at waits
  | gone => exact .inl rfl

/-- A consumer that cannot go on has stopped, or waits for the producer to submit something. -/
theorem Balanced.consumer_of_consume?_eq_none (balanced : Balanced capacity relay)
    (waits : relay.consume? = none) :
    relay.consumer = .stopped ∨
      relay.consumer.held = [] ∧ relay.pool.pending.items = [] ∧
        relay.pool.hasProducer = true := by
  rcases relay with ⟨producer, consumer, pool, shell, events, farewell⟩
  obtain ⟨wired, -, -, -, count, -, -⟩ := balanced
  have bound := wired.freeBound
  have sender := wired.producer
  dsimp only at bound sender count
  cases consumer with
  | waiting =>
    cases answer : pool.receive with
    | item item after => simp [consume?, answer] at waits
    | empty =>
      obtain ⟨items, there⟩ := Pool.receive_eq_empty_iff.mp answer
      exact .inr ⟨rfl, items, sender.symm.trans there⟩
    | closed => simp [consume?, answer] at waits
  | received item => simp [consume?] at waits
  | handled item =>
    cases answer : pool.release item with
    | done after => simp [consume?, answer] at waits
    | full =>
      obtain ⟨there, room⟩ := Pool.release_eq_full_iff.mp answer
      have all := count there
      simp only [Consumer.held, List.length_singleton] at all
      omega
    | closed => simp [consume?, answer] at waits
  | stopped => exact .inl rfl

theorem isFinished_iff :
    relay.isFinished = true ↔ relay.producer = .gone ∧ relay.consumer = .stopped := by
  unfold isFinished
  split
  · next producer consumer => simp [producer, consumer]
  · next other =>
    constructor
    · intro finished
      cases finished
    · intro ended
      exact (other ended.1 ended.2).elim

/-- As long as one party has not finished, one of them can go on. -/
theorem Balanced.exists_step? (balanced : Balanced capacity relay)
    (unfinished : relay.isFinished = false) :
    ∃ party next, relay.step? party = some next := by
  cases produced : relay.produce? with
  | some next => exact ⟨.producer, next, produced⟩
  | none =>
    cases consumed : relay.consume? with
    | some next => exact ⟨.consumer, next, consumed⟩
    | none =>
      have producer := balanced.producer_of_produce?_eq_none produced
      rcases balanced.consumer_of_consume?_eq_none consumed with
        stopped | ⟨consumerHands, pending, there⟩
      · have gone := balanced.gone.mp (balanced.stopped stopped).1
        rw [isFinished_iff.mpr ⟨gone, stopped⟩] at unfinished
        cases unfinished
      · rcases producer with gone | ⟨producerHands, free⟩
        · rw [balanced.gone.mpr gone] at there
          cases there
        · have count := balanced.count there
          simp only [producerHands, consumerHands, pending, free, List.length_nil] at count
          exact absurd count (Nat.ne_of_lt balanced.positive)

/-- Every step is one of the steps that were still to come. -/
theorem Move.work_lt (move : Move relay next) : next.work < relay.work := by
  rcases relay with ⟨producer, consumer, pool, shell, events, farewell⟩
  cases move with
  | acquired phase items =>
    dsimp only at phase
    subst phase
    simp only [work, Producer.work, Producer.coming, List.length_cons]
    omega
  | filled phase =>
    dsimp only at phase
    subst phase
    simp only [work, Producer.work, Producer.coming]
    omega
  | submitted phase =>
    dsimp only at phase
    subst phase
    have coming (rest : List String) : rest.length + (pool.pending.items.length + 1) =
        rest.length + 1 + pool.pending.items.length := by
      omega
    simp only [work, Producer.work, Producer.coming, List.length_append, List.length_singleton,
      coming]
    omega
  | announced phase words =>
    dsimp only at words
    subst words
    simp only [work, Option.toList_some, Option.toList_none, List.length_singleton,
      List.length_nil]
    omega
  | left phase words =>
    dsimp only at phase
    subst phase
    simp only [work, Producer.work, Producer.coming, List.length_nil, Pool.dropProducer,
      Channel.dropSender]
    omega
  | received phase items =>
    dsimp only at phase items
    subst phase
    simp only [work, Consumer.work, items, List.length_cons]
    omega
  | handled phase | released phase | discarded phase | stopped phase =>
    dsimp only at phase
    subst phase
    simp only [work, Consumer.work]
    omega

/-! ## Every schedule has the same outlook -/

/-- Two turns that differ in log records at most. -/
structure SameOutward (a b : Turn) : Prop where
  shell : a.shell = b.shell
  events : Event.outward a.events = Event.outward b.events

theorem SameOutward.trans {a b c : Turn} (left : SameOutward a b) (right : SameOutward b c) :
    SameOutward a c :=
  ⟨left.shell.trans right.shell, left.events.trans right.events⟩

theorem outlook_congr (shell : next.shell = relay.shell)
    (remaining : next.remaining capacity = relay.remaining capacity)
    (events : Event.outward next.events = Event.outward relay.events) :
    SameOutward (next.outlook capacity) (relay.outlook capacity) := by
  constructor
  · simp only [outlook, Turn.shell_andThen, shell, remaining]
  · simp only [outlook, Turn.events_andThen, Event.outward_append, shell, remaining, events]

/-- No step changes what becomes of the shell. -/
theorem Move.outlook (move : Move relay next) (balanced : Balanced capacity relay) :
    SameOutward (next.outlook capacity) (relay.outlook capacity) := by
  rcases relay with ⟨producer, consumer, pool, shell, events, farewell⟩
  have same := balanced.capacity
  dsimp only at same
  cases move with
  | acquired phase items =>
    dsimp only at phase
    subst phase
    exact outlook_congr rfl rfl rfl
  | @filled item line rest phase =>
    dsimp only at phase
    subst phase
    have room : item.capacity = capacity := same item (by simp [Producer.held])
    refine outlook_congr rfl ?_ ?_
    · simp only [remaining, Producer.upcoming, List.map_cons, WorkItem.line_fill, room]
    · rw [Event.outward_append, WorkItem.outward_fillRecords, List.append_nil]
  | submitted phase =>
    dsimp only at phase
    subst phase
    refine outlook_congr rfl ?_ rfl
    simp only [remaining, Producer.upcoming, List.map_append, List.map_cons, List.map_nil,
      List.append_assoc, List.singleton_append]
  | announced phase words =>
    refine outlook_congr rfl rfl ?_
    simp [Event.outward]
  | left phase words =>
    dsimp only at phase
    subst phase
    exact outlook_congr rfl rfl rfl
  | received phase items =>
    dsimp only at phase items
    subst phase
    refine outlook_congr rfl ?_ rfl
    simp only [remaining, Consumer.unread, items, List.map_cons, List.nil_append,
      List.cons_append]
  | @handled item phase =>
    -- The executed line was the first of the remaining ones.
    dsimp only at phase
    subst phase
    have lines : remaining capacity ⟨producer, .received item, pool, shell, events, farewell⟩ =
        item.line ::
          remaining capacity ⟨producer, .handled item, pool, shell, events, farewell⟩ := rfl
    constructor
    · simp only [Relay.outlook, lines]
      rfl
    · simp only [Relay.outlook, lines, Shell.executeAll, Turn.events_andThen, Event.outward_append,
        List.append_assoc]
      rfl
  | released phase there =>
    dsimp only at phase
    subst phase
    exact outlook_congr rfl rfl rfl
  | discarded phase absent =>
    dsimp only at phase absent
    subst phase
    refine outlook_congr rfl rfl ?_
    simp [Pool.releaseRecords, absent, Event.outward]
  | stopped phase items absent =>
    dsimp only at phase
    subst phase
    refine outlook_congr rfl rfl ?_
    simp [Event.outward]

/-- The steps of a schedule keep the invariant and the outlook, and each uses up some work. -/
theorem Balanced.follow? {schedule : List Party} {last : Relay} (balanced : Balanced capacity relay)
    (followed : relay.follow? schedule = some last) :
    Balanced capacity last ∧ schedule.length + last.work ≤ relay.work ∧
      SameOutward (last.outlook capacity) (relay.outlook capacity) := by
  induction schedule generalizing relay with
  | nil =>
    cases followed
    exact ⟨balanced, by simp, rfl, rfl⟩
  | cons party rest ih =>
    obtain ⟨next, stepped, later⟩ := Option.bind_eq_some_iff.mp followed
    have move := balanced.move_of_step? stepped
    obtain ⟨balancedLast, work, outlook⟩ := ih (move.balanced balanced) later
    refine ⟨balancedLast, ?_, outlook.trans (move.outlook balanced)⟩
    have less := move.work_lt
    rw [List.length_cons]
    omega

/-- When both parties have finished, no line is left. -/
theorem Balanced.outlook_of_isFinished (balanced : Balanced capacity relay)
    (finished : relay.isFinished = true) :
    relay.outlook capacity = ⟨relay.shell, relay.events⟩ := by
  obtain ⟨producer, consumer⟩ := isFinished_iff.mp finished
  have pending := (balanced.stopped consumer).2
  have nothing : relay.remaining capacity = [] := by
    simp only [remaining, producer, consumer, pending, Consumer.unread, Producer.upcoming,
      List.map_nil, List.append_nil]
  simp only [outlook, nothing, Turn.andThen, Shell.executeAll, List.append_nil]

/-! ## The run to the end -/

/-- Any number of steps follows some schedule, and enough of them finish the relay. -/
theorem Balanced.exists_follow?_advance (balanced : Balanced capacity relay) {steps : Nat}
    (enough : relay.work ≤ steps) :
    ∃ schedule, relay.follow? schedule = some (advance steps relay) ∧
      (advance steps relay).isFinished = true := by
  induction steps generalizing relay with
  | zero =>
    refine ⟨[], rfl, eq_true_of_ne_false fun unfinished => ?_⟩
    obtain ⟨party, next, stepped⟩ := balanced.exists_step? unfinished
    have less := (balanced.move_of_step? stepped).work_lt
    omega
  | succ steps ih =>
    have go (party : Party) {next : Relay} (stepped : relay.step? party = some next) :
        ∃ schedule, relay.follow? schedule = some (advance steps next) ∧
          (advance steps next).isFinished = true := by
      have move := balanced.move_of_step? stepped
      have less := move.work_lt
      obtain ⟨schedule, followed, finished⟩ := ih (move.balanced balanced) (by omega)
      exact ⟨party :: schedule, by rw [Relay.follow?, stepped, Option.bind_some, followed],
        finished⟩
    cases consumed : relay.consume? with
    | some next =>
      simp only [advance, consumed]
      exact go .consumer consumed
    | none =>
      cases produced : relay.produce? with
      | some next =>
        simp only [advance, consumed, produced]
        exact go .producer produced
      | none =>
        simp only [advance, consumed, produced]
        refine ⟨[], rfl, eq_true_of_ne_false fun unfinished => ?_⟩
        obtain ⟨party, next, stepped⟩ := balanced.exists_step? unfinished
        cases party with
        | producer => exact nomatch produced.symm.trans stepped
        | consumer => exact nomatch consumed.symm.trans stepped

/-- Running to the end is following one of the schedules. -/
theorem Balanced.exists_follow?_finish (balanced : Balanced capacity relay) :
    ∃ schedule, relay.follow? schedule = some relay.finish ∧
      relay.finish.isFinished = true :=
  balanced.exists_follow?_advance (Nat.le_refl _)

/-- A schedule of a new relay is bounded and does not get stuck, and one that finishes it executes
the lines. -/
theorem follow?_start {size : Nat} {pool : Pool} {shell : Shell} {lines : List String}
    {farewell : Option String} {schedule : List Party}
    (created : Pool.create size capacity = .ok pool)
    (followed : (start shell pool lines farewell).follow? schedule = some relay) :
    schedule.length ≤ 6 * lines.length + 2 + farewell.toList.length ∧
      (relay.isFinished = false → ∃ party next, relay.step? party = some next) ∧
      (relay.isFinished = true →
        SameOutward ⟨relay.shell, relay.events⟩
          (shell.executeAll (lines.map (WorkItem.lineOf capacity)))) := by
  obtain ⟨balanced, work, outlook⟩ :=
    (Balanced.start created shell lines farewell).follow? followed
  have pending : pool.pending.items = [] := by
    obtain ⟨_, rfl⟩ := Pool.create_eq_ok_iff.mp created
    rfl
  refine ⟨?_, balanced.exists_step?, fun finished => ?_⟩
  · simp only [start, Relay.work, Producer.work, Consumer.work, Producer.coming, pending,
      List.length_nil] at work
    omega
  · rw [balanced.outlook_of_isFinished finished] at outlook
    refine ⟨outlook.shell.trans ?_, outlook.events.trans ?_⟩ <;>
      simp only [start, Relay.outlook, remaining, Consumer.unread, Producer.upcoming, pending,
        List.map_nil, List.nil_append, Turn.shell_andThen, Turn.events_andThen]

/-- A relay of lines through a new pool can always go on until both parties have finished, however
their steps are ordered; that takes at most six steps a line and two more; and then the shell, the
console and the handlers have seen what executing the lines one after the other gives. -/
theorem executeAll_of_follow? {size : Nat} (capacity : Nat) (lines : List String) (shell : Shell)
    (positive : 0 < size) :
    ∃ pool, Pool.create size capacity = .ok pool ∧
      ∀ schedule relay, (start shell pool lines).follow? schedule = some relay →
        schedule.length ≤ 6 * lines.length + 2 ∧
        (relay.isFinished = false → ∃ party next, relay.step? party = some next) ∧
        (relay.isFinished = true →
          let direct := shell.executeAll (lines.map (WorkItem.lineOf capacity))
          relay.shell = direct.shell ∧
            Event.console relay.events = Event.console direct.events ∧
            Event.calls relay.events = Event.calls direct.events) := by
  obtain ⟨pool, created⟩ := Pool.exists_create capacity positive
  refine ⟨pool, created, fun schedule relay followed => ?_⟩
  obtain ⟨bounded, goes, same⟩ := follow?_start created followed
  exact ⟨bounded, goes, fun finished =>
    ⟨(same finished).shell, Event.console_eq_of_outward_eq (same finished).events,
      Event.calls_eq_of_outward_eq (same finished).events⟩⟩

/-- Three lines through two buffers of twelve bytes, the first line too long for them. -/
theorem executeAll_of_follow?_three_lines :
    let shell : Shell := { config := {}, registry := ⟨8, Demo.modules 0⟩ }
    let lines := ["math add 2 3 4", "select math\r\n", "mul 6 7"]
    let p := Party.producer
    let c := Party.consumer
    ∃ pool relay, Pool.create 2 12 = .ok pool ∧
      (start shell pool lines).follow? [p, p, p, p, p, c, p, c, c, p, c, p, p, p, c, c, c, c, c, c]
        = some relay ∧
      relay.isFinished = true ∧
      Event.console relay.events = "5\nshell> math> 42\nmath> " ∧
      Event.calls relay.events =
        [(.command 1 0, ["add", "2", "3"]), (.command 1 1, ["mul", "6", "7"])] := by
  intro shell lines p c
  obtain ⟨pool, created, all⟩ := executeAll_of_follow? 12 lines shell (by decide : 0 < 2)
  have run : ∃ relay, (start shell pool lines).follow?
      [p, p, p, p, p, c, p, c, c, p, c, p, p, p, c, c, c, c, c, c] = some relay ∧
      relay.isFinished = true := by
    obtain ⟨-, rfl⟩ := Pool.create_eq_ok_iff.mp created
    exact ⟨_, rfl, rfl⟩
  obtain ⟨relay, followed, finished⟩ := run
  obtain ⟨-, -, same⟩ := all _ relay followed
  obtain ⟨-, console, calls⟩ := same finished
  refine ⟨pool, relay, created, followed, finished, console.trans ?_, calls.trans ?_⟩
  · decide +kernel
  · decide +kernel

end Relay

end CommandShell
