/-!
# Bounded channels

A first-in first-out channel with a bound, between a sender and a receiver that
may each go away. Sending to a receiver that is gone fails, and what it had not
yet received is lost with it; a sender that is gone leaves what it sent. Where an
operation would wait, its answer says so: `Delivery.full` for a sender,
`Receipt.empty` for a receiver.
-/

namespace CommandShell

/-- What becomes of a sent value: it is taken in, it has to wait, or nobody will receive it. -/
inductive Delivery (σ : Type) : Type where
  | done (next : σ)
  | full
  | closed
  deriving DecidableEq

/-- What a receiver gets: the oldest value, nothing yet, or nothing ever again. -/
inductive Receipt (α σ : Type) : Type where
  | item (value : α) (next : σ)
  | empty
  | closed
  deriving DecidableEq

/-- The same delivery, seen in a larger state. -/
def Delivery.map {σ τ : Type} (f : σ → τ) : Delivery σ → Delivery τ
  | .done next => .done (f next)
  | .full => .full
  | .closed => .closed

/-- The same receipt, seen in a larger state. -/
def Receipt.map {α σ τ : Type} (f : σ → τ) : Receipt α σ → Receipt α τ
  | .item value next => .item value (f next)
  | .empty => .empty
  | .closed => .closed

theorem Delivery.map_eq_done_iff {σ τ : Type} {f : σ → τ} {delivery : Delivery σ} {next : τ} :
    delivery.map f = .done next ↔ ∃ inner, delivery = .done inner ∧ next = f inner := by
  cases delivery with
  | done inner => simp [map, eq_comm (a := next)]
  | full => simp [map]
  | closed => simp [map]

@[simp] theorem Delivery.map_eq_full_iff {σ τ : Type} {f : σ → τ} {delivery : Delivery σ} :
    delivery.map f = .full ↔ delivery = .full := by
  cases delivery <;> simp [map]

@[simp] theorem Delivery.map_eq_closed_iff {σ τ : Type} {f : σ → τ} {delivery : Delivery σ} :
    delivery.map f = .closed ↔ delivery = .closed := by
  cases delivery <;> simp [map]

theorem Receipt.map_eq_item_iff {α σ τ : Type} {f : σ → τ} {receipt : Receipt α σ} {value : α}
    {next : τ} :
    receipt.map f = .item value next ↔ ∃ inner, receipt = .item value inner ∧ next = f inner := by
  cases receipt with
  | item first inner => simp [map, eq_comm (a := next), and_assoc]
  | empty => simp [map]
  | closed => simp [map]

@[simp] theorem Receipt.map_eq_empty_iff {α σ τ : Type} {f : σ → τ} {receipt : Receipt α σ} :
    receipt.map f = .empty ↔ receipt = .empty := by
  cases receipt <;> simp [map]

@[simp] theorem Receipt.map_eq_closed_iff {α σ τ : Type} {f : σ → τ} {receipt : Receipt α σ} :
    receipt.map f = .closed ↔ receipt = .closed := by
  cases receipt <;> simp [map]

/-- A channel: what was sent and not yet received, oldest first, and which ends are there. -/
structure Channel (α : Type) : Type where
  bound : Nat
  items : List α := []
  hasSender : Bool := true
  hasReceiver : Bool := true
  deriving DecidableEq

namespace Channel

variable {α : Type}

/-- Send a value. -/
def send (channel : Channel α) (value : α) : Delivery (Channel α) :=
  if channel.hasReceiver then
    if channel.items.length < channel.bound then
      .done { channel with items := channel.items ++ [value] }
    else .full
  else .closed

/-- Receive the oldest value. -/
def receive (channel : Channel α) : Receipt α (Channel α) :=
  match channel.items with
  | value :: rest => .item value { channel with items := rest }
  | [] => if channel.hasSender then .empty else .closed

/-- The sender goes away. -/
def dropSender (channel : Channel α) : Channel α :=
  { channel with hasSender := false }

/-- The receiver goes away, and what it had not received is lost. -/
def dropReceiver (channel : Channel α) : Channel α :=
  { channel with items := [], hasReceiver := false }

/-! ## When an operation gives which answer -/

variable {channel next : Channel α} {value : α}

theorem send_eq_done_iff :
    channel.send value = .done next ↔
      channel.hasReceiver = true ∧ channel.items.length < channel.bound ∧
        next = { channel with items := channel.items ++ [value] } := by
  unfold send
  split
  · next there =>
    split
    · next room => simp [there, room, eq_comm (a := next)]
    · next room => simp [room]
  · next gone => simp [gone]

theorem send_eq_full_iff :
    channel.send value = .full ↔
      channel.hasReceiver = true ∧ channel.bound ≤ channel.items.length := by
  unfold send
  split
  · split <;> simp_all
  · simp_all

theorem send_eq_closed_iff : channel.send value = .closed ↔ channel.hasReceiver = false := by
  unfold send
  split
  · split <;> simp_all
  · simp_all

theorem receive_eq_item_iff :
    channel.receive = .item value next ↔
      ∃ rest, channel.items = value :: rest ∧ next = { channel with items := rest } := by
  unfold receive
  split
  · next first rest items => simp [items, eq_comm (a := next), and_assoc]
  · next items => split <;> simp [items]

theorem receive_eq_empty_iff :
    channel.receive = .empty ↔ channel.items = [] ∧ channel.hasSender = true := by
  unfold receive
  split
  · next first rest items => simp [items]
  · next items => split <;> simp_all

theorem receive_eq_closed_iff :
    channel.receive = .closed ↔ channel.items = [] ∧ channel.hasSender = false := by
  unfold receive
  split
  · next first rest items => simp [items]
  · next items => split <;> simp_all

end Channel

end CommandShell
