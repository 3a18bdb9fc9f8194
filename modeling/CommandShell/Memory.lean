import CommandShell.Fault

/-!
# Memory

What is made for a number of things asks for the memory of all of them at once. A
`Memory` says which requests are granted. A request that is refused ends the program
on the spot, without a fault that could be reported: such a result is `none`.
-/

namespace CommandShell

/-- The largest number of bytes that can be asked for: what a word of 64 bits with a sign counts. -/
def Memory.limit : Nat := 0x7fffffffffffffff

/-- Which requests for bytes, made one after the other, are all granted. -/
structure Memory : Type where
  grants : List Nat → Bool
  /-- No request beyond the limit is granted. -/
  bounded : ∀ {requests : List Nat},
    grants requests = true → ∀ bytes ∈ requests, bytes ≤ Memory.limit
  /-- What was granted stays granted, whatever is asked for later. -/
  initial : ∀ {earlier later : List Nat}, grants (earlier ++ later) = true → grants earlier = true

namespace Memory

/-- Memory that is never short: it grants every request up to the limit. -/
def ample : Memory where
  grants requests := requests.all (· ≤ limit)
  bounded := by simp
  initial granted := by
    rw [List.all_append, Bool.and_eq_true] at granted
    exact granted.1

/-- The memory when these requests have been made. -/
def after (memory : Memory) (requests : List Nat) : Memory where
  grants later := memory.grants (requests ++ later)
  bounded granted bytes member := memory.bounded granted bytes (List.mem_append_right _ member)
  initial granted := memory.initial (by rwa [← List.append_assoc] at granted)

/-- A result that needs memory. Nothing is asked for when there is a fault. -/
def provide {α : Type} (memory : Memory) (requests : List Nat) (result : Except Fault α) :
    Option (Except Fault α) :=
  match result with
  | .error fault => some (.error fault)
  | .ok value => if memory.grants requests then some (.ok value) else none

variable {α : Type} {memory : Memory} {requests : List Nat} {result : Except Fault α}
  {value : α} {fault : Fault}

/-- A request beyond the limit is refused, whatever else is asked for. -/
theorem grants_eq_false_of_limit_lt {bytes : Nat} (member : bytes ∈ requests)
    (large : limit < bytes) : memory.grants requests = false :=
  Bool.eq_false_iff.mpr fun granted => Nat.not_le_of_lt large (memory.bounded granted bytes member)

theorem provide_of_refuses (refused : memory.grants requests = false) :
    memory.provide requests (.ok value) = none := by
  simp [provide, refused]

theorem provide_of_grants (granted : memory.grants requests = true) :
    memory.provide requests result = some result := by
  cases result with
  | error fault => rfl
  | ok value => exact if_pos granted

theorem provide_eq_error_iff :
    memory.provide requests result = some (.error fault) ↔ result = .error fault := by
  cases result with
  | error reason => simp [provide]
  | ok value => simp [provide]

theorem provide_eq_ok_iff :
    memory.provide requests result = some (.ok value) ↔
      result = .ok value ∧ memory.grants requests = true := by
  cases result with
  | error reason => simp [provide]
  | ok other => simp [provide, and_comm]

end Memory

end CommandShell
