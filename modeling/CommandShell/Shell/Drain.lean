import CommandShell.Pool.Basic
import CommandShell.Shell.Execute

/-!
# Executing the lines of a pool

`Shell.handle` executes the line of one work item. `Shell.drain` handles all items
that are pending in a pool and releases each one; it does not wait for more.
-/

namespace CommandShell

/-- What a drain leaves: the turn, the pool, and how many items it handled. -/
structure Drained : Type where
  turn : Turn
  pool : Pool
  count : Nat

namespace Shell

/-- Execute the line of a work item; without an item only the prompt is shown. -/
def handle (shell : Shell) : Option WorkItem → Turn
  | some item => shell.execute item.line
  | none => (Turn.mk shell [.logged .debug "no work item to process"]).andThen showPrompt

/-- Handle and release every pending item. -/
def drain (shell : Shell) (pool : Pool) : Drained :=
  match _received : pool.receive with
  | .empty | .closed => ⟨⟨shell, []⟩, pool, 0⟩
  | .item item next =>
    let turn := shell.handle (some item)
    match released : next.release item with
    | .full => ⟨turn, next, 1⟩
    | .closed =>
      let rest := drain turn.shell next
      ⟨⟨rest.turn.shell, turn.events ++ next.releaseRecords ++ rest.turn.events⟩,
        rest.pool, rest.count + 1⟩
    | .done after =>
      let rest := drain turn.shell after
      ⟨⟨rest.turn.shell, turn.events ++ rest.turn.events⟩, rest.pool, rest.count + 1⟩
termination_by pool.pending.items.length
decreasing_by
  · simp [Pool.pending_of_receive _received]
  · simp [Pool.pending_of_receive _received, Pool.pending_of_release released]

end Shell

end CommandShell
