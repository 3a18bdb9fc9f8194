import CommandShell.Proofs.Shell.Output

/-!
# Operations that fail

Five operations can fail, and `Shell.Refuses` gives the reasons: a full registry, a hook that
is set, a name that is too long to be selected or that no module has. An operation fails for
these reasons and for no other (`Shell.result_eq_error_iff`).

An operation that failed has changed nothing and asked nobody, and at most its one diagnostic
was printed (`Shell.Refuses.attempt`). So it can be struck out of a session: the
operations after it return and show the same without it (`Shell.transcript_granted`).
-/

namespace CommandShell

namespace Shell

/-! ## Results -/

/-- What an operation returns: a number, if it has one to return, or the fault it failed with. -/
def result (shell : Shell) : Operation → Except Fault (Option Nat)
  | .register name commands => (shell.register name commands).1.map some
  | .setFallback handler => (shell.setFallback handler).1.map fun _ => none
  | .setPromptHook hook => (shell.setPromptHook hook).1.map fun _ => none
  | .select (some name) => (shell.select name).1.map some
  | .openWith name => (shell.openWith name).1.map some
  | .drain pool => .ok (some (shell.drain pool).count)
  | .select none | .showPrompt | .execute _ | .handle _ | .run .. => .ok none

/-- What each operation of a session returns, and its events. -/
def transcript (shell : Shell) : List Operation → List (Except Fault (Option Nat) × List Event)
  | [] => []
  | operation :: rest =>
    (shell.result operation, (shell.perform operation).events) ::
      transcript (shell.perform operation).shell rest

/-- The operations of a session that do not fail. -/
def granted (shell : Shell) : List Operation → List Operation
  | [] => []
  | operation :: rest =>
    let others := granted (shell.perform operation).shell rest
    if (shell.result operation).isOk then operation :: others else others

/-! ## Reasons -/

/-- Why a module cannot be selected by a name. -/
inductive Unselectable (shell : Shell) (name : String) : Fault → Prop
  | long : shell.config.maxNameLength < name.length → Unselectable shell name (.nameTooLong name)
  | unknown : name.length ≤ shell.config.maxNameLength →
    (∀ owner ∈ shell.registry.modules, ¬ shell.config.Agree name owner.name) →
    Unselectable shell name (.moduleNotFound name)

/-- Why a shell refuses an operation. -/
inductive Refuses (shell : Shell) : Operation → Fault → Prop
  | full {name : String} {commands : List Command} :
    shell.registry.capacity ≤ shell.registry.modules.length →
    Refuses shell (.register name commands) (.registryFull shell.registry.capacity)
  | fallback {old new : Handler} :
    shell.fallback = some old → Refuses shell (.setFallback new) (.hookAlreadySet .command)
  | promptHook {old new : PromptHook} :
    shell.promptHook = some old → Refuses shell (.setPromptHook new) (.hookAlreadySet .prompt)
  | select {name : String} {fault : Fault} :
    shell.Unselectable name fault → Refuses shell (.select (some name)) fault
  | openWith {name : String} {fault : Fault} :
    shell.Unselectable name fault → Refuses shell (.openWith name) fault

/-- What is printed of an operation that failed: only a module that is wanted at the start is
missed aloud. -/
def Operation.diagnosis (fault : Fault) : Operation → List Event
  | .openWith _ => [.line fault.message]
  | _ => []

variable {shell : Shell} {operation : Operation} {fault : Fault} {name : String}

/-- A name that cannot be selected selects nothing. -/
theorem Unselectable.choose (unselectable : shell.Unselectable name fault) :
    shell.choose name = .error fault := by
  cases unselectable with
  | long long => exact Selection.choose_of_long long
  | unknown short strange =>
    exact Selection.choose_of_find?_eq_none short (find?_eq_none_of_forall_not_agree strange)

/-- A name selects the first module that it stands for, or there is a reason that it does not. -/
theorem exists_find?_or_unselectable (shell : Shell) (name : String) :
    (name.length ≤ shell.config.maxNameLength ∧
        ∃ index, shell.registry.find? shell.config.extent name = some index) ∨
      ∃ fault, shell.Unselectable name fault := by
  rcases Nat.lt_or_ge shell.config.maxNameLength name.length with long | short
  · exact .inr ⟨_, .long long⟩
  · rcases exists_firstAt_or_forall_not (shell.config.Agree name ·.name)
        shell.registry.modules with ⟨index, owner, stands⟩ | strange
    · exact .inl ⟨short, index, (firstAt_modules_iff.mp stands).1⟩
    · exact .inr ⟨_, .unknown short strange⟩

/-! ## One operation -/

/-- An operation that is refused fails, and all that it does is to print its diagnosis. -/
theorem Refuses.attempt (refuses : shell.Refuses operation fault) :
    shell.result operation = .error fault ∧
      (shell.perform operation).shell = shell ∧
      Event.outward (shell.perform operation).events = operation.diagnosis fault := by
  cases refuses with
  | @full name commands full =>
    rw [result, perform, register_of_full full]
    exact ⟨rfl, rfl, outward_registerRecords shell name commands⟩
  | @fallback old new installed =>
    have failed : shell.setFallback new = (.error (.hookAlreadySet .command), ⟨shell, []⟩) := by
      simp only [setFallback, installed]
    rw [result, perform, failed]
    exact ⟨rfl, rfl, rfl⟩
  | @promptHook old new installed =>
    have failed : shell.setPromptHook new = (.error (.hookAlreadySet .prompt), ⟨shell, []⟩) := by
      simp only [setPromptHook, installed]
    rw [result, perform, failed]
    exact ⟨rfl, rfl, rfl⟩
  | @select name fault unselectable =>
    rw [result, perform, select_of_choose_eq_error unselectable.choose]
    exact ⟨rfl, rfl, rfl⟩
  | @openWith name fault unselectable =>
    rw [result, perform, openWith_of_choose_eq_error unselectable.choose]
    exact ⟨rfl, rfl, rfl⟩

/-- An operation succeeds, or there is a reason to refuse it. -/
theorem exists_ok_or_refuses (shell : Shell) (operation : Operation) :
    (∃ number, shell.result operation = .ok number) ∨
      ∃ fault, shell.Refuses operation fault := by
  cases operation with
  | register name commands =>
    rcases Nat.lt_or_ge shell.registry.modules.length shell.registry.capacity with room | full
    · refine .inl ⟨some shell.registry.size, ?_⟩
      rw [result, register_of_room room]
      rfl
    · exact .inr ⟨_, .full full⟩
  | setFallback handler =>
    cases installed : shell.fallback with
    | none =>
      refine .inl ⟨none, ?_⟩
      simp only [result, setFallback, installed]
      rfl
    | some old => exact .inr ⟨_, .fallback installed⟩
  | setPromptHook hook =>
    cases installed : shell.promptHook with
    | none =>
      refine .inl ⟨none, ?_⟩
      simp only [result, setPromptHook, installed]
      rfl
    | some old => exact .inr ⟨_, .promptHook installed⟩
  | select name =>
    cases name with
    | none => exact .inl ⟨none, rfl⟩
    | some name =>
      rcases exists_find?_or_unselectable shell name with
        ⟨short, index, found⟩ | ⟨fault, unselectable⟩
      · refine .inl ⟨some index, ?_⟩
        simp only [result, select_of_find? short found]
        rfl
      · exact .inr ⟨fault, .select unselectable⟩
  | openWith name =>
    rcases exists_find?_or_unselectable shell name with
      ⟨short, index, found⟩ | ⟨fault, unselectable⟩
    · refine .inl ⟨some index, ?_⟩
      simp only [result, openWith, select_of_find? short found]
      rfl
    · exact .inr ⟨fault, .openWith unselectable⟩
  | showPrompt => exact .inl ⟨none, rfl⟩
  | execute line => exact .inl ⟨none, rfl⟩
  | handle item => exact .inl ⟨none, rfl⟩
  | drain pool => exact .inl ⟨_, rfl⟩
  | run pool lines schedule => exact .inl ⟨none, rfl⟩

/-- An operation fails for the reasons there are to refuse it, and for no other. -/
theorem result_eq_error_iff :
    shell.result operation = .error fault ↔ shell.Refuses operation fault := by
  constructor
  · intro failed
    rcases exists_ok_or_refuses shell operation with ⟨number, succeeded⟩ | ⟨reason, refuses⟩
    · rw [succeeded] at failed
      cases failed
    · rw [refuses.attempt.1] at failed
      cases failed
      exact refuses
  · exact fun refuses => refuses.attempt.1

/-! ## Sessions -/

/-- The events of a session are those of its operations. -/
theorem flatMap_transcript (shell : Shell) (operations : List Operation) :
    (shell.transcript operations).flatMap (·.2) = (shell.session operations).events := by
  induction operations generalizing shell with
  | nil => rfl
  | cons operation rest ih =>
    rw [session, Turn.events_andThen, ← ih, transcript, List.flatMap_cons]

/-- An operation that fails leaves no trace in the rest of a session. -/
theorem Refuses.session (refuses : shell.Refuses operation fault) (later : List Operation) :
    (shell.session (operation :: later)).shell = (shell.session later).shell ∧
      shell.transcript (operation :: later) =
        (.error fault, (shell.perform operation).events) :: shell.transcript later := by
  obtain ⟨failed, same, _⟩ := refuses.attempt
  constructor
  · rw [Shell.session, Turn.shell_andThen, same]
  · rw [transcript, failed, same]

/-- The operations that fail can be struck out of a session, which strikes out what they return and
their events, and nothing else. -/
theorem transcript_granted (shell : Shell) (operations : List Operation) :
    (shell.session (shell.granted operations)).shell = (shell.session operations).shell ∧
      shell.transcript (shell.granted operations) =
        (shell.transcript operations).filter (·.1.isOk) := by
  induction operations generalizing shell with
  | nil => exact ⟨rfl, rfl⟩
  | cons operation rest ih =>
    rcases exists_ok_or_refuses shell operation with ⟨number, succeeded⟩ | ⟨fault, refuses⟩
    · obtain ⟨last, kept⟩ := ih (shell.perform operation).shell
      have stays : (shell.result operation).isOk = true := by rw [succeeded]; rfl
      simp only [granted, stays, if_true, Shell.session, Turn.shell_andThen, last, transcript,
        kept, List.filter_cons_of_pos, and_self]
    · -- The rest of the session starts from the same shell, with the operation or without it.
      obtain ⟨failed, same, _⟩ := refuses.attempt
      obtain ⟨last, kept⟩ := ih shell
      obtain ⟨unmoved, struck⟩ := refuses.session rest
      have gone : (shell.result operation).isOk = false := by rw [failed]; rfl
      simp only [granted, gone, Bool.false_eq_true, if_false, same, last, kept, unmoved, struck]
      exact ⟨trivial, (List.filter_cons_of_neg Bool.false_ne_true).symm⟩

/-- An operation fails exactly when there is a reason to refuse it, and then with the fault of that
reason. A failed operation leaves the registry, the selection and its prompt, both hooks and the
configuration as they were, and nothing is seen of it but the diagnosis of a module that is wanted
at the start. So whatever is done afterwards returns the same, with the same events, and leads to
the same shell as without the operation. -/
theorem session_of_refuses (shell : Shell) (operation : Operation) :
    ((∀ fault, ¬ shell.Refuses operation fault) → ∃ number, shell.result operation = .ok number) ∧
    ∀ fault,
      (shell.result operation = .error fault ↔ shell.Refuses operation fault) ∧
      (shell.result operation = .error fault →
        (shell.perform operation).shell = shell ∧
        Event.outward (shell.perform operation).events = operation.diagnosis fault ∧
        ∀ later,
          (shell.session (operation :: later)).shell = (shell.session later).shell ∧
          shell.transcript (operation :: later) =
            (.error fault, (shell.perform operation).events) :: shell.transcript later) := by
  refine ⟨fun reasonless => ?_, fun fault => ⟨result_eq_error_iff, fun failed => ?_⟩⟩
  · rcases exists_ok_or_refuses shell operation with succeeded | ⟨fault, refuses⟩
    · exact succeeded
    · exact (reasonless fault refuses).elim
  · have refuses := result_eq_error_iff.mp failed
    obtain ⟨-, same, shown⟩ := refuses.attempt
    exact ⟨same, shown, refuses.session⟩

/-- Two modules are registered, which is all there is room for, and the name of the first is too
long to be selected by; no fallback handler is installed. -/
theorem session_of_refuses_twins :
    ∃ first, create fourLetters = .ok first ∧
      let shell := (first.session twins).shell
      (∃ number, shell.result (.setFallback (Demo.binary (· + ·))) = .ok number) ∧
      (∀ later, shell.transcript (.register "disk" [] :: later) =
        (.error (.registryFull 2), []) :: shell.transcript later) ∧
      ∀ later, shell.transcript (.openWith "network" :: later) =
        (.error (.nameTooLong "network"),
          [.printed "Module name network is too long, default is not changed\n"]) ::
            shell.transcript later := by
  obtain ⟨first, created⟩ : ∃ first, create fourLetters = .ok first := ⟨_, rfl⟩
  refine ⟨first, created, ?_⟩
  obtain ⟨_, rfl⟩ := create_eq_ok_iff.mp created
  intro shell
  have absent : shell.fallback = none := Option.isNone_iff_eq_none.mp (by decide +kernel)
  have full : shell.registry.capacity = 2 ∧
      shell.registry.capacity ≤ shell.registry.modules.length := by decide +kernel
  have long : shell.config.maxNameLength < "network".length := by decide +kernel
  refine ⟨(session_of_refuses shell _).1 fun fault refuses => ?_, fun later => ?_, fun later => ?_⟩
  · cases refuses with
    | fallback installed =>
      rw [absent] at installed
      cases installed
  · obtain ⟨fails, atomic⟩ := (session_of_refuses shell (.register "disk" [])).2 (.registryFull 2)
    have silent : (shell.perform (.register "disk" [])).events = [] := by decide +kernel
    rw [← silent]
    exact ((atomic (fails.mpr (full.1 ▸ .full full.2))).2.2 later).2
  · obtain ⟨fails, atomic⟩ := (session_of_refuses shell (.openWith "network")).2 _
    have shown : (shell.perform (.openWith "network")).events =
        [.printed "Module name network is too long, default is not changed\n"] := by
      decide +kernel
    rw [← shown]
    exact ((atomic (fails.mpr (.openWith (.long long)))).2.2 later).2

end Shell

end CommandShell
