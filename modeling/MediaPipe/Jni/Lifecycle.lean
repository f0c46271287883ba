import MediaPipe.Jni.Graph

/-!
# The running graph

`running_graph_` over every sequence of calls on a `Graph`, whatever each
`CalculatorGraph` method answers.  `StartRunningGraph` keeps the new graph only when all
its setup calls returned OK, and a failed start changes nothing; the stream, close and
wait calls answer `FailedPrecondition` themselves only when no graph runs, and otherwise
return what the running graph answers; `WaitUntilDone` drops the running graph.  So the
wrapper holds a running graph exactly when some start returned OK and no `WaitUntilDone`
came after it, and that graph answered OK to `Initialize` and to `StartRun`.
-/

namespace MediaPipe.Jni

def CallResult.isOk : CallResult → Bool
  | .status returned => returned.ok
  | _ => false

/-- Some `StartRunningGraph` returned OK and no `WaitUntilDone` was called after it. -/
def StartedSinceWait (transcript : Transcript) : Prop :=
  ∃ pre result post, transcript = pre ++ (.startRunningGraph, result) :: post ∧
    result.isOk ∧ ∀ entry ∈ post, entry.1 ≠ .waitUntilDone

/-- A graph whose setup went through: every setup call it received returned OK, and
among them are `Initialize` and `StartRun`. -/
structure CalculatorGraph.SetUp (runningGraph : CalculatorGraph) : Prop where
  all_ok : ∀ entry ∈ runningGraph.setupCalls, entry.2.ok
  initialized : ∃ config status, (.initializeConfig config, status) ∈ runningGraph.setupCalls
  started : ∃ sidePackets streamHeaders status,
    (.startRun sidePackets streamHeaders, status) ∈ runningGraph.setupCalls

/-- The call a stream, close or wait call of the wrapper forwards to `running_graph_`. -/
def GraphCall.forwarded : GraphCall → Option RunningGraphCall
  | .addPacketToInputStream stream packet => some (.addPacketToInputStream stream packet)
  | .setTimestampAndMovePacketToInputStream stream packet timestamp =>
      some (.addPacketToInputStream stream (packet.atTimestamp timestamp))
  | .closeInputStream stream => some (.closeInputStream stream)
  | .closeAllInputStreams => some .closeAllInputStreams
  | .closeAllPacketSources => some .closeAllPacketSources
  | .waitUntilIdle => some .waitUntilIdle
  | .waitUntilDone => some .waitUntilDone
  | _ => none

/-! ## Setting up a graph -/

theorem setUpRunningGraph_ok {answer : CalculatorGraphCall → Status}
    {calls : List CalculatorGraphCall} {runningGraph result : CalculatorGraph}
    (hsetup : setUpRunningGraph answer calls runningGraph = .ok result) :
    result.setupCalls = runningGraph.setupCalls ++ calls.map (fun call => (call, answer call)) ∧
      ∀ call ∈ calls, (answer call).ok := by
  induction calls generalizing runningGraph with
  | nil =>
      cases hsetup
      simp
  | cons call calls ih =>
      rw [setUpRunningGraph] at hsetup
      split at hsetup
      · obtain ⟨hcalls, hok⟩ := ih hsetup
        exact ⟨by simp [hcalls], by simpa [*] using hok⟩
      · cases hsetup

theorem setUpRunningGraph_error {answer : CalculatorGraphCall → Status}
    {calls : List CalculatorGraphCall} {runningGraph : CalculatorGraph} {status : Status}
    (hsetup : setUpRunningGraph answer calls runningGraph = .error status) :
    status.ok = false := by
  induction calls generalizing runningGraph with
  | nil => cases hsetup
  | cons call calls ih =>
      by_cases hok : (answer call).ok
      · rw [setUpRunningGraph, if_pos hok] at hsetup
        exact ih hsetup
      · rw [setUpRunningGraph, if_neg hok] at hsetup
        cases hsetup
        simpa using hok

/-- A graph that answered OK to every setup call of `StartRunningGraph` is set up. -/
theorem setUp_of_setUpRunningGraph {answer : CalculatorGraphCall → Status} {g : Graph}
    {runningGraph : CalculatorGraph}
    (hsetup : setUpRunningGraph answer g.setupCalls ⟨g.graphInputStreamAddMode, []⟩ =
      .ok runningGraph) :
    runningGraph.SetUp := by
  obtain ⟨hcalls, hok⟩ := setUpRunningGraph_ok hsetup
  simp only [List.nil_append] at hcalls
  have hmem : ∀ call ∈ g.setupCalls, (call, answer call) ∈ runningGraph.setupCalls :=
    fun call hcall => hcalls ▸ List.mem_map_of_mem _ hcall
  refine ⟨fun entry hentry => ?_,
    ⟨_, _, hmem (.initializeConfig g.graph) (by simp [Graph.setupCalls])⟩,
    ⟨_, _, _, hmem (.startRun g.createCombinedSidePackets g.streamHeaders)
      (by simp [Graph.setupCalls])⟩⟩
  rw [hcalls, List.mem_map] at hentry
  obtain ⟨call, hcall, rfl⟩ := hentry
  exact hok call hcall

/-! ## One call -/

section Step

variable {tools : GraphTools} {env : Environment} {history : List GraphCall} {g : Graph}

theorem Graph.with_runningGraph_none (hnone : g.runningGraph = none) :
    { g with runningGraph := none } = g := by
  cases g
  cases hnone
  rfl

/-- What `StartRunningGraph` can do: refuse while a graph runs, fail a setup call and
change nothing, or keep a graph that is set up. -/
theorem Graph.startRunningGraph_cases (answer : CalculatorGraphCall → Status) (g : Graph) :
    (g.runningGraph.isSome ∧
        g.startRunningGraph answer = (internalError graphAlreadyRunningMessage, g)) ∨
      (g.runningGraph = none ∧
        ∃ status, status.ok = false ∧ g.startRunningGraph answer = (status, g)) ∨
      (g.runningGraph = none ∧ ∃ runningGraph, runningGraph.SetUp ∧
        g.startRunningGraph answer = (okStatus, { g with runningGraph := some runningGraph })) := by
  rw [Graph.startRunningGraph]
  cases hrunning : g.runningGraph with
  | some runningGraph => exact .inl ⟨rfl, rfl⟩
  | none =>
      simp only [Option.isSome_none, Bool.false_eq_true, if_false]
      cases hsetup : setUpRunningGraph answer g.setupCalls ⟨g.graphInputStreamAddMode, []⟩ with
      | error status =>
          exact .inr (.inl ⟨trivial, status, setUpRunningGraph_error hsetup,
            by rw [Graph.with_runningGraph_none hrunning]⟩)
      | ok runningGraph =>
          exact .inr (.inr ⟨trivial, runningGraph, setUp_of_setUpRunningGraph hsetup, rfl⟩)

theorem Graph.waitUntilDone_eq (answer : CalculatorGraph → RunningGraphCall → Status) :
    g.waitUntilDone answer =
      (g.delegateToRunningGraph answer .waitUntilDone, { g with runningGraph := none }) := by
  rw [Graph.waitUntilDone, Graph.delegateToRunningGraph]
  cases hrunning : g.runningGraph with
  | some runningGraph => rfl
  | none => rw [Graph.with_runningGraph_none hrunning]

/-- A stream, close or wait call returns what `delegateToRunningGraph` gives for the call
it forwards; only `WaitUntilDone` changes the wrapper, by dropping the running graph. -/
theorem Graph.step_of_forwarded {call : GraphCall} {forwarded : RunningGraphCall}
    (hcall : call.forwarded = some forwarded) :
    g.step tools env history call =
      (.status (g.delegateToRunningGraph (env.runningGraph history) forwarded),
        if forwarded = .waitUntilDone then { g with runningGraph := none } else g) := by
  cases call <;> simp only [GraphCall.forwarded, Option.some.injEq, reduceCtorEq] at hcall <;>
    subst hcall <;> simp [Graph.step, withStatus, Graph.waitUntilDone_eq,
      Graph.addPacketToInputStream, Graph.setTimestampAndMovePacketToInputStream,
      Graph.closeInputStream, Graph.closeAllInputStreams, Graph.closeAllPacketSources,
      Graph.waitUntilIdle]

/-- A `StartRunningGraph` that does not return OK changes nothing. -/
theorem Graph.step_startRunningGraph_of_not_ok
    (hnot : (g.step tools env history .startRunningGraph).1.isOk = false) :
    (g.step tools env history .startRunningGraph).2 = g := by
  simp only [Graph.step, withStatus] at hnot ⊢
  rcases Graph.startRunningGraph_cases (env.calculatorGraph history) g with
    ⟨-, heq⟩ | ⟨-, status, -, heq⟩ | ⟨-, runningGraph, -, heq⟩ <;> rw [heq] at hnot ⊢
  simp [CallResult.isOk] at hnot

theorem Graph.loadParsed_runningGraph (parsed : Except CalculatorGraphConfig CalculatorGraphConfig)
    (parseError : Status) : (g.loadParsed parsed parseError).2.runningGraph = g.runningGraph := by
  cases parsed <;> rfl

/-- Every call other than `StartRunningGraph` and `WaitUntilDone` keeps `running_graph_`. -/
theorem Graph.step_runningGraph {call : GraphCall} (hstart : call ≠ .startRunningGraph)
    (hwait : call ≠ .waitUntilDone) :
    (g.step tools env history call).2.runningGraph = g.runningGraph := by
  cases call with
  | startRunningGraph => exact absurd rfl hstart
  | waitUntilDone => exact absurd rfl hwait
  | loadBinaryGraph path =>
      simp only [Graph.step, withStatus, Graph.loadBinaryGraph]
      split
      · exact Graph.loadParsed_runningGraph _ _
      · rfl
  | loadBinaryGraphBytes data => exact Graph.loadParsed_runningGraph _ _
  | setParentGlContext context =>
      rw [Graph.step_setParentGlContext]
      split_ifs <;> rfl
  | _ => simp [Graph.step, withStatus, Graph.addCallbackHandler,
      Graph.addCallbackWithHeaderHandler, Graph.setInputSidePacket, Graph.setStreamHeader,
      Graph.setGraphInputStreamAddMode, Graph.setServicePacket]

end Step

/-! ## The transcript -/

private theorem append_singleton_eq_append_cons {α : Type} {t pre post : List α} {e x : α}
    (heq : t ++ [e] = pre ++ x :: post) :
    (post = [] ∧ t = pre ∧ e = x) ∨
      ∃ rest, post = rest ++ [e] ∧ t = pre ++ x :: rest := by
  rcases List.eq_nil_or_concat post with rfl | ⟨rest, last, rfl⟩
  · obtain ⟨ht, he⟩ := List.append_inj' heq rfl
    exact .inl ⟨rfl, ht, by simpa using he⟩
  · rw [List.concat_eq_append,
      show pre ++ x :: (rest ++ [last]) = (pre ++ x :: rest) ++ [last] by simp] at heq
    obtain ⟨ht, he⟩ := List.append_inj' heq rfl
    simp only [List.cons.injEq, and_true] at he
    exact .inr ⟨rest, by rw [List.concat_eq_append, he], ht⟩

section Transcript

variable {transcript : Transcript}

theorem startedSinceWait_append_start {result : CallResult} (hok : result.isOk) :
    StartedSinceWait (transcript ++ [(.startRunningGraph, result)]) :=
  ⟨transcript, result, [], rfl, hok, by simp⟩

theorem not_startedSinceWait_append_wait (result : CallResult) :
    ¬ StartedSinceWait (transcript ++ [(.waitUntilDone, result)]) := by
  rintro ⟨pre, started, post, heq, -, hpost⟩
  rcases append_singleton_eq_append_cons heq with ⟨-, -, he⟩ | ⟨rest, rfl, -⟩
  · simp at he
  · exact hpost (.waitUntilDone, result) (by simp) rfl

/-- A call that is neither `WaitUntilDone` nor a start that returned OK leaves
`StartedSinceWait` as it was. -/
theorem startedSinceWait_append_iff {entry : GraphCall × CallResult}
    (hwait : entry.1 ≠ .waitUntilDone)
    (hstart : entry.1 = .startRunningGraph → ¬ entry.2.isOk) :
    StartedSinceWait (transcript ++ [entry]) ↔ StartedSinceWait transcript := by
  constructor
  · rintro ⟨pre, started, post, heq, hok, hpost⟩
    rcases append_singleton_eq_append_cons heq with ⟨-, -, rfl⟩ | ⟨rest, rfl, rfl⟩
    · exact absurd hok (hstart rfl)
    · exact ⟨pre, started, rest, rfl, hok, fun e he => hpost e (by simp [he])⟩
  · rintro ⟨pre, started, post, rfl, hok, hpost⟩
    refine ⟨pre, started, post ++ [entry], by simp, hok, ?_⟩
    simp only [List.mem_append, List.mem_singleton]
    rintro e (he | rfl)
    · exact hpost e he
    · exact hwait

end Transcript

/-! ## Every run -/

/-- What holds of `running_graph_` after every sequence of calls. -/
structure RunningInv (session : Session) : Prop where
  running_iff : session.state.runningGraph.isSome ↔ StartedSinceWait session.transcript
  setUp : ∀ runningGraph, session.state.runningGraph = some runningGraph → runningGraph.SetUp

theorem RunningInv.create (mode : GraphInputStreamAddMode) : RunningInv (Session.create mode) where
  running_iff := by simp [Session.create, Graph.create, StartedSinceWait]
  setUp := by simp [Session.create, Graph.create]

theorem RunningInv.step {tools : GraphTools} {env : Environment} {session : Session}
    (hinv : RunningInv session) (call : GraphCall) : RunningInv (session.step tools env call) := by
  refine Session.step_induction call (fun hrunning => ?_) hinv
  rw [Session.step_of_running hrunning]
  by_cases hstart : call = .startRunningGraph
  · subst hstart
    rcases Graph.startRunningGraph_cases
        (env.calculatorGraph (session.transcript.map Prod.fst)) session.state with
      ⟨-, heq⟩ | ⟨-, status, hnot, heq⟩ | ⟨-, runningGraph, hsetup, heq⟩
    · simp only [Graph.step, withStatus, heq]
      exact ⟨hinv.running_iff.trans (startedSinceWait_append_iff (by simp)
        (by simp [CallResult.isOk])).symm, hinv.setUp⟩
    · simp only [Graph.step, withStatus, heq]
      exact ⟨hinv.running_iff.trans (startedSinceWait_append_iff (by simp)
        (by simp [CallResult.isOk, hnot])).symm, hinv.setUp⟩
    · simp only [Graph.step, withStatus, heq]
      refine ⟨by simp [startedSinceWait_append_start, CallResult.isOk], ?_⟩
      rintro _ ⟨⟩
      exact hsetup
  by_cases hwait : call = .waitUntilDone
  · subst hwait
    simp only [Graph.step, withStatus, Graph.waitUntilDone_eq]
    exact ⟨by simp [not_startedSinceWait_append_wait], by simp⟩
  · have hsame :
        (session.state.step tools env (session.transcript.map Prod.fst) call).2.runningGraph =
          session.state.runningGraph := Graph.step_runningGraph hstart hwait
    refine ⟨?_, fun runningGraph h => hinv.setUp runningGraph (hsame ▸ h)⟩
    simp only [hsame]
    exact hinv.running_iff.trans (startedSinceWait_append_iff hwait (absurd · hstart)).symm

theorem RunningInv.run {tools : GraphTools} {env : Environment} {session : Session}
    (hinv : RunningInv session) (calls : List GraphCall) :
    RunningInv (session.run tools env calls) := by
  induction calls generalizing session with
  | nil => exact hinv
  | cons call calls ih => exact ih (hinv.step call)

/-! ## The lifecycle of `running_graph_` -/

/-- After every sequence of calls, whatever the collaborators answer, a graph runs exactly
when some `StartRunningGraph` returned OK and no `WaitUntilDone` came after it, and the
graph that runs answered OK to all its setup calls, `Initialize` and `StartRun` among
them.  From any state, a `StartRunningGraph` that does not return OK changes nothing; a
stream, close or wait call answers `FailedPrecondition` itself when no graph runs, and
otherwise returns what the running graph answers to the call it forwards, changing
nothing except that `WaitUntilDone` drops the running graph. -/
theorem runningGraph_lifecycle (tools : GraphTools) (env : Environment)
    (mode : GraphInputStreamAddMode) (calls : List GraphCall) :
    let session := (Session.create mode).run tools env calls
    (session.state.runningGraph.isSome ↔ StartedSinceWait session.transcript) ∧
      (∀ runningGraph, session.state.runningGraph = some runningGraph → runningGraph.SetUp) ∧
      (∀ (g : Graph) history, (g.step tools env history .startRunningGraph).1.isOk = false →
        (g.step tools env history .startRunningGraph).2 = g) ∧
      ∀ (g : Graph) history call forwarded, call.forwarded = some forwarded →
        (g.runningGraph = none → g.step tools env history call =
          (.status (failedPreconditionError graphMustBeRunningMessage), g)) ∧
        ∀ runningGraph, g.runningGraph = some runningGraph → g.step tools env history call =
          (.status (env.runningGraph history runningGraph forwarded),
            if forwarded = .waitUntilDone then { g with runningGraph := none } else g) := by
  have hinv : RunningInv ((Session.create mode).run tools env calls) :=
    (RunningInv.create mode).run calls
  refine ⟨hinv.running_iff, hinv.setUp, fun g history => Graph.step_startRunningGraph_of_not_ok,
    fun g history call forwarded hcall => ⟨fun hnone => ?_, fun runningGraph hsome => ?_⟩⟩
  · rw [Graph.step_of_forwarded hcall, Graph.delegateToRunningGraph, hnone,
      Graph.with_runningGraph_none hnone, ite_self]
  · rw [Graph.step_of_forwarded hcall, Graph.delegateToRunningGraph, hsome]

/-- A running graph may itself answer `FailedPrecondition`: after a start that returns
OK, `CloseAllInputStreams` returns the running graph's `FailedPrecondition` while a graph
runs. -/
theorem closeAllInputStreams_failedPrecondition_while_running :
    let env : Environment := ⟨fun _ _ => (okStatus, []), fun _ => 0, fun _ _ => okStatus,
      fun _ _ _ => failedPreconditionError "", fun _ _ _ => okStatus, fun _ _ => okStatus⟩
    let session := (Session.create .waitTillNotFull).run exampleTools env
      [.startRunningGraph, .closeAllInputStreams]
    session.transcript.map Prod.snd =
        [.status okStatus, .status (failedPreconditionError "")] ∧
      session.state.runningGraph.isSome := by
  constructor
  · decide
  · rfl

end MediaPipe.Jni
