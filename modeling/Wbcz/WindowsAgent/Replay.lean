import Wbcz.WindowsAgent.Runtime
import Wbcz.WritePipeline.Lifecycle
import Wbcz.Lib.Reservation
import Mathlib.Logic.Function.Basic

/-!
# Executors that share a replay store

Any number of durable executors, in any number of processes, execute jobs over one local
table. A job may be leased and delivered again at any time, to any executor, so any
execution may start at any time; an execution moves from one transaction or remote call
to the next while others move, and a process may crash at any point between them.
-/

namespace Wbcz

open WindowsAgentExecutor (execute reportCreateKey reportCreatePayloadSha write)
open Function (update update_of_ne update_self)
open Transition

/-- How far an execution has come. -/
inductive ExecPhase where
  | entered
  | inspected
  | signed (signature : String) (metadata : CertificateMetadata)
  | claimed (signature : String) (metadata : CertificateMetadata)
  | answered (result : AgentResult)
  | reportEntered
  | reportClaimed
  | reportAnswered (result : AgentResult)
  | done (outcome : Except PyError AgentResult)
  | crashed

/-- The execution has claimed its operation and has not called the remote system yet. -/
def ExecPhase.holding : ExecPhase → Prop
  | claimed _ _ => True
  | _ => False

/-- A running `execute`. -/
structure Execution where
  executor : WindowsAgentExecutor
  job : AgentJob
  phase : ExecPhase

/-- The executor writes, and takes the job to be one of its own. -/
def WindowsAgentExecutor.Passes (sha256 : List UInt8 → String) (contracts : PayloadContracts)
    (executor : WindowsAgentExecutor) (job : AgentJob) : Prop :=
  executor.checkJob sha256 contracts job = .ok () ∧ executor.productionWrite = true

/-- The phase an execution starts in. -/
def WindowsAgentExecutor.enter (sha256 : List UInt8 → String) (contracts : PayloadContracts)
    (executor : WindowsAgentExecutor) (job : AgentJob) : ExecPhase :=
  match executor.checkJob sha256 contracts job with
  | .error e => .done (.error e)
  | .ok () =>
    if job.jobType = .reportCreate then .reportEntered
    else
      match job.jobType.family with
      | .write =>
        if ¬ executor.productionWrite then
          .done (.error ⟨.agentProductionWriteDisabled, "production_write=false"⟩)
        else .entered
      | .pollDocument => .done (executor.poll sha256 job)
      | _ => .done (executor.read job)

namespace Execution

variable (sha256 : List UInt8 → String) (e : Execution) (s : ReplayStore)

def documentSha : String := e.job.documentSha256.getD ""

def reportKey : String := reportCreateKey e.job

def reportSha : String := reportCreatePayloadSha sha256 e.job

/-- The next move of an execution: the table and the phase after it. -/
def advance : ReplayStore × ExecPhase :=
  match e.phase with
  | .entered =>
    match s.inspect e.job.operationId e.documentSha with
    | .error err => (s, .done (.error err))
    | .ok (some previous) => (s, .done (.ok previous))
    | .ok none => (s, .inspected)
  | .inspected =>
    match e.executor.signDocumentBytes e.job with
    | .error err => (s, .done (.error err))
    | .ok (signature, metadata) => (s, .signed signature metadata)
  | .signed signature metadata =>
    match s.claim e.job.operationId e.documentSha with
    | .error err => (s, .done (.error err))
    | .ok (some previous, s') => (s', .done (.ok previous))
    | .ok (none, s') => (s', .claimed signature metadata)
  | .claimed signature metadata =>
    match e.executor.bearerToken with
    | .error err => (s, .done (.error err))
    | .ok token =>
      match e.executor.createRemote sha256 e.job signature metadata token with
      | .error err => (s, .done (.error err))
      | .ok result => (s, .answered result)
  | .answered result =>
    match s.complete sha256 e.job.operationId e.documentSha result with
    | .error err => (s, .done (.error err))
    | .ok s' => (s', .done (.ok result))
  | .reportEntered =>
    match s.claim e.reportKey (e.reportSha sha256) with
    | .error err => (s, .done (.error err))
    | .ok (some previous, s') => (s', .done (.ok previous))
    | .ok (none, s') => (s', .reportClaimed)
  | .reportClaimed =>
    match e.executor.read e.job with
    | .error err => (s, .done (.error err))
    | .ok result => (s, .reportAnswered result)
  | .reportAnswered result =>
    match s.complete sha256 e.reportKey (e.reportSha sha256) result with
    | .error err => (s, .done (.error err))
    | .ok s' => (s', .done (.ok result))
  | phase => (s, phase)

/-- The next move calls the remote system to create the document. -/
def creates : Bool :=
  match e.phase with
  | .claimed _ _ => e.executor.bearerToken.isOk
  | _ => false

end Execution

/-- The shared table, the executions, and the create calls with the execution that made
each. -/
structure AgentSystem (ι : Type) where
  store : ReplayStore
  executions : ι → Option Execution
  creates : List (ι × String)

/-- An empty table and no executions. -/
def AgentSystem.initial (ι : Type) : AgentSystem ι := ⟨Table.empty, fun _ => none, []⟩

/-- What happens in a step. -/
inductive AgentLabel (ι : Type) where
  | start (t : ι) (executor : WindowsAgentExecutor) (job : AgentJob)
  | advance (t : ι)
  | crash (t : ι)

section System

variable {ι : Type} [DecidableEq ι]

/-- Set an execution. -/
def AgentSystem.setExecution (s : AgentSystem ι) (t : ι) (e : Execution) : AgentSystem ι :=
  { s with executions := update s.executions t (some e) }

/-- The system after the next move of an execution. -/
def AgentSystem.advanced (sha256 : List UInt8 → String) (s : AgentSystem ι) (t : ι)
    (e : Execution) : AgentSystem ι :=
  { store := (e.advance sha256 s.store).1
    executions := update s.executions t
      (some { e with phase := (e.advance sha256 s.store).2 })
    creates := if e.creates then s.creates ++ [(t, e.job.operationId)] else s.creates }

/-- One step of the system. -/
inductive AgentStep (sha256 : List UInt8 → String) (contracts : PayloadContracts) :
    AgentSystem ι → AgentLabel ι → AgentSystem ι → Prop
  | start {s t executor job} : s.executions t = none →
      AgentStep sha256 contracts s (.start t executor job)
        (s.setExecution t ⟨executor, job, executor.enter sha256 contracts job⟩)
  | advance {s t e} : s.executions t = some e →
      AgentStep sha256 contracts s (.advance t) (s.advanced sha256 t e)
  | crash {s t e} : s.executions t = some e →
      AgentStep sha256 contracts s (.crash t) (s.setExecution t { e with phase := .crashed })

variable {sha256 : List UInt8 → String} {contracts : PayloadContracts}

/-! ### The table -/

section Store

variable {s s' : ReplayStore}

open ReplayStore

/-- A claim that finds nothing inserts a reserved row; any other accepted claim changes
nothing. -/
theorem claim_cases {operationId documentSha256 : String} {previous : Option AgentResult}
    (h : s.claim operationId documentSha256 = .ok (previous, s')) :
    (previous = none ∧ s.find? operationId = none ∧
        s.insert ⟨operationId, documentSha256, .reserved, none, none⟩ = some s') ∨
      (s' = s ∧ ∃ row result, s.find? operationId = some row ∧ previous = some result ∧
        replay row documentSha256 = .ok result) := by
  unfold ReplayStore.claim at h
  split at h
  · cases h
  · split at h
    · rename_i row hrow
      cases hreplay : replay row documentSha256 with
      | error e =>
        rw [hreplay] at h
        cases h
      | ok result =>
        rw [hreplay] at h
        cases h
        exact .inr ⟨rfl, row, result, hrow, rfl, hreplay⟩
    · rename_i hnone
      split at h
      · cases h
      · rename_i hinsert
        cases h
        exact .inl ⟨rfl, hnone, hinsert⟩

/-- An accepted completion finds the row completed and changes nothing, or completes a
reserved row. -/
theorem complete_cases {operationId documentSha256 : String} {result : AgentResult}
    (h : s.complete sha256 operationId documentSha256 result = .ok s') :
    s' = s ∨ ∃ row, s.find? operationId = some row ∧ row.state = .reserved ∧
      s' = s.modify operationId
        (fun row => { row with
          state := .completed
          resultSha256 := some (result.digest sha256)
          result := some result }) fun _ => rfl := by
  unfold ReplayStore.complete at h
  split at h
  · cases h
  · rename_i row hrow
    split at h
    · cases h
    · split at h
      · split at h
        · cases h
        · cases h
          exact .inl rfl
      · rename_i hstate
        cases h
        refine .inr ⟨row, hrow, ?_, rfl⟩
        cases hs : row.state with
        | reserved => rfl
        | completed => exact absurd hs hstate

/-- What a move of an execution may do to the table. -/
inductive StoreMove (s : ReplayStore) : ReplayStore → Prop
  | same : StoreMove s s
  | reserved {operationId documentSha256 s'} :
      s.insert ⟨operationId, documentSha256, .reserved, none, none⟩ = some s' → StoreMove s s'
  | completed {operationId row digest result} : s.find? operationId = some row →
      row.state = .reserved →
      StoreMove s (s.modify operationId
        (fun row => { row with
          state := .completed, resultSha256 := some digest, result := some result }) fun _ => rfl)

theorem storeMove_of_claim {operationId documentSha256 : String}
    {previous : Option AgentResult}
    (h : s.claim operationId documentSha256 = .ok (previous, s')) : StoreMove s s' := by
  rcases claim_cases h with ⟨_, _, hinsert⟩ | ⟨rfl, _⟩
  · exact .reserved hinsert
  · exact .same

theorem storeMove_of_complete {operationId documentSha256 : String} {result : AgentResult}
    (h : s.complete sha256 operationId documentSha256 result = .ok s') : StoreMove s s' := by
  rcases complete_cases h with rfl | ⟨row, hrow, hstate, rfl⟩
  · exact .same
  · exact .completed hrow hstate

theorem storeMove_advance (e : Execution) : StoreMove s (e.advance sha256 s).1 := by
  unfold Execution.advance
  split
  · split <;> exact .same
  · split <;> exact .same
  · split
    · exact .same
    · exact storeMove_of_claim ‹_›
    · exact storeMove_of_claim ‹_›
  · split
    · exact .same
    · split <;> exact .same
  · split
    · exact .same
    · exact storeMove_of_complete ‹_›
  · split
    · exact .same
    · exact storeMove_of_claim ‹_›
    · exact storeMove_of_claim ‹_›
  · split <;> exact .same
  · split
    · exact .same
    · exact storeMove_of_complete ‹_›
  · exact .same

/-- The operation has a row. -/
def Attempted (s : ReplayStore) (operationId : String) : Prop :=
  ∃ row, s.find? operationId = some row

/-- Rows are never deleted. -/
theorem StoreMove.attempted (h : StoreMove s s') {operationId : String}
    (hrow : Attempted s operationId) : Attempted s' operationId := by
  obtain ⟨row, hrow⟩ := hrow
  cases h with
  | same => exact ⟨row, hrow⟩
  | reserved hinsert => exact ⟨row, Table.find?_insert_of_some hinsert hrow⟩
  | completed hfind _ =>
    unfold Attempted
    rw [Table.find?_modify]
    split
    · exact ⟨_, by rw [hfind]; rfl⟩
    · exact ⟨row, hrow⟩

/-- A completed row stays as it is. -/
theorem StoreMove.completed_row (h : StoreMove s s') {row : ReplayRow} (hrow : row ∈ s)
    (hstate : row.state = .completed) : row ∈ s' := by
  cases h with
  | same => exact hrow
  | reserved hinsert => exact (Table.mem_insert hinsert).mpr (.inl hrow)
  | completed hfind hreserved =>
    refine (Table.mem_modify_of_find? hfind).mpr (.inl ⟨hrow, fun hkey => ?_⟩)
    have hsame := Table.eq_of_key_eq hrow (Table.mem_of_find? hfind)
      (hkey.trans (Table.key_of_find? hfind).symm)
    rw [hsame, hreserved] at hstate
    cases hstate

/-- Completed rows have a result. -/
def ResultsStored (s : ReplayStore) : Prop :=
  ∀ row ∈ s, row.state = .completed → ∃ result, row.result = some result

theorem StoreMove.resultsStored (h : StoreMove s s') (hs : ResultsStored s) :
    ResultsStored s' := by
  intro row hrow hstate
  cases h with
  | same => exact hs row hrow hstate
  | reserved hinsert =>
    rcases (Table.mem_insert hinsert).mp hrow with hold | rfl
    · exact hs row hold hstate
    · cases hstate
  | completed hfind _ =>
    rcases (Table.mem_modify_of_find? hfind).mp hrow with ⟨hold, _⟩ | rfl
    · exact hs row hold hstate
    · exact ⟨_, rfl⟩

/-- A completed row answers an inspection with its result. -/
theorem inspect_of_completed {row : ReplayRow} {result : AgentResult} (hrow : row ∈ s)
    (hstate : row.state = .completed) (hresult : row.result = some result) :
    s.inspect row.operationId row.documentSha256 = .ok (some result) := by
  rw [ReplayStore.inspect, Table.find?_of_mem hrow]
  simp [replay, hstate, hresult, Except.map]

end Store

/-! ### At most one create call -/

/-- The execution has claimed the operation and has not created yet. -/
def AgentSystem.Holds (s : AgentSystem ι) (t : ι) (operationId : String) : Prop :=
  ∃ e, s.executions t = some e ∧ e.job.operationId = operationId ∧ e.phase.holding

/-- The reservations of the system: an operation is taken once it has a row, and spent by
the create call. -/
def AgentSystem.reservations (ι : Type) : Reservation.View (AgentSystem ι) ι String where
  holds := AgentSystem.Holds
  taken s := Attempted s.store
  spent s := s.creates.map Prod.snd

section Steps

variable {s s' : AgentSystem ι} {label : AgentLabel ι}

theorem AgentStep.storeMove (h : AgentStep sha256 contracts s label s') :
    StoreMove s.store s'.store := by
  cases h with
  | start _ => exact .same
  | advance _ => exact storeMove_advance _
  | crash _ => exact .same

/-- An execution that is set to hold nothing holds nothing; the others hold what they held. -/
theorem holds_of_setExecution {t t' : ι} {e : Execution} {id : String}
    (hnew : ¬ e.phase.holding) (h : (s.setExecution t e).Holds t' id) : s.Holds t' id := by
  obtain ⟨e', he', hid, hhold⟩ := h
  by_cases htt : t' = t
  · subst htt
    simp only [AgentSystem.setExecution, update_self, Option.some.injEq] at he'
    exact absurd (he' ▸ hhold) hnew
  · simp only [AgentSystem.setExecution, update_of_ne htt] at he'
    exact ⟨e', he', hid, hhold⟩

theorem not_holding_enter (executor : WindowsAgentExecutor) (job : AgentJob) :
    ¬ (executor.enter sha256 contracts job).holding := by
  unfold WindowsAgentExecutor.enter
  split
  · exact id
  · split
    · exact id
    · split
      · split <;> exact id
      · exact id
      · exact id

/-- A move ends in the claimed phase only through a claim that inserts the row. -/
theorem claimed_of_advance {e : Execution} {store : ReplayStore}
    (h : (e.advance sha256 store).2.holding) :
    store.find? e.job.operationId = none ∧ Attempted (e.advance sha256 store).1 e.job.operationId ∧
      e.creates = false := by
  unfold Execution.advance at h ⊢
  cases hphase : e.phase with
  | signed signature metadata =>
    simp only [hphase] at h ⊢
    cases hclaim : store.claim e.job.operationId e.documentSha with
    | error err => simp [hclaim, ExecPhase.holding] at h
    | ok claimed =>
      obtain ⟨previous, store'⟩ := claimed
      rcases claim_cases hclaim with ⟨rfl, hnone, hinsert⟩ | ⟨_, _, result, _, rfl, _⟩
      · refine ⟨hnone, ⟨_, Table.find?_insert_self hinsert⟩, ?_⟩
        simp [Execution.creates, hphase]
      · simp [hclaim, ExecPhase.holding] at h
  | entered =>
    simp only [hphase] at h
    split at h <;> exact h.elim
  | inspected =>
    simp only [hphase] at h
    split at h <;> exact h.elim
  | claimed signature metadata =>
    simp only [hphase] at h
    split at h
    · exact h.elim
    · split at h <;> exact h.elim
  | answered result =>
    simp only [hphase] at h
    split at h <;> exact h.elim
  | reportEntered =>
    simp only [hphase] at h
    split at h <;> exact h.elim
  | reportClaimed =>
    simp only [hphase] at h
    split at h <;> exact h.elim
  | reportAnswered result =>
    simp only [hphase] at h
    split at h <;> exact h.elim
  | done outcome => simp [hphase, ExecPhase.holding] at h
  | crashed => simp [hphase, ExecPhase.holding] at h

theorem holding_of_creates {e : Execution} (h : e.creates = true) : e.phase.holding := by
  unfold Execution.creates at h
  split at h
  · rename_i hphase
    rw [hphase]
    trivial
  · cases h

/-- The steps are the moves of a reservation. -/
theorem AgentStep.moves (h : AgentStep sha256 contracts s label s') :
    (AgentSystem.reservations ι).Moves s s' := by
  cases h with
  | start _ =>
    exact .quiet (fun _ _ hhold => holds_of_setExecution (not_holding_enter _ _) hhold) rfl
  | crash _ => exact .quiet (fun _ _ hhold => holds_of_setExecution id hhold) rfl
  | @advance t e he =>
    -- what the others hold is untouched, whatever the move
    have others : ∀ t' id, t' ≠ t → (s.advanced sha256 t e).Holds t' id → s.Holds t' id := by
      rintro t' id htt ⟨e', he', hid, hhold⟩
      simp only [AgentSystem.advanced, update_of_ne htt] at he'
      exact ⟨e', he', hid, hhold⟩
    have mine : ∀ id, (s.advanced sha256 t e).Holds t id →
        id = e.job.operationId ∧ (e.advance sha256 s.store).2.holding := by
      rintro id ⟨e', he', rfl, hhold⟩
      simp only [AgentSystem.advanced, update_self, Option.some.injEq] at he'
      subst he'
      exact ⟨rfl, hhold⟩
    by_cases hclaims : (e.advance sha256 s.store).2.holding
    · obtain ⟨hnone, hattempted, hquiet⟩ := claimed_of_advance hclaims
      refine .acquire t e.job.operationId ?_ hattempted ?_ ?_
      · rintro ⟨row, hrow⟩
        rw [hnone] at hrow
        cases hrow
      · intro t' id hhold
        by_cases htt : t' = t
        · subst htt
          exact .inr ⟨rfl, (mine id hhold).1⟩
        · exact .inl (others t' id htt hhold)
      · simp [AgentSystem.reservations, AgentSystem.advanced, hquiet]
    · have dropped : ∀ t' id, (s.advanced sha256 t e).Holds t' id → s.Holds t' id ∧ t' ≠ t := by
        intro t' id hhold
        by_cases htt : t' = t
        · subst htt
          exact absurd (mine id hhold).2 hclaims
        · exact ⟨others t' id htt hhold, htt⟩
      cases hcreates : e.creates with
      | true =>
        refine .spend t e.job.operationId ⟨e, he, rfl, holding_of_creates hcreates⟩ dropped ?_
        simp [AgentSystem.reservations, AgentSystem.advanced, hcreates]
      | false =>
        refine .quiet (fun t' id hhold => (dropped t' id hhold).1) ?_
        simp [AgentSystem.reservations, AgentSystem.advanced, hcreates]

end Steps

/-! ### What a completed operation answers -/

section Completed

variable {s₀ s s' : AgentSystem ι} {label : AgentLabel ι} {row : ReplayRow} {t : ι}
  {result : AgentResult}

/-- The job writes the operation of the row, with the same document. -/
def ReplayRow.Matches (row : ReplayRow) (job : AgentJob) : Prop :=
  job.jobType.family = .write ∧ job.operationId = row.operationId ∧
    job.documentSha256 = some row.documentSha256

/-- An execution for the completed operation that was not running when it was completed: it
waits to inspect the table, has crashed, was refused at the entry, or has returned the stored
result; and it has created nothing. -/
structure Answered (sha256 : List UInt8 → String) (contracts : PayloadContracts)
    (row : ReplayRow) (result : AgentResult) (t : ι) (s : AgentSystem ι) : Prop where
  stored : row ∈ s.store
  phase : ∀ e, s.executions t = some e → row.Matches e.job →
    e.phase = .entered ∨ e.phase = .crashed ∨
      ∃ outcome, e.phase = .done outcome ∧
        (e.executor.Passes sha256 contracts e.job → outcome = .ok result)
  silent : ∀ entry ∈ s.creates, entry.1 = t →
    ∃ e, s.executions t = some e ∧ ¬ row.Matches e.job

/-- An execution that starts waits to inspect the table or is refused. -/
theorem enter_write (sha256 : List UInt8 → String) (contracts : PayloadContracts)
    (executor : WindowsAgentExecutor) {job : AgentJob} (h : job.jobType.family = .write) :
    executor.enter sha256 contracts job = .entered ∨
      ∃ outcome, executor.enter sha256 contracts job = .done outcome ∧
        ¬ executor.Passes sha256 contracts job := by
  have hreport : job.jobType ≠ .reportCreate := by
    intro heq
    rw [heq] at h
    cases h
  unfold WindowsAgentExecutor.enter WindowsAgentExecutor.Passes
  cases hcheck : executor.checkJob sha256 contracts job with
  | error e => exact .inr ⟨_, rfl, fun hpass => nomatch hpass.1⟩
  | ok _ =>
    cases hwrite : executor.productionWrite with
    | true => simp [hreport, h]
    | false =>
      refine .inr ⟨.error ⟨.agentProductionWriteDisabled, "production_write=false"⟩, ?_, ?_⟩
      · simp [hreport, h]
      · simp

/-- A move for a completed operation returns the stored result, and creates nothing. -/
theorem advance_of_matches (sha256 : List UInt8 → String) {e : Execution}
    {store : ReplayStore} (hrow : row ∈ store)
    (hstate : row.state = .completed) (hresult : row.result = some result)
    (hmatch : row.Matches e.job)
    (hphase : e.phase = .entered ∨ e.phase = .crashed ∨ ∃ outcome, e.phase = .done outcome) :
    e.creates = false ∧
      ((e.phase = .entered ∧ (e.advance sha256 store).2 = .done (.ok result)) ∨
        (e.advance sha256 store).2 = e.phase) := by
  rcases hphase with hphase | hphase | ⟨outcome, hphase⟩
  · refine ⟨by simp [Execution.creates, hphase], .inl ⟨hphase, ?_⟩⟩
    have hsha : e.documentSha = row.documentSha256 := by
      simp [Execution.documentSha, hmatch.2.2]
    have hinspect := inspect_of_completed hrow hstate hresult
    simp [Execution.advance, hphase, hmatch.2.1, hsha, hinspect]
  · exact ⟨by simp [Execution.creates, hphase], .inr (by simp [Execution.advance, hphase])⟩
  · exact ⟨by simp [Execution.creates, hphase], .inr (by simp [Execution.advance, hphase])⟩

omit [DecidableEq ι] in
/-- Such an execution is about to inspect the table, or is over. -/
theorem Answered.resting (h : Answered sha256 contracts row result t s) {e : Execution}
    (he : s.executions t = some e) (hmatch : row.Matches e.job) :
    e.phase = .entered ∨ e.phase = .crashed ∨ ∃ outcome, e.phase = .done outcome := by
  rcases h.phase e he hmatch with hin | hcrash | ⟨outcome, hdone, _⟩
  · exact .inl hin
  · exact .inr (.inl hcrash)
  · exact .inr (.inr ⟨outcome, hdone⟩)

/-- The steps keep a completed operation answering with its stored result. -/
theorem Answered.step (hstate : row.state = .completed) (hresult : row.result = some result)
    (h : Answered sha256 contracts row result t s)
    (hstep : AgentStep sha256 contracts s label s') :
    Answered sha256 contracts row result t s' := by
  have hstored := hstep.storeMove.completed_row h.stored hstate
  cases hstep with
  | @start t₀ executor job hidle =>
    refine ⟨hstored, ?_, ?_⟩
    · intro e he hmatch
      by_cases htt : t = t₀
      · subst htt
        simp only [AgentSystem.setExecution, update_self, Option.some.injEq] at he
        subst he
        rcases enter_write sha256 contracts executor hmatch.1 with hin | ⟨outcome, hdone, hrefused⟩
        · exact .inl hin
        · exact .inr (.inr ⟨outcome, hdone, fun hpass => absurd hpass hrefused⟩)
      · simp only [AgentSystem.setExecution, update_of_ne htt] at he
        exact h.phase e he hmatch
    · intro entry hentry ht
      obtain ⟨e, he, hmatch⟩ := h.silent entry hentry ht
      have htt : t ≠ t₀ := by
        rintro rfl
        rw [hidle] at he
        cases he
      exact ⟨e, by simp only [AgentSystem.setExecution, update_of_ne htt, he], hmatch⟩
  | @advance t₀ e₀ he₀ =>
    refine ⟨hstored, ?_, ?_⟩
    · intro e he hmatch
      by_cases htt : t = t₀
      · subst htt
        simp only [AgentSystem.advanced, update_self, Option.some.injEq] at he
        subst he
        have hmatch : row.Matches e₀.job := hmatch
        have hmove := (advance_of_matches sha256 h.stored hstate hresult hmatch
          (h.resting he₀ hmatch)).2
        rcases hmove with ⟨_, hdone⟩ | hsame
        · exact .inr (.inr ⟨_, hdone, fun _ => rfl⟩)
        · simp only [hsame]
          exact h.phase e₀ he₀ hmatch
      · simp only [AgentSystem.advanced, update_of_ne htt] at he
        exact h.phase e he hmatch
    · intro entry hentry ht
      by_cases htt : t = t₀
      · subst htt
        refine ⟨{ e₀ with phase := (e₀.advance sha256 s.store).2 },
          by simp only [AgentSystem.advanced, update_self], ?_⟩
        intro hmatch
        have hmatch : row.Matches e₀.job := hmatch
        have hcreates := (advance_of_matches sha256 h.stored hstate hresult hmatch
          (h.resting he₀ hmatch)).1
        simp only [AgentSystem.advanced, hcreates] at hentry
        obtain ⟨e, he, hother⟩ := h.silent entry hentry ht
        rw [he₀] at he
        cases he
        exact hother hmatch
      · have hentry' : entry ∈ s.creates := by
          simp only [AgentSystem.advanced] at hentry
          split at hentry
          · rcases List.mem_append.mp hentry with hold | hnew
            · exact hold
            · rw [List.mem_singleton.mp hnew] at ht
              exact absurd ht.symm htt
          · exact hentry
        obtain ⟨e, he, hother⟩ := h.silent entry hentry' ht
        exact ⟨e, by simp only [AgentSystem.advanced, update_of_ne htt, he], hother⟩
  | @crash t₀ e₀ he₀ =>
    refine ⟨hstored, ?_, ?_⟩
    · intro e he hmatch
      by_cases htt : t = t₀
      · subst htt
        simp only [AgentSystem.setExecution, update_self, Option.some.injEq] at he
        subst he
        exact .inr (.inl rfl)
      · simp only [AgentSystem.setExecution, update_of_ne htt] at he
        exact h.phase e he hmatch
    · intro entry hentry ht
      obtain ⟨e, he, hother⟩ := h.silent entry hentry ht
      by_cases htt : t = t₀
      · subst htt
        rw [he₀] at he
        cases he
        exact ⟨{ e₀ with phase := .crashed },
          by simp only [AgentSystem.setExecution, update_self], hother⟩
      · exact ⟨e, by simp only [AgentSystem.setExecution, update_of_ne htt, he], hother⟩

/-- Whatever runs after an operation is completed, executions for it that start then answer
with the stored result. -/
theorem answered_of_run {labels : List (AgentLabel ι)} (hrow : row ∈ s.store)
    (hstate : row.state = .completed) (hresult : row.result = some result)
    (hidle : s.executions t = none) (hunused : ∀ entry ∈ s.creates, entry.1 ≠ t)
    (run : Run (AgentStep sha256 contracts) s labels s') :
    Answered sha256 contracts row result t s' := by
  refine run.invariant (Answered sha256 contracts row result t) ⟨hrow, ?_, ?_⟩
    fun _ _ _ h hstep => h.step hstate hresult hstep
  · intro e he
    rw [hidle] at he
    cases he
  · intro entry hentry ht
    exact absurd ht (hunused entry hentry)

end Completed

/-! ### Reachable systems -/

/-- Reservations are spent at most once, completed rows have a result, and only executions
that have started have created anything. -/
structure Guarded (s : AgentSystem ι) : Prop where
  once : (AgentSystem.reservations ι).Once s
  results : ResultsStored s.store
  started : ∀ entry ∈ s.creates, s.executions entry.1 ≠ none

theorem Guarded.step {s s' : AgentSystem ι} {label : AgentLabel ι} (h : Guarded s)
    (hstep : AgentStep sha256 contracts s label s') : Guarded s' where
  once := h.once.move (fun _ => hstep.storeMove.attempted) hstep.moves
  results := hstep.storeMove.resultsStored h.results
  started entry hentry := by
    cases hstep with
    | @start t executor job hidle =>
      by_cases htt : entry.1 = t
      · simp [AgentSystem.setExecution, htt]
      · simpa [AgentSystem.setExecution, update_of_ne htt] using h.started entry hentry
    | @advance t e he =>
      by_cases htt : entry.1 = t
      · simp [AgentSystem.advanced, htt]
      · simp only [AgentSystem.advanced, update_of_ne htt] at hentry ⊢
        split at hentry
        · rcases List.mem_append.mp hentry with hold | hnew
          · exact h.started entry hold
          · exact absurd (congrArg Prod.fst (List.mem_singleton.mp hnew)) htt
        · exact h.started entry hentry
    | @crash t e he =>
      by_cases htt : entry.1 = t
      · simp [AgentSystem.setExecution, htt]
      · simpa [AgentSystem.setExecution, update_of_ne htt] using h.started entry hentry

theorem guarded_of_run {labels : List (AgentLabel ι)} {s : AgentSystem ι}
    (run : Run (AgentStep sha256 contracts) (.initial ι) labels s) : Guarded s := by
  refine run.invariant Guarded ?_ fun _ _ _ h hstep => h.step hstep
  refine ⟨.initial ?_ rfl, fun _ hrow => absurd hrow Table.not_mem_empty,
    fun _ hentry => nomatch hentry⟩
  rintro t id ⟨e, he, _⟩
  cases he

/-! ### The sequential execution -/

/-- Several moves of one execution. -/
def Execution.advances (sha256 : List UInt8 → String) (e : Execution) :
    Nat → ReplayStore × ExecPhase → ReplayStore × ExecPhase
  | 0, p => p
  | n + 1, p => advances sha256 e n ({ e with phase := p.2 }.advance sha256 p.1)

theorem advances_succ (e : Execution) (n : Nat) (s : ReplayStore) (phase : ExecPhase) :
    e.advances sha256 (n + 1) (s, phase) =
      e.advances sha256 n ({ e with phase := phase }.advance sha256 s) := rfl

@[simp] theorem advances_done (e : Execution) (n : Nat) (s : ReplayStore)
    (outcome : Except PyError AgentResult) :
    e.advances sha256 n (s, .done outcome) = (s, .done outcome) := by
  induction n with
  | zero => rfl
  | succ n ih => exact ih

/-- The moves of a write are what `write` does. -/
theorem advances_write (executor : WindowsAgentExecutor) (job : AgentJob) (s : ReplayStore)
    (hwrite : executor.productionWrite = true) :
    Execution.advances sha256 ⟨executor, job, .entered⟩ 5 (s, .entered) =
      ((executor.write sha256 s job).2, .done (executor.write sha256 s job).1) := by
  unfold write
  simp only [hwrite, not_true_eq_false, if_false]
  rw [advances_succ]
  simp only [Execution.advance, Execution.documentSha]
  cases s.inspect job.operationId (job.documentSha256.getD "") with
  | error err => simp
  | ok previous =>
    cases previous with
    | some previous => simp
    | none =>
      simp only
      rw [advances_succ]
      simp only [Execution.advance]
      cases executor.signDocumentBytes job with
      | error err => simp
      | ok signed =>
        obtain ⟨signature, metadata⟩ := signed
        simp only
        rw [advances_succ]
        simp only [Execution.advance, Execution.documentSha]
        cases s.claim job.operationId (job.documentSha256.getD "") with
        | error err => simp
        | ok claimed =>
          obtain ⟨previous, claimed⟩ := claimed
          cases previous with
          | some previous => simp
          | none =>
            simp only
            rw [advances_succ]
            simp only [Execution.advance]
            cases executor.bearerToken with
            | error err => simp
            | ok token =>
              simp only
              cases executor.createRemote sha256 job signature metadata token with
              | error err => simp
              | ok result =>
                simp only
                rw [advances_succ]
                simp only [Execution.advance, Execution.documentSha]
                cases claimed.complete sha256 job.operationId (job.documentSha256.getD "") result
                  <;> simp

/-- The phase an execution is in while its moves are made does not matter. -/
theorem advances_congr (executor : WindowsAgentExecutor) (job : AgentJob)
    (phase phase' : ExecPhase) (n : Nat) (p : ReplayStore × ExecPhase) :
    Execution.advances sha256 ⟨executor, job, phase⟩ n p =
      Execution.advances sha256 ⟨executor, job, phase'⟩ n p := by
  induction n generalizing p with
  | zero => rfl
  | succ n ih => exact ih _

/-- The moves from the entry on are what `execute` does. -/
theorem advances_enter (executor : WindowsAgentExecutor) (job : AgentJob) (s : ReplayStore) :
    Execution.advances sha256 ⟨executor, job, .entered⟩ 5
        (s, executor.enter sha256 contracts job) =
      ((executor.execute sha256 contracts s job).2,
        .done (executor.execute sha256 contracts s job).1) := by
  unfold WindowsAgentExecutor.enter execute
  cases executor.checkJob sha256 contracts job with
  | error err => simp
  | ok _ =>
    simp only
    by_cases hreport : job.jobType = .reportCreate
    · simp only [hreport, if_true]
      rw [advances_succ]
      simp only [Execution.advance, Execution.reportKey, Execution.reportSha]
      cases s.claim (reportCreateKey job)
          (reportCreatePayloadSha sha256 job) with
      | error err => simp
      | ok claimed =>
        obtain ⟨previous, claimed⟩ := claimed
        cases previous with
        | some previous => simp
        | none =>
          simp only
          rw [advances_succ]
          simp only [Execution.advance]
          cases executor.read job with
          | error err => simp
          | ok result =>
            simp only
            rw [advances_succ]
            simp only [Execution.advance, Execution.reportKey, Execution.reportSha]
            cases claimed.complete sha256 (reportCreateKey job)
              (reportCreatePayloadSha sha256 job) result <;> simp
    · simp only [hreport, if_false]
      cases hfamily : job.jobType.family with
      | write =>
        simp only
        cases hwrite : executor.productionWrite with
        | false => simp [write, hwrite]
        | true => simpa using advances_write executor job s hwrite
      | _ => simp

/-- Moves of one execution are steps of the system. -/
theorem run_advances {s : AgentSystem ι} {t : ι} {e : Execution} (he : s.executions t = some e)
    (n : Nat) : ∃ labels s', Run (AgentStep sha256 contracts) s labels s' ∧
      s'.store = (e.advances sha256 n (s.store, e.phase)).1 ∧
      s'.executions t = some { e with phase := (e.advances sha256 n (s.store, e.phase)).2 } ∧
      ∀ t', t' ≠ t → s'.executions t' = s.executions t' := by
  induction n generalizing s e with
  | zero => exact ⟨[], s, .nil, rfl, he, fun _ _ => rfl⟩
  | succ n ih =>
    have hnext : (s.advanced sha256 t e).executions t =
        some { e with phase := (e.advance sha256 s.store).2 } := by
      simp [AgentSystem.advanced]
    obtain ⟨labels, s', hrun, hstore, hphase, hothers⟩ := ih hnext
    refine ⟨_, s', (Run.single (AgentStep.advance he)).append hrun, ?_, ?_, ?_⟩
    · rw [hstore]
      exact congrArg Prod.fst (advances_congr _ _ _ _ _ _)
    · rw [hphase]
      congr 2
      exact congrArg Prod.snd (advances_congr _ _ _ _ _ _)
    · intro t' htt
      rw [hothers t' htt]
      simp [AgentSystem.advanced, update_of_ne htt]

/-- An execution that runs alone is a run of the system. -/
theorem execute_runs {s : AgentSystem ι} {t : ι} (hidle : s.executions t = none)
    (executor : WindowsAgentExecutor) (job : AgentJob) :
    ∃ labels s', Run (AgentStep sha256 contracts) s labels s' ∧
      s'.store = (executor.execute sha256 contracts s.store job).2 ∧
      s'.executions t =
        some ⟨executor, job, .done (executor.execute sha256 contracts s.store job).1⟩ ∧
      ∀ t', t' ≠ t → s'.executions t' = s.executions t' := by
  have hstarted : (s.setExecution t ⟨executor, job, executor.enter sha256 contracts job⟩).executions
      t = some ⟨executor, job, executor.enter sha256 contracts job⟩ := by
    simp [AgentSystem.setExecution]
  obtain ⟨labels, s', hrun, hstore, hphase, hothers⟩ :=
    @run_advances _ _ sha256 contracts _ _ _ hstarted 5
  have hexecute := @advances_enter sha256 contracts executor job s.store
  rw [advances_congr _ _ _ (executor.enter sha256 contracts job)] at hexecute
  refine ⟨_, s', (Run.single (.start hidle)).append hrun, ?_, ?_, ?_⟩
  · rw [hstore]
    exact congrArg Prod.fst hexecute
  · rw [hphase]
    congr 2
    exact congrArg Prod.snd hexecute
  · intro t' htt
    rw [hothers t' htt]
    simp [AgentSystem.setExecution, update_of_ne htt]

/-- A completed operation answers an execution that runs alone with its stored result. -/
theorem execute_of_completed {s : ReplayStore} {row : ReplayRow} {result : AgentResult}
    {executor : WindowsAgentExecutor} {job : AgentJob} (hrow : row ∈ s)
    (hstate : row.state = .completed) (hresult : row.result = some result)
    (hmatch : row.Matches job) (hpass : executor.Passes sha256 contracts job) :
    executor.execute sha256 contracts s job = (.ok result, s) := by
  have hreport : job.jobType ≠ .reportCreate := by
    intro heq
    have hwrite := hmatch.1
    rw [heq] at hwrite
    cases hwrite
  have hinspect := inspect_of_completed hrow hstate hresult
  rw [execute, hpass.1]
  simp [hreport, hmatch.1, write, hpass.2, hmatch.2.1, hmatch.2.2, hinspect]

/-- However executors that share a table interleave and crash, no operation is created twice;
and once an operation is completed, every later execution with the same document that passes
the checks at its entry returns the stored result and creates nothing. -/
theorem create_document_at_most_once {labels : List (AgentLabel ι)} {s : AgentSystem ι}
    (run : Run (AgentStep sha256 contracts) (.initial ι) labels s) :
    (s.creates.map fun entry => entry.2).Nodup ∧
      ∀ row ∈ s.store, row.state = .completed → ∃ result, row.result = some result ∧
        ∀ labels' s', Run (AgentStep sha256 contracts) s labels' s' →
          (∀ t e, s.executions t = none → s'.executions t = some e → row.Matches e.job →
            e.executor.Passes sha256 contracts e.job →
            (∀ outcome, e.phase = .done outcome → outcome = .ok result) ∧
              ∀ entry ∈ s'.creates, entry.1 ≠ t) ∧
          ∀ executor job, row.Matches job → WindowsAgentExecutor.Passes sha256 contracts executor job →
            executor.execute sha256 contracts s'.store job = (.ok result, s'.store) := by
  have hguarded := guarded_of_run run
  refine ⟨hguarded.once.nodup, fun row hrow hstate => ?_⟩
  obtain ⟨result, hresult⟩ := hguarded.results row hrow hstate
  refine ⟨result, hresult, fun labels' s' run' => ⟨?_, ?_⟩⟩
  · intro t e hidle he hmatch hpass
    have hunused : ∀ entry ∈ s.creates, entry.1 ≠ t := by
      rintro entry hentry rfl
      exact hguarded.started entry hentry hidle
    have hanswered := answered_of_run hrow hstate hresult hidle hunused run'
    constructor
    · intro outcome hdone
      rcases hanswered.phase e he hmatch with hin | hcrash | ⟨outcome', hdone', hok⟩
      · rw [hin] at hdone
        cases hdone
      · rw [hcrash] at hdone
        cases hdone
      · rw [hdone'] at hdone
        cases hdone
        exact hok hpass
    · intro entry hentry ht
      obtain ⟨e', he', hother⟩ := hanswered.silent entry hentry ht
      rw [he] at he'
      cases he'
      exact hother hmatch
  · intro executor job hmatch hpass
    have hstored := run'.invariant (fun s => row ∈ s.store) hrow
      fun _ _ _ h hstep => hstep.storeMove.completed_row h hstate
    exact execute_of_completed hstored hstate hresult hmatch hpass

end System

/-! ### A completed operation -/

/-- The job of the sample operation. -/
def sampleJob : AgentJob where
  jobId := "job-1"
  jobType := .lkReceipt
  operationId := sampleOperationId
  pg := "lp"
  expectedInn := "7700000000"
  documentType := some "LK_RECEIPT"
  documentSha256 := some sampleRequest.document.sha256
  productDocumentBase64 := some "e30="

/-- An executor whose transport answers with a document id. -/
def sampleExecutor (productionWrite : Bool) : WindowsAgentExecutor where
  participantInn := "7700000000"
  productionWrite := productionWrite
  signDocumentBytes _ := .ok ("c2ln", {})
  bearerToken := .ok "token"
  createDocument _ _ _ _ := .ok ⟨200, [], none⟩
  parseDocumentId _ := .ok (some "doc-1")
  pollDocument _ _ := .ok ⟨200, [], none⟩
  parseStatus _ := .ok (some "CHECKED_OK")
  read job := .ok { jobId := job.jobId, operationId := job.operationId, outcome := "READ_FAILED" }

/-- Contracts that accept every payload. -/
def openContracts : PayloadContracts := fun _ _ => none

theorem checkJob_sample (productionWrite : Bool) :
    (sampleExecutor productionWrite).checkJob Sha256.hexdigest openContracts sampleJob =
      .ok () := by
  revert productionWrite
  decide +kernel

/-- The sample job, executed alone, completes its row. -/
theorem sample_completed : ∃ (labels : List (AgentLabel Nat)) (s : AgentSystem Nat),
    Run (AgentStep Sha256.hexdigest openContracts) (.initial Nat) labels s ∧
      ∃ row ∈ s.store, row.state = .completed ∧ row.Matches sampleJob := by
  obtain ⟨labels, s, hrun, hstore, _⟩ := execute_runs (s := .initial Nat) (t := 0) rfl
    (sampleExecutor true) sampleJob
  refine ⟨labels, s, hrun, ?_⟩
  rw [hstore]
  have hfound : (((sampleExecutor true).execute Sha256.hexdigest openContracts Table.empty
      sampleJob).2.find? sampleOperationId).map (fun row => (row.state, row.documentSha256)) =
      some (.completed, sampleRequest.document.sha256) := by
    decide +kernel
  obtain ⟨row, hrow, hfields⟩ := Option.map_eq_some_iff.mp hfound
  obtain ⟨hstate, hsha⟩ := Prod.mk.inj hfields
  refine ⟨row, Table.mem_of_find? hrow, hstate, rfl, (Table.key_of_find? hrow).symm, ?_⟩
  rw [hsha]
  rfl

theorem create_document_at_most_once_sample :
    ∃ (labels : List (AgentLabel Nat)) (s : AgentSystem Nat),
      Run (AgentStep Sha256.hexdigest openContracts) (.initial Nat) labels s ∧
        (s.creates.map fun entry => entry.2).Nodup ∧
        ∃ row ∈ s.store, row.state = .completed ∧ ∃ result, row.result = some result ∧
          (sampleExecutor true).execute Sha256.hexdigest openContracts s.store sampleJob =
            (.ok result, s.store) := by
  obtain ⟨labels, s, hrun, row, hrow, hstate, hmatch⟩ := sample_completed
  obtain ⟨honce, hstored⟩ := create_document_at_most_once hrun
  obtain ⟨result, hresult, hlater⟩ := hstored row hrow hstate
  have hexecute := (hlater [] s .nil).2 (sampleExecutor true) sampleJob hmatch
    ⟨checkJob_sample true, rfl⟩
  exact ⟨labels, s, hrun, honce, row, hrow, hstate, result, hresult, hexecute⟩

/-- An executor that does not write refuses before it looks for a stored result. -/
theorem replay_needs_production_write :
    ∃ (labels : List (AgentLabel Nat)) (s : AgentSystem Nat),
      Run (AgentStep Sha256.hexdigest openContracts) (.initial Nat) labels s ∧
        ∃ row ∈ s.store, row.state = .completed ∧ row.Matches sampleJob ∧
          (sampleExecutor false).execute Sha256.hexdigest openContracts s.store sampleJob =
            (.error ⟨.agentProductionWriteDisabled, "production_write=false"⟩, s.store) := by
  obtain ⟨labels, s, hrun, row, hrow, hstate, hmatch⟩ := sample_completed
  refine ⟨labels, s, hrun, row, hrow, hstate, hmatch, ?_⟩
  rw [WindowsAgentExecutor.execute, checkJob_sample]
  rfl

end Wbcz
