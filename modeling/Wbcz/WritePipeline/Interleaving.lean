import Wbcz.WritePipeline.Lifecycle
import Wbcz.WritePipeline.Pipeline
import Wbcz.Lib.Reservation
import Mathlib.Logic.Function.Basic

/-!
# Pipelines that share a store

Any number of pipelines submit operations of one store at the same time. A submission
runs in the steps between which others may run: the reservation, the reading of the
reserved record, the remote create call, and the recording of its outcome. Any
transaction of anyone may come in between, a remote call may end in any way, and a
submission may stop for good at any point.
-/

namespace Wbcz

open Function (update update_of_ne update_self)
open WriteStore Transition

/-- How far a submission has come. -/
inductive SubmitPhase where
  | checked
  | reserved
  | loaded (op : OperationRecord)
  | answered (outcome : Except PyError CreateResult)

/-- The submission has reserved its operation and has not called create yet. -/
def SubmitPhase.holding : SubmitPhase → Prop
  | reserved | loaded _ => True
  | checked | answered _ => False

/-- A running `submit`. -/
structure SubmitThread where
  pipeline : WritePipeline
  operationId : String
  phase : SubmitPhase

/-- The shared store, the running submissions, and the records create was called with. -/
structure SystemState (ι : Type) where
  store : WriteStore
  threads : ι → Option SubmitThread
  creates : List OperationRecord

/-- Nothing prepared, nothing running. -/
def SystemState.initial (ι : Type) : SystemState ι := ⟨.empty, fun _ => none, []⟩

/-- What happens in a step. -/
inductive SystemLabel (ι : Type) where
  | store (call : StoreCall)
  | start (t : ι) (pipeline : WritePipeline) (operationId : String)
  | reserve (t : ι)
  | load (t : ι)
  | create (t : ι) (outcome : Except PyError CreateResult)
  | record (t : ι)
  | stop (t : ι)

/-- The transaction that records an outcome, as a call of the store. -/
def outcomeCall (operationId : String) : Except PyError CreateResult → StoreCall
  | .error exc => .markSubmitAmbiguous operationId exc.cls.name
  | .ok result => .completeSubmit operationId result

section System

variable {ι : Type} [DecidableEq ι]

/-- Set the submission of a thread. -/
def SystemState.setThread (s : SystemState ι) (t : ι) (thread : Option SubmitThread) :
    SystemState ι :=
  { s with threads := update s.threads t thread }

/-- One step of the system. A transaction that is rejected ends its submission (`stop`). -/
inductive SystemStep (sha256 : List UInt8 → String) :
    SystemState ι → SystemLabel ι → SystemState ι → Prop
  | store {s call store'} : s.store.step sha256 call = .ok store' →
      SystemStep sha256 s (.store call) { s with store := store' }
  | start {s t pipeline operationId} : s.threads t = none → pipeline.trueApiWrite = true →
      pipeline.writer.isSome →
      SystemStep sha256 s (.start t pipeline operationId)
        (s.setThread t (some ⟨pipeline, operationId, .checked⟩))
  | reserve {s t pipeline operationId store'} :
      s.threads t = some ⟨pipeline, operationId, .checked⟩ →
      s.store.step sha256 (.reserveSubmit operationId) = .ok store' →
      SystemStep sha256 s (.reserve t)
        ({ s with store := store' }.setThread t (some ⟨pipeline, operationId, .reserved⟩))
  | load {s t pipeline operationId op} :
      s.threads t = some ⟨pipeline, operationId, .reserved⟩ →
      s.store.get operationId = .ok op →
      SystemStep sha256 s (.load t)
        (s.setThread t (some ⟨pipeline, operationId, .loaded op⟩))
  | create {s t pipeline operationId op outcome} :
      s.threads t = some ⟨pipeline, operationId, .loaded op⟩ →
      SystemStep sha256 s (.create t outcome)
        ({ s with creates := s.creates ++ [op] }.setThread t
          (some ⟨pipeline, operationId, .answered outcome⟩))
  | record {s t pipeline operationId outcome store'} :
      s.threads t = some ⟨pipeline, operationId, .answered outcome⟩ →
      s.store.step sha256 (outcomeCall operationId outcome) = .ok store' →
      SystemStep sha256 s (.record t) ({ s with store := store' }.setThread t none)
  | stop {s t} : SystemStep sha256 s (.stop t) (s.setThread t none)

/-! ### The invariant -/

/-- The states of an operation that has not been reserved for submission. -/
def WriteState.preSubmitStates : List WriteState := [.prepared, .awaitingSignature, .signed]

open WriteState

/-- The operation exists and has been reserved for submission. -/
def PastSubmit (s : WriteStore) (operationId : String) : Prop :=
  ∃ row, s.operations.find? operationId = some row ∧ row.state ∉ preSubmitStates

/-- The record's key is the one of its event and decision. -/
def DerivedKey (sha256 : List UInt8 → String) (op : OperationRecord) : Prop :=
  ∃ request, checkPrepare sha256 request = .ok () ∧ op.eventId = request.eventId ∧
    op.decision = request.decision ∧
    op.operationId = operationIdOf (businessFingerprint sha256 request)

/-- The thread has reserved the operation and has not called create yet. -/
def SystemState.Holds (s : SystemState ι) (t : ι) (operationId : String) : Prop :=
  ∃ thread, s.threads t = some thread ∧ thread.operationId = operationId ∧
    thread.phase.holding

/-- The reservations of the system: an operation is taken once it is past submission, and
spent by the create call. -/
def SystemState.reservations (ι : Type) : Reservation.View (SystemState ι) ι String where
  holds := SystemState.Holds
  taken s := PastSubmit s.store
  spent s := s.creates.map OperationRecord.operationId

/-- Reservations are spent at most once; the records that create is or was called with are
those of their operations. -/
structure AtMostOnce (sha256 : List UInt8 → String) (s : SystemState ι) : Prop where
  store : ∃ log, Run (Accepts (step sha256)) .empty log s.store
  loaded : ∀ t pipeline operationId op,
    s.threads t = some ⟨pipeline, operationId, .loaded op⟩ →
      op.operationId = operationId ∧ DerivedKey sha256 op
  created : ∀ op ∈ s.creates, DerivedKey sha256 op
  once : (SystemState.reservations ι).Once s

variable {sha256 : List UInt8 → String}

section Store

variable {s s' : WriteStore} {operationId : String}

theorem Moves.not_preSubmit {call : StoreCall} {id : String} {a b : WriteState}
    (h : Moves call id a b) : b ∉ preSubmitStates := by
  cases h with
  | @pollTerminal _ status => cases classifyPollStatus status <;> decide
  | @reconcile _ confirmed => cases confirmed <;> decide
  | _ => decide

/-- No transaction takes a reserved operation back. -/
theorem PastSubmit.step {call : StoreCall} (h : PastSubmit s operationId)
    (hstep : s.step sha256 call = .ok s') : PastSubmit s' operationId := by
  obtain ⟨row, hfind, hstate⟩ := h
  -- the row rewritten by the call keeps or leaves its state, never for one before submission
  have modified : ∀ id (row₀ : OperationRow) (f : OperationRow → OperationRow)
      (hf : ∀ row, (f row).key = row.key), s.operations.find? id = some row₀ →
      (row₀.state ∉ preSubmitStates → (f row₀).state ∉ preSubmitStates) →
      ∃ row, (s.operations.modify id f hf).find? operationId = some row ∧
        row.state ∉ preSubmitStates := by
    intro id row₀ f hf hfind₀ hkeep
    by_cases hid : operationId = id
    · subst hid
      rw [hfind] at hfind₀
      cases hfind₀
      exact ⟨f row, by rw [Table.find?_modify_self, hfind]; rfl, hkeep hstate⟩
    · exact ⟨row, by rw [Table.find?_modify_ne hid, hfind], hstate⟩
  unfold PastSubmit
  have heffect := effect_of_step hstep
  generalize s'.operations = ops' at heffect
  cases heffect with
  | inserted _ _ hinsert => exact ⟨row, Table.find?_insert_of_some hinsert hfind, hstate⟩
  | signed hfind₀ hstate₀ _ =>
    exact modified _ _ _ _ hfind₀ fun h => absurd (hstate₀ ▸ by decide) h
  | submitted hfind₀ _ _ =>
    rename_i result _ _ _
    refine modified _ _ _ _ hfind₀ fun _ => ?_
    simp only [submitRow]
    cases result.category <;> decide
  | moved hfind₀ hmoves _ => exact modified _ _ _ _ hfind₀ fun _ => hmoves.not_preSubmit
  | prepareReplayed | signatureReplayed | noted | polledAgain => exact ⟨row, hfind, hstate⟩

/-- A reservation is accepted only before submission, and is the point of no return. -/
theorem pastSubmit_of_reserve (h : s.step sha256 (.reserveSubmit operationId) = .ok s') :
    ¬ PastSubmit s operationId ∧ PastSubmit s' operationId := by
  have heffect := effect_of_step h
  unfold PastSubmit
  generalize s'.operations = ops' at heffect
  cases heffect with
  | moved hfind hmoves _ =>
    rename_i target row id
    generalize hfrom : row.state = a at hmoves
    cases hmoves
    constructor
    · rintro ⟨row', hrow', hstate⟩
      rw [hfind] at hrow'
      cases hrow'
      rw [hfrom] at hstate
      exact hstate (by decide)
    · refine ⟨{ row with state := .submitting }, ?_, show WriteState.submitting ∉ _ by decide⟩
      rw [Table.find?_modify_self, hfind]
      rfl

/-- Every record of a reachable store has the key of its event and decision. -/
theorem derivedKey_of_run {log : List StoreCall} {op : OperationRecord}
    (run : Run (Accepts (step sha256)) .empty log s) (hget : s.get operationId = .ok op) :
    op.operationId = operationId ∧ DerivedKey sha256 op := by
  obtain ⟨row, hrow, rfl⟩ := get_eq_ok.mp hget
  refine ⟨OperationRow.operationId_of_find? hrow, ?_⟩
  have hrecord := wellRecorded_of_run run row (Table.mem_of_find? hrow)
  obtain ⟨request, now, _, hcheck, hidentity⟩ := hrecord.preparation
  exact ⟨request, hcheck, congrArg OperationIdentity.eventId hidentity,
    congrArg OperationIdentity.decision hidentity,
    congrArg OperationIdentity.operationId hidentity⟩

end Store

/-- The key of an operation depends on the event and the decision only. -/
theorem DerivedKey.operationId_eq {op op' : OperationRecord} (h : DerivedKey sha256 op)
    (h' : DerivedKey sha256 op') (hevent : op.eventId = op'.eventId)
    (hdecision : op.decision = op'.decision) : op.operationId = op'.operationId := by
  obtain ⟨request, hcheck, he, hd, hid⟩ := h
  obtain ⟨request', hcheck', he', hd', hid'⟩ := h'
  -- the checks of `prepare` leave no choice of type, reason and group
  have fixed : ∀ r, checkPrepare sha256 r = .ok () →
      decisionDocument r.decision = some (r.documentType, r.operationReason) ∧
        r.pg = allowedProductGroup := by
    intro r hr
    unfold checkPrepare at hr
    split at hr
    · cases hr
    · rename_i type reason hdoc
      split at hr
      · cases hr
      · rename_i hmap
        split at hr
        · cases hr
        · split at hr
          · cases hr
          · rename_i hpg
            push Not at hmap hpg
            rw [hdoc, hmap.1, hmap.2]
            exact ⟨rfl, hpg⟩
  obtain ⟨hdoc, hpg⟩ := fixed request hcheck
  obtain ⟨hdoc', hpg'⟩ := fixed request' hcheck'
  have hev : request.eventId = request'.eventId := by rw [← he, ← he', hevent]
  have hdec : request.decision = request'.decision := by rw [← hd, ← hd', hdecision]
  rw [hdec, hdoc'] at hdoc
  obtain ⟨htype, hreason⟩ := Prod.mk.inj (Option.some.inj hdoc)
  rw [hid, hid', businessFingerprint, businessFingerprint, fingerprintSource, fingerprintSource,
    hev, hdec, htype, hreason, hpg, hpg']

/-! ### The steps keep the invariant -/

section Threads

variable {s : SystemState ι} {t t' : ι} {id : String} {thread : Option SubmitThread}

@[simp] theorem setThread_store : (s.setThread t thread).store = s.store := rfl

@[simp] theorem setThread_creates : (s.setThread t thread).creates = s.creates := rfl

@[simp] theorem setThread_self : (s.setThread t thread).threads t = thread := by
  simp [SystemState.setThread]

/-- The last phase set is the one that counts. -/
@[simp] theorem setThread_setThread {thread' : Option SubmitThread} {store : WriteStore}
    {creates : List OperationRecord} :
    ({ s.setThread t thread with store := store, creates := creates }).setThread t thread' =
      ({ s with store := store, creates := creates }).setThread t thread' := by
  simp [SystemState.setThread]

@[simp] theorem setThread_setThread_same {thread' : Option SubmitThread} :
    (s.setThread t thread).setThread t thread' = s.setThread t thread' := by
  simp [SystemState.setThread]

theorem setThread_of_threads {store : WriteStore} {creates : List OperationRecord}
    (h : s.threads t = thread) :
    SystemState.setThread { s with store := store, creates := creates } t thread =
      { s with store := store, creates := creates } := by
  subst h
  simp [SystemState.setThread]

theorem holds_setThread_of_ne (h : t' ≠ t) :
    (s.setThread t thread).Holds t' id ↔ s.Holds t' id := by
  simp [SystemState.Holds, SystemState.setThread, update_of_ne h]

/-- A thread that is set to hold nothing holds nothing; the others hold what they held. -/
theorem holds_of_setThread (hnew : ∀ th ∈ thread, ¬ th.phase.holding)
    (h : (s.setThread t thread).Holds t' id) : s.Holds t' id := by
  by_cases htt : t' = t
  · subst htt
    obtain ⟨th, hth, _, hhold⟩ := h
    simp only [SystemState.setThread, update_self] at hth
    exact absurd hhold (hnew th hth)
  · exact (holds_setThread_of_ne htt).mp h

theorem threads_of_setThread {th : SubmitThread} (hne : thread ≠ some th)
    (h : (s.setThread t thread).threads t' = some th) : s.threads t' = some th := by
  by_cases htt : t' = t
  · subst htt
    simp only [SystemState.setThread, update_self] at h
    exact absurd h hne
  · simpa only [SystemState.setThread, update_of_ne htt] using h

end Threads

section Steps

variable {s s' : SystemState ι} {t : ι} {label : SystemLabel ι}

/-- The store moves by its own transactions only. -/
theorem SystemStep.store_eq_or_step (h : SystemStep sha256 s label s') :
    s'.store = s.store ∨ ∃ call, s.store.step sha256 call = .ok s'.store := by
  cases h with
  | store hcall => exact .inr ⟨_, hcall⟩
  | reserve _ hcall => exact .inr ⟨_, hcall⟩
  | record _ hcall => exact .inr ⟨_, hcall⟩
  | start | load | create | stop => exact .inl rfl

/-- No step takes a reserved operation back. -/
theorem SystemStep.pastSubmit (h : SystemStep sha256 s label s') {id : String}
    (hpast : PastSubmit s.store id) : PastSubmit s'.store id := by
  rcases h.store_eq_or_step with heq | ⟨call, hcall⟩
  · rwa [heq]
  · exact hpast.step hcall

/-- The steps are the moves of a reservation: an accepted reservation acquires, a create call
spends, and nothing else touches the reservations. -/
theorem SystemStep.moves (hinv : AtMostOnce sha256 s) (h : SystemStep sha256 s label s') :
    (SystemState.reservations ι).Moves s s' := by
  cases h with
  | store hcall => exact .quiet (fun _ _ hhold => hhold) rfl
  | start _ _ _ =>
    refine .quiet (fun _ _ hhold => holds_of_setThread ?_ hhold) rfl
    rintro _ ⟨⟩
    exact id
  | @reserve t pipeline operationId store' _ hcall =>
    obtain ⟨hbefore, hafter⟩ := pastSubmit_of_reserve hcall
    refine .acquire t operationId hbefore hafter ?_ rfl
    intro t' id hhold
    by_cases htt : t' = t
    · subst htt
      obtain ⟨th, hth, rfl, _⟩ := hhold
      simp only [SystemState.setThread, update_self, Option.some.injEq] at hth
      exact .inr ⟨rfl, by rw [← hth]⟩
    · exact .inl ((holds_setThread_of_ne htt).mp hhold)
  | @load t pipeline operationId op hthread _ =>
    refine .quiet ?_ rfl
    intro t' id hhold
    by_cases htt : t' = t
    · subst htt
      obtain ⟨th, hth, rfl, _⟩ := hhold
      simp only [SystemState.setThread, update_self, Option.some.injEq] at hth
      rw [← hth]
      exact ⟨_, hthread, rfl, trivial⟩
    · exact (holds_setThread_of_ne htt).mp hhold
  | @create t pipeline operationId op outcome hthread =>
    obtain ⟨hid, _⟩ := hinv.loaded t _ _ _ hthread
    refine .spend t operationId ⟨_, hthread, rfl, trivial⟩ ?_ ?_
    · intro t' id hhold
      constructor
      · refine holds_of_setThread ?_ hhold
        rintro th ⟨⟩ hholding
        exact hholding
      · rintro rfl
        obtain ⟨th, hth, _, hholding⟩ := hhold
        simp only [SystemState.setThread, update_self, Option.some.injEq] at hth
        rw [← hth] at hholding
        exact hholding
    · simp [SystemState.reservations, hid]
  | record _ _ =>
    refine .quiet (fun _ _ hhold => holds_of_setThread ?_ hhold) rfl
    rintro _ ⟨⟩
  | stop =>
    refine .quiet (fun _ _ hhold => holds_of_setThread ?_ hhold) rfl
    rintro _ ⟨⟩

/-- The record a thread holds after a step was held before, or has just been read. -/
theorem SystemStep.loaded (hinv : AtMostOnce sha256 s) (h : SystemStep sha256 s label s')
    {t : ι} {pipeline : WritePipeline} {operationId : String} {op : OperationRecord}
    (hthread : s'.threads t = some ⟨pipeline, operationId, .loaded op⟩) :
    op.operationId = operationId ∧ DerivedKey sha256 op := by
  cases h with
  | store _ => exact hinv.loaded t _ _ _ hthread
  | start _ _ _ => exact hinv.loaded t _ _ _ (threads_of_setThread (by simp) hthread)
  | reserve _ _ => exact hinv.loaded t _ _ _ (threads_of_setThread (by simp) hthread)
  | @load t₀ pipeline₀ operationId₀ op₀ hthread₀ hget =>
    by_cases htt : t = t₀
    · subst htt
      simp only [SystemState.setThread, update_self, Option.some.injEq] at hthread
      cases hthread
      obtain ⟨log, hrun⟩ := hinv.store
      exact derivedKey_of_run hrun hget
    · refine hinv.loaded t pipeline operationId op ?_
      simpa only [SystemState.setThread, update_of_ne htt] using hthread
  | create _ => exact hinv.loaded t _ _ _ (threads_of_setThread (by simp) hthread)
  | record _ _ => exact hinv.loaded t _ _ _ (threads_of_setThread (by simp) hthread)
  | stop => exact hinv.loaded t _ _ _ (threads_of_setThread (by simp) hthread)

/-- Every step keeps the invariant. -/
theorem AtMostOnce.step (h : AtMostOnce sha256 s) (hstep : SystemStep sha256 s label s') :
    AtMostOnce sha256 s' where
  store := by
    obtain ⟨log, hrun⟩ := h.store
    rcases hstep.store_eq_or_step with heq | ⟨call, hcall⟩
    · exact ⟨log, heq ▸ hrun⟩
    · exact ⟨log ++ [call], hrun.snoc hcall⟩
  loaded _ _ _ _ hthread := hstep.loaded h hthread
  created op hop := by
    cases hstep with
    | create hthread =>
      rcases List.mem_append.mp hop with hold | hnew
      · exact h.created op hold
      · rw [List.mem_singleton.mp hnew]
        exact (h.loaded _ _ _ _ hthread).2
    | store | start | reserve | load | record | stop => exact h.created op hop
  once := h.once.move (fun _ => hstep.pastSubmit) (hstep.moves h)

end Steps

/-- The invariant holds in every reachable state. -/
theorem atMostOnce_of_run {labels : List (SystemLabel ι)} {s : SystemState ι}
    (run : Run (SystemStep sha256) (.initial ι) labels s) : AtMostOnce sha256 s := by
  refine run.invariant (AtMostOnce sha256) ?_ fun _ _ _ h hstep => h.step hstep
  refine ⟨⟨[], .nil⟩, fun _ _ _ _ hth => (nomatch hth), fun _ hop => (nomatch hop), ?_⟩
  refine .initial ?_ rfl
  rintro t id ⟨th, hth, _⟩
  cases hth

/-- However pipelines that share a store interleave, create is called at most once for each
operation, and at most once for each event and decision. -/
theorem create_at_most_once {labels : List (SystemLabel ι)} {s : SystemState ι}
    (run : Run (SystemStep sha256) (.initial ι) labels s) :
    (s.creates.map fun op => op.operationId).Nodup ∧
      (s.creates.map fun op => (op.eventId, op.decision)).Nodup := by
  have hinv := atMostOnce_of_run run
  have honce : (s.creates.map OperationRecord.operationId).Nodup := hinv.once.nodup
  refine ⟨honce, ?_⟩
  refine List.Nodup.map_on ?_ (List.Nodup.of_map _ honce)
  intro op hop op' hop' heq
  obtain ⟨hevent, hdecision⟩ := Prod.mk.inj heq
  have hkeys := (hinv.created op hop).operationId_eq (hinv.created op' hop') hevent hdecision
  exact List.inj_on_of_nodup_map honce hop hop' hkeys

/-! ### The sequential submission -/

/-- The record `submit` calls create with. -/
def WritePipeline.createdBy (pipeline : WritePipeline) (s : WriteStore) (operationId : String) :
    List OperationRecord :=
  if pipeline.trueApiWrite ∧ pipeline.writer.isSome then
    match s.reserveSubmit operationId with
    | .ok (op, _) => [op]
    | .error _ => []
  else []

/-- The record a reservation returns is the one the store then holds. -/
theorem get_of_reserveSubmit {s s' : WriteStore} {operationId : String} {op : OperationRecord}
    (h : s.reserveSubmit operationId = .ok (op, s')) : s'.get operationId = .ok op := by
  unfold WriteStore.reserveSubmit at h
  split at h
  · cases h
  · split at h
    · split at h <;> cases h
    · split at h
      · cases h
      · obtain ⟨row, hrow, _, rfl, rfl⟩ := transition_eq_ok h
        refine get_eq_ok.mpr ⟨{ row with state := .submitting }, ?_, rfl⟩
        simp only [addAudit_operations, setState, Table.find?_modify_self, hrow, Option.map_some]

theorem step_outcomeCall {s : WriteStore} {operationId : String}
    {outcome : Except PyError CreateResult} :
    s.step sha256 (outcomeCall operationId outcome) =
      (WritePipeline.recordOutcome s operationId outcome).map Prod.snd := by
  cases outcome <;> rfl

/-- The steps of a submission whose reservation is accepted, taken without a pause. -/
private theorem run_alone {s : SystemState ι} {t : ι} {pipeline : WritePipeline}
    {operationId : String} {op : OperationRecord} {reserved : WriteStore}
    {o : Except PyError CreateResult} (hfree : s.threads t = none)
    (hwrite : pipeline.trueApiWrite = true) (hwriter : pipeline.writer.isSome)
    (hreserve : s.store.reserveSubmit operationId = .ok (op, reserved)) :
    ∃ labels, Run (SystemStep sha256) s labels
      { s with
        store := (WritePipeline.commit reserved
          (WritePipeline.recordOutcome reserved operationId o)).2
        creates := s.creates ++ [op] } := by
  have hstep : s.store.step sha256 (.reserveSubmit operationId) = .ok reserved := by
    simp [WriteStore.step, hreserve, Except.map]
  have starts : SystemStep sha256 s (.start t pipeline operationId)
      (s.setThread t (some ⟨pipeline, operationId, .checked⟩)) :=
    .start hfree hwrite hwriter
  have reserves : SystemStep sha256 (s.setThread t (some ⟨pipeline, operationId, .checked⟩))
      (.reserve t) ({ s with store := reserved }.setThread t
        (some ⟨pipeline, operationId, .reserved⟩)) := by
    have h := SystemStep.reserve
      (s := s.setThread t (some ⟨pipeline, operationId, .checked⟩)) (t := t) setThread_self hstep
    simpa only [setThread_setThread, setThread_creates] using h
  have loads : SystemStep sha256
      ({ s with store := reserved }.setThread t (some ⟨pipeline, operationId, .reserved⟩))
      (.load t) ({ s with store := reserved }.setThread t
        (some ⟨pipeline, operationId, .loaded op⟩)) := by
    have hget := get_of_reserveSubmit hreserve
    have h := @SystemStep.load _ _ sha256
      ({ s with store := reserved }.setThread t (some ⟨pipeline, operationId, .reserved⟩)) t
      _ _ _ setThread_self hget
    rwa [setThread_setThread_same] at h
  have creates : SystemStep sha256
      ({ s with store := reserved }.setThread t (some ⟨pipeline, operationId, .loaded op⟩))
      (.create t o) ({ s with store := reserved, creates := s.creates ++ [op] }.setThread t
        (some ⟨pipeline, operationId, .answered o⟩)) := by
    have h := @SystemStep.create _ _ sha256
      ({ s with store := reserved }.setThread t (some ⟨pipeline, operationId, .loaded op⟩)) t
      _ _ _ o setThread_self
    simpa only [setThread_setThread, setThread_store, setThread_creates] using h
  have run := (((Run.single starts).snoc reserves).snoc loads).snoc creates
  -- the outcome is recorded, or its recording is rejected and the submission ends
  cases hrecord : WritePipeline.recordOutcome reserved operationId o with
  | ok result =>
    have hcall : reserved.step sha256 (outcomeCall operationId o) = .ok result.2 := by
      rw [step_outcomeCall, hrecord]
      rfl
    have h := @SystemStep.record _ _ sha256
      ({ s with store := reserved, creates := s.creates ++ [op] }.setThread t
        (some ⟨pipeline, operationId, .answered o⟩)) t _ _ _ _ setThread_self hcall
    rw [setThread_setThread, setThread_of_threads hfree] at h
    exact ⟨_, run.snoc h⟩
  | error e =>
    have h := @SystemStep.stop _ _ sha256
      ({ s with store := reserved, creates := s.creates ++ [op] }.setThread t
        (some ⟨pipeline, operationId, .answered o⟩)) t
    rw [setThread_setThread_same, setThread_of_threads hfree] at h
    exact ⟨_, run.snoc h⟩

/-- A submission that runs alone is a run of the system. -/
theorem submit_runs {s : SystemState ι} {t : ι} (pipeline : WritePipeline) (operationId : String)
    (hfree : s.threads t = none) :
    ∃ labels, Run (SystemStep sha256) s labels
      { s with
        store := (pipeline.submit sha256 s.store operationId).2
        creates := s.creates ++ pipeline.createdBy s.store operationId } := by
  have idle : ∃ labels, Run (SystemStep sha256) s labels
      { s with store := s.store, creates := s.creates ++ [] } := by
    rw [List.append_nil]
    exact ⟨[], .nil⟩
  unfold WritePipeline.submit WritePipeline.createdBy
  by_cases hwrite : pipeline.trueApiWrite
  · cases hwriter : pipeline.writer with
    | none => simpa [hwrite] using idle
    | some writer =>
      cases hreserve : s.store.reserveSubmit operationId with
      | error e => simpa [hwrite] using idle
      | ok result =>
        obtain ⟨op, reserved⟩ := result
        generalize houtcome : writer.create sha256 op.documentType op.productDocumentBase64
          (op.signatureBase64.getD "") = outcome
        simpa [hwrite, hwriter, hreserve, houtcome] using
          run_alone hfree hwrite (by simp [hwriter]) hreserve
  · simpa [hwrite] using idle

/-- A run of the store is a run of the system in which no submission moves. -/
theorem run_of_storeRun {s : SystemState ι} {log : List StoreCall} {store' : WriteStore}
    (run : Run (Accepts (step sha256)) s.store log store') :
    Run (SystemStep sha256) s (log.map .store) { s with store := store' } := by
  induction run with
  | nil => exact .nil
  | snoc _ hstep ih =>
    rw [List.map_append]
    have h := @SystemStep.store _ _ sha256 { s with store := _ } _ _ hstep
    exact ih.snoc h

end System

/-! ### A run with a create call -/

/-- A pipeline whose transport answers with a document id. -/
def samplePipeline : WritePipeline where
  ownInn := "7700000000"
  writer := some ⟨"https://true-api", "Bearer token", fun _ _ _ => .ok ⟨200, [], none⟩,
    fun _ => .ok (some "doc-1")⟩
  trueApiWrite := true

theorem create_at_most_once_sample : ∃ (labels : List (SystemLabel Nat)) (s : SystemState Nat),
    Run (SystemStep Sha256.hexdigest) (.initial Nat) labels s ∧
      s.creates.map (fun op => op.operationId) = [sampleOperationId] ∧
      (s.creates.map fun op => op.operationId).Nodup ∧
      (s.creates.map fun op => (op.eventId, op.decision)).Nodup := by
  have prepared := @run_accepted _ _ _ (step Sha256.hexdigest) .empty (sampleCalls.take 2)
  have signed := run_of_storeRun (s := .initial Nat) prepared
  obtain ⟨labels, submitted⟩ := submit_runs (t := 0)
    (s := { SystemState.initial Nat with
      store := exec (step Sha256.hexdigest) .empty (sampleCalls.take 2) })
    samplePipeline sampleOperationId rfl
  have run := signed.append submitted
  refine ⟨_, _, run, ?_, create_at_most_once run⟩
  decide +kernel

end Wbcz
