import Mathlib.Data.List.MinMax
import Wbcz.Printing.Graph

/-!
# Items, jobs and their executions

An item follows the one execution that is engaged on it, and a job whose label may have been
printed stays blocked, except where a binding is disabled while one of its labels is at the
printer, and where a job fails that has such a label.
-/

namespace Wbcz.Printing

open Transition (Run)

/-- The states of an execution whose label is at the printer. -/
def printingStates : List ExecutionState := [.renderedVerified, .spoolSubmitting, .spoolJobCreated]

/-- The states of an execution across the spool boundary. -/
def spooledStates : List ExecutionState :=
  [.spoolSubmitting, .spoolJobCreated, .spoolerAccepted, .unknownAfterSpool]

/-- What holds of an execution. -/
structure ExecutionInv (e : PrintExecution) : Prop where
  unrendered : e.state ∈ unrenderedStates → e.renderedAt = none
  spooled : e.state ∈ spooledStates → e.Spooled

/-- No later execution of the item was made. -/
def Latest (s : PrintingState) (e : PrintExecution) : Prop :=
  ∀ e' ∈ s.executions, e'.printJobItemId = e.printJobItemId → e'.attemptNumber ≤ e.attemptNumber

/-- What holds of the attempts of an item. -/
structure AttemptInv (s : PrintingState) : Prop where
  distinct : ∀ e ∈ s.executions, ∀ e' ∈ s.executions, e.printJobItemId = e'.printJobItemId →
    e.attemptNumber = e'.attemptNumber → e = e'
  latest : ∀ e ∈ s.executions, Engaged e → Latest s e

/-- What the state of an execution says of its item. -/
structure ItemMatches (e : PrintExecution) (item : PrintJobItem) : Prop where
  pending : e.state ∈ unrenderedStates → item.state = .pending
  rendered : e.state ∈ printingStates → item.state = .rendered
  completed : e.state = .spoolerAccepted → item.state = .completed
  unknown : e.state = .unknownAfterSpool →
    item.state = .blocked ∧ item.errorCode = some "UNKNOWN_AFTER_SPOOL"
  blocked : e.state = .blocked → e.renderedAt ≠ none → item.state = .blocked

/-- What the executions say of items and jobs. -/
structure Coupled (s : PrintingState) : Prop where
  items : ∀ e ∈ s.executions, ∀ item ∈ s.items, item.id = e.printJobItemId → ItemMatches e item
  jobs : ∀ e ∈ s.executions, e.state = .unknownAfterSpool → ∀ job ∈ s.jobs,
    job.id = e.printJobId → job.state = .blocked
  completed : ∀ item ∈ s.items, item.state = .completed →
    ∃ e ∈ s.executions, e.printJobItemId = item.id ∧ e.state = .spoolerAccepted

/-- What holds of the tables in every run. -/
structure PrintInv (platform : Platform) (s : PrintingState) : Prop where
  delivery : DeliveryInv s
  belong : AllBelong platform s
  executions : ∀ e ∈ s.executions, ExecutionInv e
  attempts : AttemptInv s

/-- A move that does not tear executions, items and jobs apart. -/
def Untorn (s : PrintingState) : MoveKind → Prop
  | .takeDown bindingId =>
    ∀ e ∈ s.executions, e.agentBindingId = bindingId → e.state ∉ printingStates
  | .report reported result => result.state = .failedPreSpool →
    ∀ e ∈ s.executions, e.printJobId = reported.printJobId → e.state ≠ .unknownAfterSpool
  | _ => True

section Executions

variable {platform : Platform} {kind : MoveKind} {s s' : PrintingState}
  {e e' : PrintExecution} {r r' : DeliveryReservation}

/-- An execution that can be issued is not rendered. -/
theorem unrendered_of_issuable (h : e.state ∈ ExecutionState.preSpoolIssuable) :
    e.state ∈ unrenderedStates := by
  have hsubset : ExecutionState.preSpoolIssuable ⊆ unrenderedStates := by decide
  exact hsubset h

/-- An execution that is under way is not rendered, or it is at the printer. -/
theorem unrendered_or_printing (h : e.state ∈ ExecutionState.nonterminal) :
    e.state ∈ unrenderedStates ∨ e.state ∈ printingStates := by
  have hcover : ∀ state ∈ ExecutionState.nonterminal,
      state ∈ unrenderedStates ∨ state ∈ printingStates := by decide
  exact hcover _ h

/-- A report on a spool job is for an execution across the spool boundary. -/
theorem checkResult_spooled {result : PhysicalResult} (h : checkResult e result = .ok ())
    (hresult : result.state ≠ .failedPreSpool) (hresult' : result.state ≠ .blocked) :
    e.state = .spoolSubmitting ∨ e.state = .spoolJobCreated := by
  unfold checkResult at h
  cases hstate : result.state with
  | spoolJobCreated =>
    rw [hstate] at h
    obtain ⟨_, hcreated, -⟩ := Fallible.bind_eq_ok.mp h
    exact Fallible.ensure_eq_ok.mp hcreated
  | spoolerAccepted =>
    rw [hstate] at h
    obtain ⟨_, haccepted, -⟩ := Fallible.bind_eq_ok.mp h
    exact .inr (Fallible.ensure_eq_ok.mp haccepted)
  | unknownAfterSpool =>
    rw [hstate] at h
    obtain ⟨_, hunknown, -⟩ := Fallible.bind_eq_ok.mp h
    exact Fallible.ensure_eq_ok.mp hunknown
  | failedPreSpool => exact absurd hstate hresult
  | blocked => exact absurd hstate hresult'

theorem spooled_of_submitting (h : ExecutionInv e)
    (hstate : e.state = .spoolSubmitting ∨ e.state = .spoolJobCreated) : e.Spooled := by
  apply h.spooled
  rcases hstate with hstate | hstate <;> rw [hstate] <;> decide

theorem PairStep.executionInv (hpair : PairInv e r) (h : ExecutionInv e)
    (step : PairStep kind e r e' r') : ExecutionInv e' := by
  -- what the states before an issue or a delivery say of the execution
  have hlive (hr : r.Live) : e.renderedAt = none :=
    h.unrendered (unrendered_of_issuable (hpair.live hr))
  cases step with
  | same => exact h
  | closed => exact h
  | observed => exact ⟨h.unrendered, h.spooled⟩
  | withdrawn => exact ⟨fun hs => absurd hs (of_decide_eq_false rfl),
      fun hs => absurd hs (of_decide_eq_false rfl)⟩
  | issued _ hr => exact ⟨fun _ => hlive hr, fun hs => absurd hs (of_decide_eq_false rfl)⟩
  | refused => exact ⟨fun hs => absurd hs (of_decide_eq_false rfl),
      fun hs => absurd hs (of_decide_eq_false rfl)⟩
  | delivered _ hr => exact ⟨fun _ => hlive (.inr hr),
      fun hs => absurd hs (of_decide_eq_false rfl)⟩
  | rendered => exact ⟨fun hs => absurd hs (of_decide_eq_false rfl),
      fun hs => absurd hs (of_decide_eq_false rfl)⟩
  | submitted => exact ⟨fun hs => absurd hs (of_decide_eq_false rfl),
      fun _ => Option.some_ne_none _⟩
  | @reported result now _ hcheck =>
    rcases result with ⟨state, windowsSpoolJobId, status, code⟩
    cases state with
    | failedPreSpool => exact ⟨fun hs => absurd hs (of_decide_eq_false rfl),
        fun hs => absurd hs (of_decide_eq_false rfl)⟩
    | blocked => exact ⟨fun hs => absurd hs (of_decide_eq_false rfl),
        fun hs => absurd hs (of_decide_eq_false rfl)⟩
    | _ =>
      have hspooled := spooled_of_submitting h
        (checkResult_spooled hcheck ResultState.noConfusion ResultState.noConfusion)
      exact ⟨fun hs => absurd hs (of_decide_eq_false rfl), fun _ => hspooled⟩
  | swept =>
    unfold sweptExecution
    split
    · rename_i hstate
      have hspooled := spooled_of_submitting h hstate
      exact ⟨fun hs => absurd hs (of_decide_eq_false rfl), fun _ => hspooled⟩
    · exact ⟨fun hs => absurd hs (of_decide_eq_false rfl),
        fun hs => absurd hs (of_decide_eq_false rfl)⟩

/-- An execution that ended before the spool boundary says nothing of its item, unless its label
was rendered. -/
theorem ItemMatches.of_stopped {item : PrintJobItem}
    (hterminal : e.state ∉ ExecutionState.nonterminal) (hspooled : e.state ∉ spooledStates)
    (hrendered : e.state = .blocked → e.renderedAt = none) : ItemMatches e item := by
  have hunrendered : unrenderedStates ⊆ ExecutionState.nonterminal := by decide
  have hprinting : printingStates ⊆ ExecutionState.nonterminal := by decide
  refine ⟨fun h => absurd (hunrendered h) hterminal, fun h => absurd (hprinting h) hterminal,
    fun h => ?_, fun h => ?_, fun h hr => absurd (hrendered h) hr⟩
  · rw [h] at hspooled
    exact absurd (of_decide_eq_true rfl) hspooled
  · rw [h] at hspooled
    exact absurd (of_decide_eq_true rfl) hspooled

/-- An execution whose label is not rendered yet asks for a pending item. -/
theorem ItemMatches.of_unrendered {item : PrintJobItem} (hstate : e.state ∈ unrenderedStates)
    (hitem : item.state = .pending) : ItemMatches e item := by
  have hother : ∀ state ∈ unrenderedStates, state ∉ printingStates ∧ state ≠ .spoolerAccepted ∧
      state ≠ .unknownAfterSpool ∧ state ≠ .blocked := by decide
  obtain ⟨hprinting, haccepted, hunknown, hblocked⟩ := hother _ hstate
  exact ⟨fun _ => hitem, fun h => absurd h hprinting, fun h => absurd h haccepted,
    fun h => absurd h hunknown, fun h => absurd h hblocked⟩

/-- An execution whose label is at the printer asks for a rendered item. -/
theorem ItemMatches.of_printing {item : PrintJobItem} (hstate : e.state ∈ printingStates)
    (hitem : item.state = .rendered) : ItemMatches e item := by
  have hother : ∀ state ∈ printingStates, state ∉ unrenderedStates ∧ state ≠ .spoolerAccepted ∧
      state ≠ .unknownAfterSpool ∧ state ≠ .blocked := by decide
  obtain ⟨hunrendered, haccepted, hunknown, hblocked⟩ := hother _ hstate
  exact ⟨fun h => absurd h hunrendered, fun _ => hitem, fun h => absurd h haccepted,
    fun h => absurd h hunknown, fun h => absurd h hblocked⟩

/-- Where neither a label is rendered nor a result reported, the item stays in step. -/
theorem PairStep.itemMatches {item : PrintJobItem} (hpair : PairInv e r) (h : ExecutionInv e)
    (step : PairStep kind e r e' r') (hrender : kind ≠ .render e)
    (hreport : ∀ result, kind ≠ .report e result)
    (htakeDown : kind = .takeDown e.agentBindingId → e.state ∉ printingStates)
    (hmatches : ItemMatches e item) : ItemMatches e' item := by
  cases step with
  | same => exact hmatches
  | closed => exact hmatches
  | observed => exact ⟨hmatches.pending, hmatches.rendered, hmatches.completed, hmatches.unknown,
      hmatches.blocked⟩
  | withdrawn hlive =>
    exact .of_stopped (of_decide_eq_false rfl) (of_decide_eq_false rfl)
      fun _ => h.unrendered (unrendered_of_issuable (hpair.live hlive))
  | issued _ hlive =>
    exact .of_unrendered (unrendered_of_issuable (List.mem_cons_of_mem _ List.mem_cons_self))
      (hmatches.pending (unrendered_of_issuable (hpair.live hlive)))
  | refused =>
    exact .of_stopped (of_decide_eq_false rfl) (of_decide_eq_false rfl) fun h => by cases h
  | delivered _ hr =>
    exact .of_unrendered (of_decide_eq_true rfl)
      (hmatches.pending (unrendered_of_issuable (hpair.live (.inr hr))))
  | rendered hkind => exact absurd hkind hrender
  | submitted _ hstate =>
    exact .of_printing (of_decide_eq_true rfl)
      (hmatches.rendered (by rw [hstate]; exact List.mem_cons_self))
  | reported hkind => exact absurd hkind (hreport _)
  | swept hkind hstate =>
    -- the label is not at the printer, so the sweep stops an execution that is not rendered
    have hprinting := htakeDown hkind
    have hunrendered := (unrendered_or_printing hstate).resolve_right hprinting
    have hnot : ¬ (e.state = .spoolSubmitting ∨ e.state = .spoolJobCreated) := by
      rintro (hs | hs) <;> rw [hs] at hprinting <;> exact hprinting (by decide)
    rw [sweptExecution, if_neg hnot]
    exact .of_stopped (of_decide_eq_false rfl) (of_decide_eq_false rfl)
      fun _ => h.unrendered hunrendered

/-- An execution whose outcome is unknown was so before, unless it was reported or swept. -/
theorem PairStep.unknown (step : PairStep kind e r e' r') (hreport : ∀ result, kind ≠ .report e result)
    (htakeDown : kind = .takeDown e.agentBindingId → e.state ∉ printingStates)
    (hunknown : e'.state = .unknownAfterSpool) : e.state = .unknownAfterSpool := by
  cases step with
  | same => exact hunknown
  | closed => exact hunknown
  | observed => exact hunknown
  | reported hkind => exact absurd hkind (hreport _)
  | swept hkind =>
    have hprinting := htakeDown hkind
    have hnot : ¬ (e.state = .spoolSubmitting ∨ e.state = .spoolJobCreated) := by
      rintro (hs | hs) <;> rw [hs] at hprinting <;> exact hprinting (by decide)
    rw [sweptExecution, if_neg hnot] at hunknown
    cases hunknown
  | _ => cases hunknown

/-- An execution that the spooler accepted stays accepted. -/
theorem PairStep.accepted (hpair : PairInv e r) (step : PairStep kind e r e' r')
    (haccepted : e.state = .spoolerAccepted) : e'.state = .spoolerAccepted := by
  have hnonterminal : e.state ∉ ExecutionState.nonterminal := by rw [haccepted]; decide
  have hlive (hr : r.Live) : False :=
    hnonterminal (nonterminal_of_issuable (hpair.live hr))
  cases step with
  | same => exact haccepted
  | closed => exact haccepted
  | observed => exact haccepted
  | withdrawn hr => exact (hlive hr).elim
  | issued _ hr => exact (hlive hr).elim
  | refused _ hr => exact (hlive (.inr hr)).elim
  | delivered _ hr => exact (hlive (.inr hr)).elim
  | rendered _ hstate => rw [hstate] at haccepted; cases haccepted
  | submitted _ hstate => rw [hstate] at haccepted; cases haccepted
  | reported _ hcheck => exact absurd (checkResult_nonterminal hcheck) hnonterminal
  | swept _ hstate => exact absurd hstate hnonterminal

end Executions

/-! ## What holds in every run -/

section PrintInv

variable {platform : Platform} {kind : MoveKind} {s s' : PrintingState} {e : PrintExecution}

theorem lt_nextAttempt (he : e ∈ s.executions) :
    e.attemptNumber < nextAttempt s e.printJobItemId := by
  apply Nat.lt_succ_of_le
  apply List.le_max_of_le' 0 _ (le_refl e.attemptNumber)
  exact List.mem_map_of_mem (List.mem_filter.mpr ⟨he, by simp⟩)

theorem Move.attempts (h : DeliveryInv s) (ha : AttemptInv s) (move : Move platform s kind s') :
    AttemptInv s' := by
  rcases move.pairs h with ⟨f, g, hrewritten⟩ | ⟨hauthorized, hexecutions, -⟩
  · constructor
    · intro e₁' he₁' e₂' he₂' hitem hattempt
      obtain ⟨e₁, he₁, rfl⟩ := (hrewritten.executions e₁').mp he₁'
      obtain ⟨e₂, he₂, rfl⟩ := (hrewritten.executions e₂').mp he₂'
      obtain ⟨_, -, -, step₁⟩ := hrewritten.execution h he₁
      obtain ⟨_, -, -, step₂⟩ := hrewritten.execution h he₂
      rw [step₁.sameExecution.item, step₂.sameExecution.item] at hitem
      rw [step₁.sameExecution.attempt, step₂.sameExecution.attempt] at hattempt
      rw [ha.distinct e₁ he₁ e₂ he₂ hitem hattempt]
    · intro e₁' he₁' hengaged e₂' he₂' hitem
      obtain ⟨e₁, he₁, rfl⟩ := (hrewritten.executions e₁').mp he₁'
      obtain ⟨e₂, he₂, rfl⟩ := (hrewritten.executions e₂').mp he₂'
      obtain ⟨r₁, hr₁, hid₁, step₁⟩ := hrewritten.execution h he₁
      obtain ⟨_, -, -, step₂⟩ := hrewritten.execution h he₂
      rw [step₁.sameExecution.item, step₂.sameExecution.item] at hitem
      rw [step₁.sameExecution.attempt, step₂.sameExecution.attempt]
      exact ha.latest e₁ he₁ (step₁.engaged (h.pair e₁ he₁ r₁ hr₁ hid₁) hengaged) e₂ he₂ hitem
  · obtain ⟨-, -, -, -, -, hnone⟩ := authorizationGraph_spec hauthorized.graph
    have hengaged := not_engaged_of_check hnone
    rename_i session target graph _ _
    have hnew : ∀ e ∈ s.executions, e.printJobItemId = target.item.id →
        e.attemptNumber < (newExecution session s target graph).attemptNumber := by
      intro e he hitem
      rw [newExecution, ← hitem]
      exact lt_nextAttempt he
    constructor
    · intro e₁ he₁ e₂ he₂ hitem hattempt
      rcases (Table.mem_insert hexecutions).mp he₁ with he₁ | rfl
      · rcases (Table.mem_insert hexecutions).mp he₂ with he₂ | rfl
        · exact ha.distinct e₁ he₁ e₂ he₂ hitem hattempt
        · exact absurd hattempt (ne_of_lt (hnew e₁ he₁ hitem))
      · rcases (Table.mem_insert hexecutions).mp he₂ with he₂ | rfl
        · exact absurd hattempt.symm (ne_of_lt (hnew e₂ he₂ hitem.symm))
        · rfl
    · intro e₁ he₁ hengaged₁ e₂ he₂ hitem
      rcases (Table.mem_insert hexecutions).mp he₁ with he₁ | rfl
      · rcases (Table.mem_insert hexecutions).mp he₂ with he₂ | rfl
        · exact ha.latest e₁ he₁ hengaged₁ e₂ he₂ hitem
        · exact absurd hengaged₁ (hengaged e₁ he₁ hitem.symm)
      · rcases (Table.mem_insert hexecutions).mp he₂ with he₂ | rfl
        · exact le_of_lt (hnew e₂ he₂ hitem)
        · exact le_refl _

theorem Move.executionInv (h : DeliveryInv s) (hs : ∀ e ∈ s.executions, ExecutionInv e)
    (move : Move platform s kind s') : ∀ e ∈ s'.executions, ExecutionInv e := by
  intro e' he'
  rcases move.pairs h with ⟨f, g, hrewritten⟩ | ⟨-, hexecutions, -⟩
  · obtain ⟨e, he, rfl⟩ := (hrewritten.executions e').mp he'
    obtain ⟨r, hr, hid, step⟩ := hrewritten.execution h he
    exact step.executionInv (h.pair e he r hr hid) (hs e he)
  · rcases (Table.mem_insert hexecutions).mp he' with he | rfl
    · exact hs e' he
    · exact ⟨fun _ => rfl, fun hstate => absurd hstate (of_decide_eq_false rfl)⟩

theorem Move.printInv (h : PrintInv platform s) (move : Move platform s kind s') :
    PrintInv platform s' :=
  ⟨h.delivery.move move, move.allBelong h.delivery h.belong,
    move.executionInv h.delivery h.executions, move.attempts h.delivery h.attempts⟩

theorem PrintInv.surroundings (h : PrintInv platform s) (around : Surroundings s s') :
    PrintInv platform s' where
  delivery := h.delivery.surroundings around
  belong := by
    intro e he
    rw [around.executions] at he
    exact (h.belong e he).kept around.rowsKept .refl
  executions := by
    rw [around.executions]
    exact h.executions
  attempts := by
    constructor
    · rw [around.executions]
      exact h.attempts.distinct
    · unfold Latest
      rw [around.executions]
      exact h.attempts.latest

theorem printInv_initial : PrintInv platform .initial where
  delivery := deliveryInv_initial
  belong _ he := absurd he Table.not_mem_empty
  executions _ he := absurd he Table.not_mem_empty
  attempts := ⟨fun _ he => absurd he Table.not_mem_empty, fun _ he => absurd he Table.not_mem_empty⟩

/-- The other executions of an item that one is under way for have ended without a label. -/
theorem PrintInv.stopped (h : PrintInv platform s) (hc : Coupled s) {e' : PrintExecution}
    (he : e ∈ s.executions) (hstate : e.state ∈ ExecutionState.nonterminal)
    (he' : e' ∈ s.executions) (hitem : e'.printJobItemId = e.printJobItemId) (hne : e' ≠ e)
    (item : PrintJobItem) : ItemMatches e' item := by
  have hengaged : ¬ Engaged e' := fun hengaged =>
    hne (h.delivery.exclusive e' he' e he hitem hengaged (.inl hstate))
  have hunspooled : e'.state ∉ spooledStates := fun hspooled =>
    hengaged (.inr ((h.executions e' he').spooled hspooled))
  refine .of_stopped (fun hs => hengaged (.inl hs)) hunspooled fun hblocked => ?_
  -- the item of both is pending or rendered, hence not blocked
  by_contra hrendered
  obtain ⟨row, hrow, hid, -⟩ := (h.belong e he).item
  have hrowBlocked := (hc.items e' he' row hrow (hid.trans hitem.symm)).blocked hblocked hrendered
  have hmatches := hc.items e he row hrow hid
  rcases unrendered_or_printing hstate with hs | hs
  · rw [hmatches.pending hs] at hrowBlocked
    cases hrowBlocked
  · rw [hmatches.rendered hs] at hrowBlocked
    cases hrowBlocked

/-! ## Items and jobs -/

/-- Moves that leave items and jobs alone keep them together with the executions. -/
theorem Move.coupled_of_same (h : PrintInv platform s) (hc : Coupled s)
    (move : Move platform s kind s') (huntorn : Untorn s kind) (hitems : s'.items = s.items)
    (hjobs : s'.jobs = s.jobs) (hrender : ∀ e, kind ≠ .render e)
    (hreport : ∀ e result, kind ≠ .report e result) : Coupled s' := by
  have hdown : ∀ e ∈ s.executions, kind = .takeDown e.agentBindingId →
      e.state ∉ printingStates := by
    rintro e he rfl
    exact huntorn e he rfl
  rcases move.pairs h.delivery with ⟨f, g, hrewritten⟩ | ⟨hauthorized, hexecutions, -⟩
  · constructor
    · intro e' he' item hitem hid
      obtain ⟨e, he, rfl⟩ := (hrewritten.executions e').mp he'
      obtain ⟨r, hr, hrid, step⟩ := hrewritten.execution h.delivery he
      rw [hitems] at hitem
      rw [step.sameExecution.item] at hid
      exact step.itemMatches (h.delivery.pair e he r hr hrid) (h.executions e he) (hrender e)
        (hreport e) (hdown e he) (hc.items e he item hitem hid)
    · intro e' he' hunknown job hjob hid
      obtain ⟨e, he, rfl⟩ := (hrewritten.executions e').mp he'
      obtain ⟨r, -, -, step⟩ := hrewritten.execution h.delivery he
      rw [hjobs] at hjob
      rw [step.sameExecution.job] at hid
      exact hc.jobs e he (step.unknown (hreport e) (hdown e he) hunknown) job hjob hid
    · intro item hitem hcompleted
      rw [hitems] at hitem
      obtain ⟨e, he, hid, haccepted⟩ := hc.completed item hitem hcompleted
      obtain ⟨r, hr, hrid, step⟩ := hrewritten.execution h.delivery he
      refine ⟨f e, (hrewritten.executions _).mpr ⟨e, he, rfl⟩, ?_, ?_⟩
      · rw [step.sameExecution.item, hid]
      · exact step.accepted (h.delivery.pair e he r hr hrid) haccepted
  · obtain ⟨hmem, -⟩ := itemOf_eq_some.mp hauthorized.item
    constructor
    · intro e he item hitem hid
      rcases (Table.mem_insert hexecutions).mp he with he | rfl
      · exact hc.items e he item hitem hid
      · rw [Table.eq_of_key_eq hitem hmem hid]
        exact .of_unrendered (of_decide_eq_true rfl) hauthorized.pending
    · intro e he hunknown job hjob hid
      rcases (Table.mem_insert hexecutions).mp he with he | rfl
      · exact hc.jobs e he hunknown job hjob hid
      · cases hunknown
    · intro item hitem hcompleted
      obtain ⟨e, he, hid, haccepted⟩ := hc.completed item hitem hcompleted
      exact ⟨e, (Table.mem_insert hexecutions).mpr (.inl he), hid, haccepted⟩

/-- What a change of one execution, its item and its job has to bring about. -/
structure Changes (s s' : PrintingState) (e₀ : PrintExecution)
    (f : PrintExecution → PrintExecution) (g : PrintJobItem → PrintJobItem)
    (k : PrintJob → PrintJob) : Prop where
  executions : ∀ e', e' ∈ s'.executions ↔
    ∃ e ∈ s.executions, (if e.id = e₀.id then f e else e) = e'
  items : ∀ item', item' ∈ s'.items ↔
    ∃ item ∈ s.items, (if item.id = e₀.printJobItemId then g item else item) = item'
  jobs : ∀ job', job' ∈ s'.jobs ↔
    ∃ job ∈ s.jobs, (if job.id = e₀.printJobId then k job else job) = job'
  sameExecution : SameExecution e₀ (f e₀)
  sameItem : ∀ item, SameItem item (g item)
  sameJob : ∀ job, SameJob job (k job)
  itemMatches : ∀ item ∈ s.items, item.id = e₀.printJobItemId → ItemMatches (f e₀) (g item)
  unknown : (f e₀).state = .unknownAfterSpool → ∀ job, (k job).state = .blocked
  others : ∀ e ∈ s.executions, e.printJobId = e₀.printJobId → e.state = .unknownAfterSpool →
    ∀ job, job.state = .blocked → (k job).state = .blocked
  completed : ∀ item ∈ s.items, item.id = e₀.printJobItemId → (g item).state = .completed →
    (f e₀).state = .spoolerAccepted

/-- A change of one execution that is under way keeps executions, items and jobs together. -/
theorem Coupled.changed {e₀ : PrintExecution} {f : PrintExecution → PrintExecution}
    {g : PrintJobItem → PrintJobItem} {k : PrintJob → PrintJob} (h : PrintInv platform s)
    (hc : Coupled s) (he₀ : e₀ ∈ s.executions) (hstate : e₀.state ∈ ExecutionState.nonterminal)
    (hchanges : Changes s s' e₀ f g k) : Coupled s' := by
  have hitemId : ∀ item, (if item.id = e₀.printJobItemId then g item else item).id = item.id := by
    intro item
    split
    · exact (hchanges.sameItem item).id
    · rfl
  have hjobId : ∀ job, (if job.id = e₀.printJobId then k job else job).id = job.id := by
    intro job
    split
    · exact (hchanges.sameJob job).id
    · rfl
  constructor
  · intro e' he' item' hitem' hid
    obtain ⟨e, he, rfl⟩ := (hchanges.executions e').mp he'
    obtain ⟨item, hitem, rfl⟩ := (hchanges.items item').mp hitem'
    rw [hitemId] at hid
    by_cases hee : e.id = e₀.id
    · have hsame : e = e₀ := Table.eq_of_key_eq he he₀ hee
      rw [hsame] at hid ⊢
      rw [if_pos rfl, hchanges.sameExecution.item] at hid
      rw [if_pos rfl, if_pos hid]
      exact hchanges.itemMatches item hitem hid
    · rw [if_neg hee] at hid ⊢
      by_cases hitemId₀ : item.id = e₀.printJobItemId
      · have hne : e ≠ e₀ := fun heq => hee (congrArg PrintExecution.id heq)
        exact h.stopped hc he₀ hstate he (hid.symm.trans hitemId₀) hne _
      · rw [if_neg hitemId₀]
        exact hc.items e he item hitem hid
  · intro e' he' hunknown job' hjob' hid
    obtain ⟨e, he, rfl⟩ := (hchanges.executions e').mp he'
    obtain ⟨job, hjob, rfl⟩ := (hchanges.jobs job').mp hjob'
    rw [hjobId] at hid
    by_cases hee : e.id = e₀.id
    · have hsame : e = e₀ := Table.eq_of_key_eq he he₀ hee
      rw [hsame, if_pos rfl] at hid hunknown
      rw [hchanges.sameExecution.job] at hid
      rw [if_pos hid]
      exact hchanges.unknown hunknown job
    · rw [if_neg hee] at hid hunknown
      have hblocked := hc.jobs e he hunknown job hjob hid
      split
      · rename_i hjobId₀
        exact hchanges.others e he (hid.symm.trans hjobId₀) hunknown job hblocked
      · exact hblocked
  · intro item' hitem' hcompleted
    obtain ⟨item, hitem, rfl⟩ := (hchanges.items item').mp hitem'
    rw [hitemId]
    by_cases hitemId₀ : item.id = e₀.printJobItemId
    · rw [if_pos hitemId₀] at hcompleted
      refine ⟨f e₀, (hchanges.executions _).mpr ⟨e₀, he₀, if_pos rfl⟩, ?_, ?_⟩
      · rw [hchanges.sameExecution.item, hitemId₀]
      · exact hchanges.completed item hitem hitemId₀ hcompleted
    · rw [if_neg hitemId₀] at hcompleted
      obtain ⟨e, he, hid, haccepted⟩ := hc.completed item hitem hcompleted
      refine ⟨e, (hchanges.executions _).mpr ⟨e, he, if_neg fun hee => ?_⟩, hid, haccepted⟩
      rw [← Table.eq_of_key_eq he he₀ hee, haccepted] at hstate
      exact absurd hstate (of_decide_eq_false rfl)

theorem Move.coupled_render {session : Session} {executionId bindingId renderer decoder : String}
    {evidence : SpoolEvidence} {rows : PhysicalGraph} (h : PrintInv platform s) (hc : Coupled s)
    (hrenderable : renderable platform session s executionId bindingId evidence renderer decoder =
      .ok (e, rows)) :
    Coupled ((s.moveExecution e.id (renderedExecution renderer session.now)
      (key_renderedExecution _ _)).moveItem rows.item.id .rendered rows.item.errorCode) := by
  obtain ⟨hreported, hstate, hgraph⟩ := renderable_spec hrenderable
  obtain ⟨he, -⟩ := reportedExecution_spec hreported
  obtain ⟨-, hitem, -⟩ := graphRows_spec (graph_rows hgraph)
  obtain ⟨-, hitemId, -⟩ := itemOf_eq_some.mp hitem
  rw [hitemId]
  refine hc.changed h he (by rw [hstate]; decide) (f := renderedExecution renderer session.now)
    (g := movedItem .rendered rows.item.errorCode) (k := id) ?_
  constructor
  · intro e'
    simp only [PrintingState.moveItem, PrintingState.moveExecution, Table.mem_modify_iff_exists]
  · intro item'
    simp only [PrintingState.moveItem, PrintingState.moveExecution, Table.mem_modify_iff_exists]
  · intro job'
    simp [PrintingState.moveItem, PrintingState.moveExecution]
  · exact ⟨rfl, rfl, rfl, rfl, rfl, rfl, rfl, rfl, rfl, rfl, rfl, rfl, rfl⟩
  · exact fun item => ⟨rfl, rfl, rfl, rfl, rfl, rfl⟩
  · exact fun job => .refl
  · exact fun item _ _ => .of_printing (of_decide_eq_true rfl) rfl
  · exact fun hunknown => by cases hunknown
  · exact fun _ _ _ _ job hblocked => hblocked
  · exact fun item _ _ hcompleted => by cases hcompleted

/-- A report leaves the item as the execution says. -/
theorem itemMatches_reported {result : PhysicalResult} {now : ℤ} {item : PrintJobItem}
    (hcheck : checkResult e result = .ok ()) (hmatches : ItemMatches e item) :
    ItemMatches (resultExecution result now e) (reportedItem result item) ∧
      ((reportedItem result item).state = .completed →
        (resultExecution result now e).state = .spoolerAccepted) := by
  rcases result with ⟨state, windowsSpoolJobId, status, code⟩
  cases state with
  | spoolJobCreated =>
    have hitem : item.state = .rendered := by
      apply hmatches.rendered
      rcases checkResult_spooled hcheck ResultState.noConfusion ResultState.noConfusion with
        hs | hs <;> rw [hs] <;> decide
    refine ⟨.of_printing (of_decide_eq_true rfl) hitem, fun hcompleted => ?_⟩
    have hcompleted' : item.state = .completed := hcompleted
    rw [hitem] at hcompleted'
    cases hcompleted'
  | spoolerAccepted =>
    refine ⟨⟨fun h => absurd h (of_decide_eq_false rfl), fun h => absurd h (of_decide_eq_false rfl),
      fun _ => rfl, fun h => ?_, fun h => ?_⟩, fun _ => rfl⟩
    · cases h
    · cases h
  | failedPreSpool =>
    refine ⟨.of_stopped (of_decide_eq_false rfl) (of_decide_eq_false rfl) fun h => ?_,
      fun h => ?_⟩
    · cases h
    · cases h
  | blocked =>
    refine ⟨⟨fun h => absurd h (of_decide_eq_false rfl), fun h => absurd h (of_decide_eq_false rfl),
      fun h => ?_, fun h => ?_, fun _ _ => rfl⟩, fun h => ?_⟩
    · cases h
    · cases h
    · cases h
  | unknownAfterSpool =>
    refine ⟨⟨fun h => absurd h (of_decide_eq_false rfl), fun h => absurd h (of_decide_eq_false rfl),
      fun h => ?_, fun _ => ⟨rfl, rfl⟩, fun h => ?_⟩, fun h => ?_⟩
    · cases h
    · cases h
    · cases h

/-- A report that leaves the outcome unknown blocks the job. -/
theorem reportedJob_unknown {result : PhysicalResult} {now : ℤ}
    (h : (resultExecution result now e).state = .unknownAfterSpool) (job : PrintJob) :
    (reportedJob result.state job).state = .blocked := by
  rcases result with ⟨state, windowsSpoolJobId, status, code⟩
  cases state with
  | unknownAfterSpool => rfl
  | _ => cases h

/-- A report that does not fail a job leaves it blocked. -/
theorem reportedJob_blocked {state : ResultState} {job : PrintJob}
    (hstate : state ≠ .failedPreSpool) (hblocked : job.state = .blocked) :
    (reportedJob state job).state = .blocked := by
  cases state with
  | failedPreSpool => exact absurd rfl hstate
  | blocked => rfl
  | unknownAfterSpool => rfl
  | spoolJobCreated => exact hblocked
  | spoolerAccepted => exact hblocked

theorem Move.coupled_report {session : Session} {executionId bindingId : String}
    {result : PhysicalResult} {rows : PhysicalGraph} (h : PrintInv platform s) (hc : Coupled s)
    (hreportable : reportable platform session s executionId bindingId result = .ok (e, rows))
    (huntorn : Untorn s (.report e result)) :
    Coupled (s.applyResult e.id rows.item.id rows.job.id result session.now) := by
  obtain ⟨hreported, -, hgraph, hcheck⟩ := reportable_spec hreportable
  obtain ⟨he, -⟩ := reportedExecution_spec hreported
  obtain ⟨hjob, hitem, -⟩ := graphRows_spec (graph_rows hgraph)
  obtain ⟨-, hitemId, -⟩ := itemOf_eq_some.mp hitem
  obtain ⟨-, hjobId, -⟩ := jobOf_eq_some.mp hjob
  rw [hitemId, hjobId]
  refine hc.changed h he (checkResult_nonterminal hcheck)
    (f := resultExecution result session.now) (g := reportedItem result)
    (k := reportedJob result.state) ?_
  constructor
  · intro e'
    rw [(applyResult_executions _ _ _ _ _).1]
    simp only [Table.mem_modify_iff_exists]
  · exact fun item' => mem_applyResult_items
  · exact fun job' => mem_applyResult_jobs
  · exact sameExecution_result _ _
  · exact sameItem_reportedItem result
  · exact sameJob_reportedJob result.state
  · exact fun item hitem hid => (itemMatches_reported hcheck (hc.items e he item hitem hid)).1
  · exact reportedJob_unknown
  · intro e' he' hid hunknown job hblocked
    exact reportedJob_blocked (fun hfailed => huntorn hfailed e' he' hid hunknown) hblocked
  · exact fun item hitem hid => (itemMatches_reported hcheck (hc.items e he item hitem hid)).2

/-- A job that is completed has no label whose outcome is unknown. -/
theorem Move.coupled_complete {session : Session} {job : PrintJob} (h : PrintInv platform s)
    (hc : Coupled s) (hjob : jobOf session s job.id = some job)
    (hcompleted : ∀ item ∈ s.items, item.printJobId = job.id →
      session.owns item.organisationId item.participantId = true → item.state = .completed) :
    Coupled (s.moveJob job.id .completed) := by
  refine ⟨hc.items, ?_, hc.completed⟩
  intro e he hunknown job' hjob' hid
  simp only [PrintingState.moveJob, Table.mem_modify_iff_exists] at hjob'
  obtain ⟨row, hrow, rfl⟩ := hjob'
  obtain ⟨hmem, -, horganisation, hparticipant⟩ := jobOf_eq_some.mp hjob
  by_cases hrowId : row.id = job.id
  · -- the item of the execution is one of the job and of its tenant, and it is blocked
    rw [if_pos hrowId] at hid
    obtain ⟨own, hown, hownId, hownOrganisation, hownParticipant⟩ := (h.belong e he).job
    obtain ⟨item, hitem, hitemId, hitemJob, hitemOrganisation, hitemParticipant, -⟩ :=
      (h.belong e he).item
    have hjobId : e.printJobId = job.id := hid.symm.trans hrowId
    have hsame : own = job := Table.eq_of_key_eq hown hmem (hownId.trans hjobId)
    rw [hsame] at hownOrganisation hownParticipant
    have howns : session.owns item.organisationId item.participantId = true := by
      rw [owns_iff, hitemOrganisation, hitemParticipant, ← hownOrganisation, ← hownParticipant]
      exact ⟨horganisation, hparticipant⟩
    have hdone := hcompleted item hitem (hitemJob.trans hjobId) howns
    have hblocked := ((hc.items e he item hitem hitemId).unknown hunknown).1
    rw [hdone] at hblocked
    cases hblocked
  · rw [if_neg hrowId] at hid ⊢
    exact hc.jobs e he hunknown row hrow hid

/-- A new job has items of its own. -/
theorem Move.coupled_insertJob {session : Session} {request : JobRequest}
    {version : TemplateVersion} {stored : List StoredFullKmItem} {job : PrintJob}
    {jobs : Table PrintJob.key} {items : Table PrintJobItem.key} {events : Table PrintEvent.key}
    (h : PrintInv platform s) (hc : Coupled s)
    (hjob : job = newJob platform session request version stored.length)
    (hjobs : s.jobs.insert job = some jobs)
    (hitems : insertItems platform session job s.items 0 stored = .ok items) :
    Coupled { s with jobs := jobs, items := items, events := events } := by
  obtain ⟨-, hnew⟩ := insertItems_spec hitems
  constructor
  · intro e he item hitem hid
    rcases hnew item hitem with hitem | ⟨hfresh, -⟩
    · exact hc.items e he item hitem hid
    · obtain ⟨old, hold, holdId, -⟩ := (h.belong e he).item
      exact absurd (holdId.trans hid.symm) (hfresh old hold)
  · intro e he hunknown job' hjob' hid
    rcases (Table.mem_insert hjobs).mp hjob' with hjob' | rfl
    · exact hc.jobs e he hunknown job' hjob' hid
    · obtain ⟨own, hown, hownId, -⟩ := (h.belong e he).job
      have hfresh := Table.find?_eq_none_iff.mp (Table.insert_eq_some hjobs).1
      exact absurd (hownId.trans hid.symm) (hfresh own hown)
  · intro item hitem hcompleted
    rcases hnew item hitem with hitem | ⟨-, n, code, -, rfl⟩
    · exact hc.completed item hitem hcompleted
    · rw [newItem] at hcompleted
      dsimp only at hcompleted
      split at hcompleted <;> cases hcompleted

/-- The kinds of moves that touch items or jobs. -/
def TouchesItems : MoveKind → Prop
  | .render _ | .report _ _ | .complete _ | .insertJob _ => True
  | _ => False

theorem Move.items_of_untouched (move : Move platform s kind s') (h : ¬ TouchesItems kind) :
    s'.items = s.items ∧ s'.jobs = s.jobs := by
  cases move with
  | render => exact absurd trivial h
  | report => exact absurd trivial h
  | complete => exact absurd trivial h
  | insertJob => exact absurd trivial h
  | _ => exact ⟨rfl, rfl⟩

/-- Every move that does not tear executions, items and jobs apart keeps them together. -/
theorem Move.coupled (h : PrintInv platform s) (hc : Coupled s) (move : Move platform s kind s')
    (huntorn : Untorn s kind) : Coupled s' := by
  by_cases htouches : TouchesItems kind
  · cases move with
    | render hrenderable => exact Move.coupled_render h hc hrenderable
    | report hreportable => exact Move.coupled_report h hc hreportable huntorn
    | complete hjob hcompleted => exact Move.coupled_complete h hc hjob hcompleted
    | insertJob _ hjob hjobs hitems => exact Move.coupled_insertJob h hc hjob hjobs hitems
    | _ => exact htouches.elim
  · obtain ⟨hitems, hjobs⟩ := move.items_of_untouched htouches
    refine move.coupled_of_same h hc huntorn hitems hjobs ?_ ?_
    · rintro e rfl
      exact htouches trivial
    · rintro e result rfl
      exact htouches trivial

end PrintInv

/-! ## Agreement -/

/-- An item and a job agree with an execution. -/
structure Agrees (e : PrintExecution) (item : PrintJobItem) (job : PrintJob) : Prop where
  unknown : e.state = .unknownAfterSpool → item.state = .blocked ∧
    item.errorCode = some "UNKNOWN_AFTER_SPOOL" ∧ job.state = .blocked
  blocked : e.state = .blocked → e.renderedAt ≠ none → item.state ≠ .rendered
  completed : item.state = .completed → e.state = .spoolerAccepted

/-- Items and jobs agree with the latest executions. -/
structure ItemsAgree (s : PrintingState) : Prop where
  latest : ∀ e ∈ s.executions, Latest s e → ∃ item ∈ s.items, item.id = e.printJobItemId ∧
    ∃ job ∈ s.jobs, job.id = e.printJobId ∧ Agrees e item job
  completed : ∀ item ∈ s.items, item.state = .completed →
    ∃ e ∈ s.executions, e.printJobItemId = item.id ∧ Latest s e

/-- The calls that tear executions, items and jobs apart: a binding is disabled while one of its
labels is at the printer, or a job fails that has a label whose outcome is unknown. -/
def Tears (platform : Platform) (s : PrintingState) : PrintingLabel → Prop
  | .call session (.disable bindingId) _ => (∃ row, scopeRow session s bindingId = .ok row) ∧
      ∃ e ∈ s.executions, e.agentBindingId = bindingId ∧ e.state ∈ printingStates
  | .call session (.reportResult executionId machineBindingId result) _ =>
    result.state = .failedPreSpool ∧ ∃ e rows,
      reportable platform session s executionId machineBindingId result = .ok (e, rows) ∧
      ∃ e' ∈ s.executions, e'.printJobId = e.printJobId ∧ e'.state = .unknownAfterSpool
  | _ => False

section Agreement

variable {platform : Platform} {s s' : PrintingState} {label : PrintingLabel}

theorem Coupled.agree (h : PrintInv platform s) (hc : Coupled s) : ItemsAgree s where
  latest := by
    intro e he hlatest
    obtain ⟨item, hitem, hitemId, -⟩ := (h.belong e he).item
    obtain ⟨job, hjob, hjobId, -⟩ := (h.belong e he).job
    have hmatches := hc.items e he item hitem hitemId
    refine ⟨item, hitem, hitemId, job, hjob, hjobId, fun hunknown => ?_, fun hblocked hr => ?_,
      fun hcompleted => ?_⟩
    · obtain ⟨hblocked, hcode⟩ := hmatches.unknown hunknown
      exact ⟨hblocked, hcode, hc.jobs e he hunknown job hjob hjobId⟩
    · rw [hmatches.blocked hblocked hr]
      exact ItemState.noConfusion
    · -- the accepted execution of the item is the latest one too
      obtain ⟨e', he', hid, haccepted⟩ := hc.completed item hitem hcompleted
      have hspooled := (h.executions e' he').spooled (by rw [haccepted]; decide)
      have hlatest' := h.attempts.latest e' he' (.inr hspooled)
      have hsameItem : e.printJobItemId = e'.printJobItemId := by rw [hid, hitemId]
      have heq : e = e' := h.attempts.distinct e he e' he' hsameItem
        (le_antisymm (hlatest' e he hsameItem) (hlatest e' he' hsameItem.symm))
      rw [heq, haccepted]
  completed := by
    intro item hitem hcompleted
    obtain ⟨e, he, hid, haccepted⟩ := hc.completed item hitem hcompleted
    have hspooled := (h.executions e he).spooled (by rw [haccepted]; decide)
    exact ⟨e, he, hid, h.attempts.latest e he (.inr hspooled)⟩

/-- Moves that never tear anything keep executions, items and jobs together. -/
theorem Moves.coupled {A : MoveKind → Prop} (hA : ∀ kind t, A kind → Untorn t kind)
    (moves : Moves platform A s s') (h : PrintInv platform s) (hc : Coupled s) : Coupled s' := by
  have hmoves := moves.invariant (fun t => PrintInv platform t ∧ Coupled t) ⟨h, hc⟩ ?_
  · exact hmoves.2
  · rintro kind t t' hkind ⟨ht, hct⟩ move
    exact ⟨move.printInv ht, move.coupled ht hct (hA kind t hkind)⟩

/-- The calls other than `disable` and `report_result` tear nothing. -/
theorem PrintingAction.untorn {action : PrintingAction}
    (hdisable : ∀ bindingId, action ≠ .disable bindingId)
    (hreport : ∀ executionId machineBindingId result,
      action ≠ .reportResult executionId machineBindingId result) (kind : MoveKind)
    (t : PrintingState) (hkind : action.Makes platform kind) : Untorn t kind := by
  cases action with
  | disable => exact absurd rfl (hdisable _)
  | reportResult => exact absurd rfl (hreport _ _ _)
  | registerPublicKey =>
    rcases hkind with (⟨_, rfl⟩ | ⟨_, rfl⟩) | ⟨_, rfl⟩ | ⟨_, rfl, -⟩ | ⟨_, rfl⟩ | ⟨_, rfl⟩ <;>
      exact trivial
  | authorizeDelivery => rcases hkind with (⟨_, rfl⟩ | ⟨_, rfl⟩) | ⟨_, _, rfl⟩ <;> exact trivial
  | issue => rcases hkind with ⟨_, rfl⟩ | ⟨_, _, rfl⟩ <;> exact trivial
  | acknowledge => rcases hkind with ⟨_, rfl⟩ | ⟨_, rfl⟩ <;> exact trivial
  | _ =>
    obtain ⟨_, rfl⟩ := hkind
    exact trivial

theorem coupled_disable {session : Session} {bindingId : String} {accepted : Bool}
    (h : PrintInv platform s) (hc : Coupled s)
    (step : PrintingStep platform s (.call session (.disable bindingId) accepted) s')
    (huntorn : ¬ Tears platform s (.call session (.disable bindingId) accepted)) : Coupled s' := by
  refine step.ends hc (Tx.Ends.mono (@disable_ends platform _ _ bindingId) ?_)
  rintro _ t (rfl | ⟨hscope, s₁, hdown, hdetach⟩)
  · exact hc
  · have hfree : Untorn s (.takeDown bindingId) := fun e he hbinding hstate =>
      huntorn ⟨hscope, e, he, hbinding, hstate⟩
    refine hdetach.coupled (fun kind _ hkind => ?_) (hdown.printInv h) (hdown.coupled h hc hfree)
    rcases hkind with ⟨_, rfl⟩ | rfl <;> exact trivial

theorem coupled_reportResult {session : Session} {executionId machineBindingId : String}
    {result : PhysicalResult} {accepted : Bool} (h : PrintInv platform s) (hc : Coupled s)
    (step : PrintingStep platform s
      (.call session (.reportResult executionId machineBindingId result) accepted) s')
    (huntorn : ¬ Tears platform s
      (.call session (.reportResult executionId machineBindingId result) accepted)) :
    Coupled s' := by
  refine step.ends hc (Tx.Ends.mono (reportResult_ends executionId machineBindingId result) ?_)
  rintro _ t (rfl | ⟨e, rows, hreportable, s₁, hreport, hconclude⟩)
  · exact hc
  · have hfree : Untorn s (.report e result) := fun hfailed e' he' hjob hunknown =>
      huntorn ⟨hfailed, e, rows, hreportable, e', he', hjob, hunknown⟩
    refine hconclude.coupled (fun kind _ hkind => ?_) (hreport.printInv h)
      (hreport.coupled h hc hfree)
    rcases hkind with ⟨_, rfl⟩ | ⟨_, rfl⟩ <;> exact trivial

theorem PrintingStep.coupled (h : PrintInv platform s) (hc : Coupled s)
    (step : PrintingStep platform s label s') (huntorn : ¬ Tears platform s label) :
    Coupled s' := by
  cases label with
  | surroundings =>
    cases step with
    | surroundings around =>
      constructor
      · rw [around.executions, around.items]
        exact hc.items
      · rw [around.executions, around.jobs]
        exact hc.jobs
      · rw [around.executions, around.items]
        exact hc.completed
  | call session action accepted =>
    by_cases hdisable : ∃ bindingId, action = .disable bindingId
    · obtain ⟨bindingId, rfl⟩ := hdisable
      exact coupled_disable h hc step huntorn
    · by_cases hreport : ∃ executionId machineBindingId result,
          action = .reportResult executionId machineBindingId result
      · obtain ⟨executionId, machineBindingId, result, rfl⟩ := hreport
        exact coupled_reportResult h hc step huntorn
      · exact step.moves.coupled (PrintingAction.untorn (fun b hb => hdisable ⟨b, hb⟩)
          fun i b r hr => hreport ⟨i, b, r, hr⟩) h hc

/-- Items and jobs agree with the latest executions in every run in which no binding is disabled
while one of its labels is at the printer and no job fails that has a label whose outcome is
unknown. -/
theorem itemsAgree_unless_torn {labels : List PrintingLabel}
    (run : Run (fun s label s' => PrintingStep platform s label s' ∧ ¬ Tears platform s label)
      .initial labels s) : ItemsAgree s := by
  have hrun := run.invariant (fun t => PrintInv platform t ∧ Coupled t)
    ⟨printInv_initial, ⟨fun _ he => absurd he Table.not_mem_empty,
      fun _ he => absurd he Table.not_mem_empty,
      fun _ hitem => absurd hitem Table.not_mem_empty⟩⟩ ?_
  · exact hrun.2.agree hrun.1
  · rintro label t t' ⟨ht, hct⟩ ⟨step, huntorn⟩
    exact ⟨run_invariant (.single step) (PrintInv platform) ht
      (fun _ _ => PrintInv.surroundings) fun _ _ _ h move => move.printInv h,
      step.coupled ht hct huntorn⟩

/-- A label whose outcome is unknown blocks its item. -/
def sampleUnknownCalls : List (Session × PrintingAction) :=
  sampleCalls ++ [(sampleSession 9 "", .reportResult "execution0" "binding"
    { state := .unknownAfterSpool })]

theorem itemsAgree_unless_torn_sample :
    ItemsAgree (after samplePlatform sampleTables sampleUnknownCalls) ∧
      ∃ e ∈ (after samplePlatform sampleTables sampleUnknownCalls).executions,
        e.state = .unknownAfterSpool := by
  have htables : Run (fun s label s' => PrintingStep samplePlatform s label s' ∧
      ¬ Tears samplePlatform s label) .initial [.surroundings] sampleTables :=
    .single ⟨.surroundings sampleTables_around, fun htears => htears⟩
  refine ⟨itemsAgree_unless_torn (htables.append (run_calls ?_)), by decide +kernel⟩
  intro call hcall t accepted htears
  simp only [sampleUnknownCalls, sampleCalls, sampleKeyCalls, List.mem_append, List.mem_cons,
    List.not_mem_nil, or_false] at hcall
  rcases hcall with ((rfl | rfl | rfl) | rfl | rfl | rfl | rfl | rfl) | rfl
  all_goals try exact htears
  cases htears.1

/-- A binding is disabled while its label is at the printer. -/
theorem not_itemsAgree_disabled :
    ¬ ∀ platform labels s, Run (PrintingStep platform) .initial labels s → ItemsAgree s := by
  intro h
  have hagree := h samplePlatform _ _ (sampleTables_run.append (run_after _ _
    (sampleCalls ++ [(sampleSession 9 "", .disable "binding")])))
  have hunknown : ∃ e ∈ (after samplePlatform sampleTables
      (sampleCalls ++ [(sampleSession 9 "", .disable "binding")])).executions,
      e.state = .unknownAfterSpool ∧ ∀ e' ∈ (after samplePlatform sampleTables
        (sampleCalls ++ [(sampleSession 9 "", .disable "binding")])).executions.rows,
        e'.attemptNumber ≤ e.attemptNumber := by decide +kernel
  have hrendered : ∀ item ∈ (after samplePlatform sampleTables
      (sampleCalls ++ [(sampleSession 9 "", .disable "binding")])).items.rows,
      item.state = .rendered := by decide +kernel
  obtain ⟨e, he, hstate, hattempts⟩ := hunknown
  obtain ⟨item, hitem, -, job, -, -, hagrees⟩ :=
    hagree.latest e he fun e' he' _ => hattempts e' he'
  have hblocked := (hagrees.unknown hstate).1
  rw [hrendered item hitem] at hblocked
  cases hblocked

end Agreement

end Wbcz.Printing
