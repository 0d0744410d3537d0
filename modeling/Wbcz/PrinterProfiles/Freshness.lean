import Wbcz.PrinterProfiles.Discovery

/-!
# Approvals of observations that are overtaken

An approval takes the evidence of a stored observation over, however old it is: the service does
not ask whether the printer was observed since. Where no approval is of an observation that a
later result of the printer has overtaken, an active profile has the evidence that was observed
last; and a disabled profile becomes active by an approval only, in every history.

The geometry of a profile and that of an observation are compared by their hashes, so that two
geometries with one hash are taken for the same.
-/

namespace Wbcz.PrinterProfiles

open PrinterProfileRecord (afterResult miss observe observeIn)
open Transition (Run)
open Fallible (found)

/-! ## The latest observation -/

/-- The observation of a printer that a call completed, with its run. -/
def ProfileLabel.observed (bindingId agentPrinterId : String) :
    ProfileLabel → Option (String × PrinterObservation)
  | reported reporter runId os =>
    if reporter = bindingId then
      (os.find? fun o => o.agentPrinterId = agentPrinterId).map fun o => (runId, o)
    else none
  | _ => none

/-- The observation of a printer that was completed last. -/
def latest (bindingId agentPrinterId : String) (labels : List ProfileLabel) :
    Option (String × PrinterObservation) :=
  labels.reverse.findSome? (ProfileLabel.observed bindingId agentPrinterId)

/-- No result after the one with an observation has an observation of the same printer. -/
def NotOvertaken (labels : List ProfileLabel) (observationId : String × String) : Prop :=
  ∀ before bindingId os after,
    labels = before ++ .reported bindingId observationId.1 os :: after →
      ∀ label ∈ after, label.observed bindingId observationId.2 = none

/-- No approval is of an observation that is overtaken. -/
def Timely (labels : List ProfileLabel) : Prop :=
  ∀ before observationId after, labels = before ++ .approved observationId :: after →
    NotOvertaken before observationId

section Latest

variable {bindingId agentPrinterId : String} {labels before after : List ProfileLabel}
  {label : ProfileLabel} {found : String × PrinterObservation}

theorem observed_eq_some {reporter runId : String} {os : List PrinterObservation} :
    (ProfileLabel.reported reporter runId os).observed bindingId agentPrinterId = some found ↔
      reporter = bindingId ∧ ∃ o, (os.find? fun o => o.agentPrinterId = agentPrinterId) = some o ∧
        (runId, o) = found := by
  change (if reporter = bindingId then _ else none) = some found ↔ _
  by_cases hreporter : reporter = bindingId
  · rw [if_pos hreporter, Option.map_eq_some_iff, and_iff_right hreporter]
  · rw [if_neg hreporter]
    exact iff_of_false nofun fun h => hreporter h.1

theorem latest_snoc : latest bindingId agentPrinterId (labels ++ [label]) =
    (label.observed bindingId agentPrinterId).or (latest bindingId agentPrinterId labels) := by
  unfold latest
  rw [List.reverse_append, List.reverse_singleton, List.singleton_append, List.findSome?_cons]
  cases label.observed bindingId agentPrinterId with
  | none => rfl
  | some found => rfl

theorem latest_snoc_of_none (h : label.observed bindingId agentPrinterId = none) :
    latest bindingId agentPrinterId (labels ++ [label]) =
      latest bindingId agentPrinterId labels := by
  rw [latest_snoc, h, Option.none_or]

theorem latest_snoc_of_some (h : label.observed bindingId agentPrinterId = some found) :
    latest bindingId agentPrinterId (labels ++ [label]) = some found := by
  rw [latest_snoc, h, Option.some_or]

/-- What was completed last is what was completed before nothing else was. -/
theorem latest_of_last (h : label.observed bindingId agentPrinterId = some found)
    (hafter : ∀ other ∈ after, other.observed bindingId agentPrinterId = none) :
    latest bindingId agentPrinterId (before ++ label :: after) = some found := by
  have hrest : after.reverse.findSome? (ProfileLabel.observed bindingId agentPrinterId) = none :=
    List.findSome?_eq_none_iff.mpr fun other h => hafter other (List.mem_reverse.mp h)
  unfold latest
  rw [List.reverse_append, List.reverse_cons, List.findSome?_append, List.findSome?_append, hrest]
  rw [Option.none_or, List.findSome?_singleton, h, Option.some_or]

/-- The last label of a history that is timely is timely, and so is the history before it. -/
theorem Timely.of_snoc (timely : Timely (labels ++ [label])) : Timely labels := by
  intro before observationId after h
  refine timely before observationId (after ++ [label]) ?_
  rw [h, List.append_assoc, List.cons_append]

theorem Timely.last {observationId : String × String}
    (timely : Timely (labels ++ [.approved observationId])) : NotOvertaken labels observationId :=
  timely labels observationId [] rfl

/-- A step of a longer history is its last, or one of the history before. -/
theorem snoc_eq_append_cons {other : ProfileLabel}
    (h : labels ++ [label] = before ++ other :: after) :
    (before = labels ∧ other = label ∧ after = []) ∨
      ∃ rest, labels = before ++ other :: rest := by
  rcases List.eq_nil_or_concat after with rfl | ⟨rest, last, rfl⟩
  · obtain ⟨rfl, heq⟩ := List.append_inj' h rfl
    exact .inl ⟨rfl, (List.singleton_inj.mp heq).symm, rfl⟩
  · rw [List.concat_eq_append, ← List.cons_append, ← List.append_assoc] at h
    exact .inr ⟨rest, (List.append_inj' h rfl).1⟩

/-- The first approval is timely if what it approves is not overtaken. -/
theorem timely_of_first {observationId : String × String}
    (hfirst : ∀ other, .approved other ∉ labels) (hnot : NotOvertaken labels observationId) :
    Timely (labels ++ [.approved observationId]) := by
  intro before other after h
  rcases snoc_eq_append_cons h with ⟨rfl, heq, -⟩ | ⟨rest, rfl⟩
  · cases heq
    exact hnot
  · exact absurd (List.mem_append_right _ List.mem_cons_self) (hfirst other)

/-- What the last result of a history reports is not overtaken. -/
theorem notOvertaken_of_last {reporter runId : String} {os : List PrinterObservation}
    (hfirst : ∀ reporter os, .reported reporter runId os ∉ labels) :
    NotOvertaken (labels ++ [.reported reporter runId os]) (runId, agentPrinterId) := by
  intro before reporter' os' after h
  rcases snoc_eq_append_cons h with ⟨-, -, rfl⟩ | ⟨rest, rfl⟩
  · exact fun _ h => absurd h List.not_mem_nil
  · exact absurd (List.mem_append_right _ List.mem_cons_self) (hfirst reporter' os')

end Latest

/-! ## What becomes of the profiles -/

section Results

variable {trace : Trace} {bindingId runId : String} {p : PrinterProfileRecord}
  {o : PrinterObservation} {os : List PrinterObservation}

theorem observe_evidence : (p.observe trace o).1.evidence = p.evidence := by
  unfold observe
  split_ifs <;> rfl

theorem miss_evidence : (p.miss trace runId).1.evidence = p.evidence := by
  unfold miss
  split_ifs <;> rfl

theorem observe_of_disabled (h : p.state = .disabled) : (p.observe trace o).1 = p := by
  rw [observe, if_pos h]

theorem miss_of_disabled (h : p.state = .disabled) : (p.miss trace runId).1 = p := by
  rw [miss, if_neg fun hstate => hstate.1 h]

/-- Only what was approved makes a profile active. -/
theorem observe_active (h : (p.observe trace o).1.state = .active) :
    o.availabilityState = .available ∧ p.matches o = true := by
  unfold observe at h
  by_cases hdisabled : p.state = .disabled
  · rw [if_pos hdisabled, hdisabled] at h
    cases h
  · rw [if_neg hdisabled] at h
    by_cases havailable : o.availabilityState = .available
    · rw [if_neg (not_not.mpr havailable)] at h
      by_cases hmatches : p.matches o = true
      · exact ⟨havailable, hmatches⟩
      · rw [if_pos hmatches] at h
        by_cases hstale : p.state = .stale
        · rw [if_neg (not_not.mpr hstale), hstale] at h
          cases h
        · rw [if_pos hstale] at h
          cases h
    · rw [if_pos havailable] at h
      by_cases hmissing : p.state = .missing
      · rw [if_neg (not_not.mpr hmissing), hmissing] at h
        cases h
      · rw [if_pos hmissing] at h
        cases h

theorem miss_not_active : (p.miss trace runId).1.state ≠ .active := by
  unfold miss
  split_ifs with h
  · exact nofun
  · intro hactive
    exact h ⟨hactive ▸ nofun, hactive ▸ nofun⟩

/-- Observations of other printers leave a profile. -/
theorem foldl_observeIn_of_ne (h : ∀ o ∈ os, p.agentPrinterId ≠ o.agentPrinterId) :
    os.foldl (observeIn trace bindingId) p = p := by
  induction os with
  | nil => rfl
  | cons o os ih =>
    rw [List.foldl_cons, observeIn_of_ne (h o List.mem_cons_self)]
    exact ih fun o' ho' => h o' (List.mem_cons_of_mem _ ho')

theorem foldl_observeIn_of_binding_ne (h : p.agentBindingId ≠ bindingId) :
    os.foldl (observeIn trace bindingId) p = p := by
  induction os with
  | nil => rfl
  | cons o os ih =>
    have hsame : p.observeIn trace bindingId o = p := if_neg fun hpair => h hpair.1
    rw [List.foldl_cons, hsame]
    exact ih

/-- Of the observations of different printers, one is of the printer of a profile. -/
theorem foldl_observeIn_of_find? (hdistinct : (os.map PrinterObservation.agentPrinterId).Nodup)
    (hbinding : p.agentBindingId = bindingId)
    (hfind : (os.find? fun o => o.agentPrinterId = p.agentPrinterId) = some o) :
    os.foldl (observeIn trace bindingId) p = (p.observe trace o).1 := by
  obtain ⟨hprinter, before, after, rfl, hbefore⟩ := List.find?_eq_some_iff_append.mp hfind
  have hprinter : o.agentPrinterId = p.agentPrinterId := of_decide_eq_true hprinter
  rw [List.map_append, List.map_cons] at hdistinct
  have hafter := (List.nodup_cons.mp (List.nodup_append.mp hdistinct).2.1).1
  have hfirst : before.foldl (observeIn trace bindingId) p = p := by
    refine foldl_observeIn_of_ne fun o' ho' heq => ?_
    have hne := hbefore o' ho'
    simp [heq] at hne
  have hthis : p.observeIn trace bindingId o = (p.observe trace o).1 :=
    if_pos ⟨hbinding, hprinter.symm⟩
  rw [List.foldl_append, hfirst, List.foldl_cons, hthis]
  refine foldl_observeIn_of_ne fun o' ho' heq => hafter ?_
  rw [hprinter, ← @observe_agentPrinterId trace p o, heq]
  exact List.mem_map_of_mem ho'

/-- A result leaves the profiles of other bindings; it observes a profile of its own binding, or
misses it. -/
theorem afterResult_cases (hdistinct : (os.map PrinterObservation.agentPrinterId).Nodup) :
    (p.agentBindingId ≠ bindingId ∧ p.afterResult trace bindingId runId os = p) ∨
    (p.agentBindingId = bindingId ∧ ∃ o ∈ os,
      (os.find? fun o => o.agentPrinterId = p.agentPrinterId) = some o ∧
      p.afterResult trace bindingId runId os = (p.observe trace o).1) ∨
    (p.agentBindingId = bindingId ∧
      p.afterResult trace bindingId runId os = (p.miss trace runId).1) := by
  unfold afterResult
  by_cases hbinding : p.agentBindingId = bindingId
  · cases hfind : os.find? fun o => o.agentPrinterId = p.agentPrinterId with
    | some o =>
      have hmem := List.mem_of_find?_eq_some hfind
      have hprinter : o.agentPrinterId = p.agentPrinterId :=
        of_decide_eq_true (List.find?_some hfind :)
      refine .inr (.inl ⟨hbinding, o, hmem, rfl, ?_⟩)
      rw [if_neg fun hmissed => hmissed.2 (hprinter ▸ List.mem_map_of_mem hmem)]
      exact foldl_observeIn_of_find? hdistinct hbinding hfind
    | none =>
      have hne : ∀ o ∈ os, p.agentPrinterId ≠ o.agentPrinterId := by
        intro o ho heq
        have hnone := List.find?_eq_none.mp hfind o ho
        simp [heq] at hnone
      have hmissed : p.agentPrinterId ∉ os.map PrinterObservation.agentPrinterId := by
        intro hmem
        obtain ⟨o, ho, heq⟩ := List.mem_map.mp hmem
        exact hne o ho heq.symm
      exact .inr (.inr ⟨hbinding, by rw [foldl_observeIn_of_ne hne, if_pos ⟨hbinding, hmissed⟩]⟩)
  · refine .inl ⟨hbinding, ?_⟩
    rw [if_neg fun hmissed => hbinding hmissed.1, foldl_observeIn_of_binding_ne hbinding]

end Results

/-- What a step does to the profiles, as far as they are concerned. -/
inductive ProfileChange (platform : Platform) (s s' : ProfileState) : ProfileLabel → Prop
  | same {label} : (∀ bindingId agentPrinterId, label.observed bindingId agentPrinterId = none) →
      (∀ observationId, label ≠ .approved observationId) →
      s'.profiles = s.profiles → s'.observations = s.observations →
      ProfileChange platform s s' label
  | reported {trace bindingId runId os} :
      (os.map PrinterObservation.agentPrinterId).Nodup →
      (∀ o ∈ os, o.validate platform.capabilityHash = .ok ()) →
      (∀ row, row ∈ s'.observations ↔ row ∈ s.observations ∨
        ∃ o ∈ os, row = ⟨runId, bindingId, o⟩) →
      (∀ p', p' ∈ s'.profiles ↔ ∃ p ∈ s.profiles, p' = p.afterResult trace bindingId runId os) →
      ProfileChange platform s s' (.reported bindingId runId os)
  | approved {row o p'} : row ∈ s.observations → row.domain platform = .ok o →
      o.availabilityState = .available → p'.agentBindingId = row.agentBindingId →
      p'.agentPrinterId = o.agentPrinterId → p'.evidence = o.evidence →
      s'.observations = s.observations → p' ∈ s'.profiles →
      (∀ q ∈ s'.profiles, q ∈ s.profiles ∨ q = p') →
      (∀ q ∈ s.profiles, q ∈ s'.profiles ∨ q.id = p'.id ∧ q.agentPrinterId = p'.agentPrinterId) →
      ProfileChange platform s s' (.approved row.id)
  | disabled {p} : s'.observations = s.observations →
      (∀ q, q ∈ s'.profiles ↔ ∃ q' ∈ s.profiles, q = if q' = p then { p with state := .disabled }
        else q') →
      ProfileChange platform s s' (.disabled p.id)

section Changes

variable {platform : Platform} {s s' : ProfileState} {label : ProfileLabel}

theorem ProfileStep.change (inv : ProfileInv s) (step : ProfileStep platform s label s') :
    ProfileChange platform s s' label := by
  cases step with
  | bindingsChanged => exact .same (fun _ _ => rfl) nofun rfl rfl
  | requested h =>
    rcases requestDiscovery_spec h with rfl | ⟨run, job, runs, jobs, event, events, -, -, -, -, -,
      -, rfl⟩
    · exact .same (fun _ _ => rfl) nofun rfl rfl
    · exact .same (fun _ _ => rfl) nofun rfl rfl
  | fetched h =>
    rcases fetchAgentJob_spec h with rfl | ⟨job, run, expiresAt, -, -, -, rfl⟩
    · exact .same (fun _ _ => rfl) nofun rfl rfl
    · exact .same (fun _ _ => rfl) nofun rfl rfl
  | @reported trace now jobId bindingId os job _ hjob hstate h =>
    obtain ⟨run, checks, h⟩ := completeAgentJob_spec hjob hstate h
    have stored := storeResult_spec inv.pairs checks.distinct checks.new h
    have hobservations := stored.observations
    have hprofiles := stored.profiles
    rw [checks.job_binding, checks.run_id] at hobservations hprofiles
    exact .reported checks.distinct checks.valid hobservations hprofiles
  | replayed hjob hstate h =>
    rw [completeAgentJob_replay hjob hstate h]
    exact .same (fun _ _ => rfl) nofun rfl rfl
  | failed h =>
    obtain ⟨job, run, code, events, -, -, -, -, -, rfl⟩ := failAgentJob_spec h
    exact .same (fun _ _ => rfl) nofun rfl rfl
  | approved h =>
    obtain ⟨row, o, event, events, hrow, rfl, ho, havailable, -, -, hprofiles⟩ :=
      approveObservation_spec h
    rcases hprofiles with ⟨profiles, hfree, hinsert, rfl⟩ | ⟨old, hold, rfl⟩
    · have hmem : ∀ q, q ∈ profiles ↔ q ∈ s.profiles ∨ q = newProfile _ _ _ _ o :=
        fun q => Table.mem_insert hinsert
      exact .approved hrow ho havailable rfl rfl rfl rfl ((hmem _).mpr (.inr rfl))
        (fun q hq => (hmem q).mp hq) fun q hq => .inl ((hmem q).mpr (.inl hq))
    · obtain ⟨hmem, hbinding, hprinter⟩ := profileOf_eq_some hold
      have hput := fun r =>
        @mem_put_iff old (old.adopt row.observation.observedAt o) s.profiles hmem rfl r
      refine @ProfileChange.approved platform s _ row o (old.adopt row.observation.observedAt o)
        hrow ho havailable hbinding hprinter rfl rfl
        ((hput _).mpr ⟨old, hmem, (if_pos rfl).symm⟩) (fun q hq => ?_) fun q hq => ?_
      · obtain ⟨q', hq', rfl⟩ := (hput q).mp hq
        split_ifs
        · exact .inr rfl
        · exact .inl hq'
      · by_cases heq : q = old
        · rw [heq]
          exact .inr ⟨rfl, rfl⟩
        · exact .inl ((hput q).mpr ⟨q, hq, (if_neg heq).symm⟩)
  | disabled h =>
    obtain ⟨profile, event, events, hmem, rfl, -, -, rfl⟩ := disableProfile_spec h
    exact .disabled rfl fun q =>
      @mem_put_iff profile { profile with state := .disabled } s.profiles hmem rfl q

end Changes

/-! ## What holds of a history -/

/-- The geometries have one hash, though they are not the same. -/
def Collide (platform : Platform) (c c' : Capabilities) : Prop :=
  c ≠ c' ∧ platform.capabilityHash c .available = platform.capabilityHash c' .available

/-- Every approval is of the latest observation that was completed of the printer. -/
def ApprovesLatest (labels : List ProfileLabel) : Prop :=
  ∀ before observationId after, labels = before ++ .approved observationId :: after →
    ∃ bindingId o, latest bindingId observationId.2 before = some (observationId.1, o)

/-- A disabled profile becomes active by an approval of its printer only. -/
def ReactivatedByApproval (platform : Platform) (labels : List ProfileLabel) (s : ProfileState) :
    Prop :=
  ∀ before after s₁, labels = before ++ after → Run (ProfileStep platform) .initial before s₁ →
    Run (ProfileStep platform) s₁ after s → ∀ p ∈ s₁.profiles, p.state = .disabled →
      ∀ p' ∈ s.profiles, p'.id = p.id → p'.state = .active →
        ∃ observationId, .approved observationId ∈ after ∧ observationId.2 = p.agentPrinterId

/-- An active profile has the fingerprint and the geometry that were observed last. -/
def ActiveIsLatest (platform : Platform) (labels : List ProfileLabel) (s : ProfileState) : Prop :=
  ∀ p ∈ s.profiles, p.state = .active →
    ∃ runId o, latest p.agentBindingId p.agentPrinterId labels = some (runId, o) ∧
      o.availabilityState = .available ∧
      p.evidence.localPrinterFingerprint = o.evidence.localPrinterFingerprint ∧
      (p.evidence.capabilities = o.evidence.capabilities ∨
        Collide platform p.evidence.capabilities o.evidence.capabilities)

/-- What is stored was reported, and is valid. -/
structure HistoryInv (platform : Platform) (labels : List ProfileLabel) (s : ProfileState) :
    Prop where
  rows : ∀ row ∈ s.observations, ∃ before os after,
    labels = before ++ .reported row.agentBindingId row.discoveryRunId os :: after ∧
      (os.find? fun o => o.agentPrinterId = row.observation.agentPrinterId) = some row.observation
  valid : ∀ bindingId agentPrinterId runId o,
    latest bindingId agentPrinterId labels = some (runId, o) →
      o.validate platform.capabilityHash = .ok ()
  hashed : ∀ p ∈ s.profiles, platform.capabilityHash p.evidence.capabilities .available =
    p.evidence.capabilityHash

section Histories

variable {platform : Platform} {labels : List ProfileLabel} {s s' : ProfileState}
  {label : ProfileLabel}

theorem HistoryInv.initial : HistoryInv platform [] .initial where
  rows := fun _ h => absurd h Table.not_mem_empty
  valid := fun _ _ _ _ h => by cases h
  hashed := fun _ h => absurd h Table.not_mem_empty

/-- What is read back is what was stored, but for what the columns make of the geometry. -/
theorem domain_eq_ok {row : PrinterDiscoveryObservationRecord} {o : PrinterObservation}
    (h : row.domain platform = .ok o) : o.validate platform.capabilityHash = .ok () ∧
      o.agentPrinterId = row.observation.agentPrinterId ∧
      o.availabilityState = row.observation.availabilityState ∧
      o.evidence.localPrinterFingerprint = row.observation.evidence.localPrinterFingerprint ∧
      o.evidence.capabilityHash = row.observation.evidence.capabilityHash := by
  obtain ⟨rfl, hvalid⟩ := PrinterObservation.fromMapping_eq_ok h
  exact ⟨hvalid, rfl, rfl, rfl, rfl⟩

theorem find?_of_distinct {os : List PrinterObservation} {o : PrinterObservation}
    (hdistinct : (os.map PrinterObservation.agentPrinterId).Nodup) (ho : o ∈ os) :
    (os.find? fun o' => o'.agentPrinterId = o.agentPrinterId) = some o := by
  cases hfind : os.find? fun o' => o'.agentPrinterId = o.agentPrinterId with
  | none =>
    have hnone := List.find?_eq_none.mp hfind o ho
    simp at hnone
  | some o' =>
    have hprinter : o'.agentPrinterId = o.agentPrinterId :=
      of_decide_eq_true (List.find?_some hfind :)
    rw [List.inj_on_of_nodup_map hdistinct (List.mem_of_find?_eq_some hfind) ho hprinter]

theorem observed_of_change (change : ProfileChange platform s s' label) {bindingId : String}
    {agentPrinterId runId : String} {o : PrinterObservation}
    (h : label.observed bindingId agentPrinterId = some (runId, o)) :
    o.validate platform.capabilityHash = .ok () := by
  cases change with
  | same hnone => cases (hnone bindingId agentPrinterId).symm.trans h
  | approved => cases h
  | disabled => cases h
  | reported _ hvalid =>
    obtain ⟨-, o', hfind, heq⟩ := observed_eq_some.mp h
    cases heq
    exact hvalid _ (List.mem_of_find?_eq_some hfind)

theorem afterResult_evidence {trace : Trace} {bindingId runId : String}
    {os : List PrinterObservation} {p : PrinterProfileRecord}
    (hdistinct : (os.map PrinterObservation.agentPrinterId).Nodup) :
    (p.afterResult trace bindingId runId os).evidence = p.evidence := by
  rcases @afterResult_cases trace bindingId runId p os hdistinct with ⟨-, h⟩ | ⟨-, o, -, -, h⟩ |
    ⟨-, h⟩
  · rw [h]
  · rw [h, observe_evidence]
  · rw [h, miss_evidence]

theorem HistoryInv.snoc (history : HistoryInv platform labels s)
    (change : ProfileChange platform s s' label) : HistoryInv platform (labels ++ [label]) s' := by
  -- what was in the history stays in it
  have hold : ∀ row ∈ s.observations, ∃ before os after, labels ++ [label] =
      before ++ .reported row.agentBindingId row.discoveryRunId os :: after ∧
      (os.find? fun o => o.agentPrinterId = row.observation.agentPrinterId) =
        some row.observation := by
    intro row hrow
    obtain ⟨before, os, after, h, hfind⟩ := history.rows row hrow
    refine ⟨before, os, after ++ [label], ?_, hfind⟩
    rw [h, List.append_assoc, List.cons_append]
  refine ⟨?_, ?_, ?_⟩
  · intro row hrow
    cases change with
    | same _ _ _ hrows => exact hold row (hrows ▸ hrow)
    | approved _ _ _ _ _ _ hrows => exact hold row (hrows ▸ hrow)
    | disabled hrows => exact hold row (hrows ▸ hrow)
    | @reported _ _ _ os hdistinct _ hrows =>
      rcases (hrows row).mp hrow with hrow | ⟨o, ho, rfl⟩
      · exact hold row hrow
      · exact ⟨labels, os, [], rfl, find?_of_distinct hdistinct ho⟩
  · intro bindingId agentPrinterId runId o h
    rw [latest_snoc] at h
    cases hobserved : label.observed bindingId agentPrinterId with
    | none =>
      rw [hobserved, Option.none_or] at h
      exact history.valid _ _ _ _ h
    | some found =>
      rw [hobserved, Option.some_or] at h
      exact observed_of_change change (hobserved.trans h)
  · intro p hp
    cases change with
    | same _ _ hprofiles => exact history.hashed p (hprofiles ▸ hp)
    | reported hdistinct _ _ hprofiles =>
      obtain ⟨q, hq, rfl⟩ := (hprofiles p).mp hp
      rw [afterResult_evidence hdistinct]
      exact history.hashed q hq
    | approved _ hdomain havailable _ _ hevidence _ _ hprofiles =>
      rcases hprofiles p hp with hp | rfl
      · exact history.hashed p hp
      · rw [hevidence, ← havailable]
        exact PrinterObservation.hash_of_validate (domain_eq_ok hdomain).1
    | disabled _ hprofiles =>
      obtain ⟨q, hq, rfl⟩ := (hprofiles p).mp hp
      split_ifs with heq
      · exact heq ▸ history.hashed q hq
      · exact history.hashed q hq

theorem history_of_run (run : Run (ProfileStep platform) .initial labels s) :
    ProfileInv s ∧ HistoryInv platform labels s :=
  run.history (fun labels s => ProfileInv s ∧ HistoryInv platform labels s)
    ⟨.initial, .initial⟩ fun _ _ _ _ ⟨inv, history⟩ step =>
      ⟨step.inv inv, history.snoc (step.change inv)⟩

/-- An observation that is not overtaken is the latest. -/
theorem HistoryInv.latest_of_row (history : HistoryInv platform labels s)
    {row : PrinterDiscoveryObservationRecord} (hrow : row ∈ s.observations)
    (hnot : NotOvertaken labels row.id) :
    latest row.agentBindingId row.observation.agentPrinterId labels =
      some (row.discoveryRunId, row.observation) := by
  obtain ⟨before, os, after, h, hfind⟩ := history.rows row hrow
  have hafter := hnot before row.agentBindingId os after h
  rw [h]
  exact latest_of_last (observed_eq_some.mpr ⟨rfl, _, hfind, rfl⟩) hafter

/-- An active profile is one that the latest observation matches. -/
def ActiveMatches (labels : List ProfileLabel) (s : ProfileState) : Prop :=
  ∀ p ∈ s.profiles, p.state = .active →
    ∃ runId o, latest p.agentBindingId p.agentPrinterId labels = some (runId, o) ∧
      o.availabilityState = .available ∧
      p.evidence.localPrinterFingerprint = o.evidence.localPrinterFingerprint ∧
      p.evidence.capabilityHash = o.evidence.capabilityHash

/-- A step keeps the match, unless it approves what is overtaken. -/
theorem ActiveMatches.snoc (active : ActiveMatches labels s)
    (history : HistoryInv platform labels s) (change : ProfileChange platform s s' label)
    (timely : ∀ observationId, label = .approved observationId →
      NotOvertaken labels observationId) :
    ActiveMatches (labels ++ [label]) s' := by
  -- a profile that is as it was, and was not observed
  have hold : ∀ p ∈ s.profiles, label.observed p.agentBindingId p.agentPrinterId = none →
      p.state = .active → ∃ runId o,
        latest p.agentBindingId p.agentPrinterId (labels ++ [label]) = some (runId, o) ∧
        o.availabilityState = .available ∧
        p.evidence.localPrinterFingerprint = o.evidence.localPrinterFingerprint ∧
        p.evidence.capabilityHash = o.evidence.capabilityHash := by
    intro p hp hobserved hstate
    rw [latest_snoc_of_none hobserved]
    exact active p hp hstate
  intro p hp hstate
  cases change with
  | same hnone _ hprofiles => exact hold p (hprofiles ▸ hp) (hnone _ _) hstate
  | @reported trace bindingId runId os hdistinct _ _ hprofiles =>
    obtain ⟨q, hq, rfl⟩ := (hprofiles p).mp hp
    rcases @afterResult_cases trace bindingId runId q os hdistinct with ⟨hne, hsame⟩ |
      ⟨hbinding, o, -, hfind, hobserved⟩ | ⟨-, hmissed⟩
    · rw [hsame] at hstate ⊢
      refine hold q hq ?_ hstate
      exact if_neg fun h => hne h.symm
    · rw [hobserved] at hstate ⊢
      obtain ⟨havailable, hmatches⟩ := observe_active hstate
      have hsame := Bool.and_eq_true_iff.mp hmatches
      refine ⟨runId, o, latest_snoc_of_some ?_, havailable, ?_, ?_⟩
      · rw [observe_agentBindingId, observe_agentPrinterId]
        exact observed_eq_some.mpr ⟨hbinding.symm, o, hfind, rfl⟩
      · rw [observe_evidence]
        exact of_decide_eq_true hsame.1
      · rw [observe_evidence]
        exact of_decide_eq_true hsame.2
    · rw [hmissed] at hstate
      exact absurd hstate miss_not_active
  | @approved row o p' hrow hdomain havailable hbinding hprinter hevidence _ _ hprofiles =>
    rcases hprofiles p hp with hp | rfl
    · exact hold p hp rfl hstate
    · obtain ⟨-, hprinter', havailable', hfingerprint, hhash⟩ := domain_eq_ok hdomain
      refine ⟨row.discoveryRunId, row.observation, ?_, havailable' ▸ havailable, ?_, ?_⟩
      · rw [latest_snoc_of_none rfl, hbinding, hprinter, hprinter']
        exact history.latest_of_row hrow (timely row.id rfl)
      · rw [hevidence, hfingerprint]
      · rw [hevidence, hhash]
  | @disabled changed _ hprofiles =>
    obtain ⟨q, hq, rfl⟩ := (hprofiles p).mp hp
    by_cases heq : q = changed
    · rw [if_pos heq] at hstate
      cases hstate
    · rw [if_neg heq] at hstate ⊢
      exact hold q hq rfl hstate

theorem ActiveMatches.activeIsLatest (active : ActiveMatches labels s)
    (history : HistoryInv platform labels s) : ActiveIsLatest platform labels s := by
  intro p hp hstate
  obtain ⟨runId, o, hlatest, havailable, hfingerprint, hhash⟩ := active p hp hstate
  refine ⟨runId, o, hlatest, havailable, hfingerprint, ?_⟩
  have hvalid := PrinterObservation.hash_of_validate (history.valid _ _ _ _ hlatest)
  by_cases hsame : p.evidence.capabilities = o.evidence.capabilities
  · exact .inl hsame
  · refine .inr ⟨hsame, ?_⟩
    rw [history.hashed p hp, hhash, ← hvalid, havailable]

theorem activeMatches_of_run (run : Run (ProfileStep platform) .initial labels s)
    (timely : Timely labels) : ActiveMatches labels s := by
  have hrun := run.history
    (fun labels s => ProfileInv s ∧ HistoryInv platform labels s ∧
      (Timely labels → ActiveMatches labels s))
    ⟨.initial, .initial, fun _ _ h => absurd h Table.not_mem_empty⟩
    (fun labels label s s' ⟨inv, history, active⟩ step =>
      ⟨step.inv inv, history.snoc (step.change inv), fun timely =>
        (active timely.of_snoc).snoc history (step.change inv) fun observationId heq =>
          Timely.last (heq ▸ timely)⟩)
  exact hrun.2.2 timely

/-- An approval is of an observation that is stored. -/
theorem ApprovesLatest.snoc (approves : ApprovesLatest labels)
    (history : HistoryInv platform labels s) (change : ProfileChange platform s s' label)
    (timely : ∀ observationId, label = .approved observationId →
      NotOvertaken labels observationId) :
    ApprovesLatest (labels ++ [label]) := by
  intro before observationId after h
  rcases snoc_eq_append_cons h with ⟨rfl, rfl, -⟩ | ⟨rest, h⟩
  · cases change with
    | same _ hnot => exact absurd rfl (hnot observationId)
    | approved hrow => exact ⟨_, _, history.latest_of_row hrow (timely _ rfl)⟩
  · exact approves before observationId rest h

theorem approvesLatest_of_run (run : Run (ProfileStep platform) .initial labels s)
    (timely : Timely labels) : ApprovesLatest labels := by
  have hrun := run.history
    (fun labels s => ProfileInv s ∧ HistoryInv platform labels s ∧
      (Timely labels → ApprovesLatest labels))
    ⟨.initial, .initial, fun _ _ _ _ h => absurd h (by simp)⟩
    (fun labels label s s' ⟨inv, history, approves⟩ step =>
      ⟨step.inv inv, history.snoc (step.change inv), fun timely =>
        (approves timely.of_snoc).snoc history (step.change inv) fun observationId heq =>
          Timely.last (heq ▸ timely)⟩)
  exact hrun.2.2 timely

/-- A disabled profile stays, and stays disabled unless its printer is approved. -/
theorem ProfileChange.disabled_kept (change : ProfileChange platform s s' label)
    {p : PrinterProfileRecord} (hp : p ∈ s.profiles) (hstate : p.state = .disabled) :
    (∃ observationId, label = .approved observationId ∧ observationId.2 = p.agentPrinterId) ∨
      ∃ p' ∈ s'.profiles, p'.id = p.id ∧ p'.agentPrinterId = p.agentPrinterId ∧
        p'.state = .disabled := by
  cases change with
  | same _ _ hprofiles => exact .inr ⟨p, hprofiles ▸ hp, rfl, rfl, hstate⟩
  | @reported trace bindingId runId os hdistinct _ _ hprofiles =>
    have hsame : p.afterResult trace bindingId runId os = p := by
      rcases @afterResult_cases trace bindingId runId p os hdistinct with ⟨-, h⟩ | ⟨-, o, -, -, h⟩ |
        ⟨-, h⟩
      · exact h
      · rw [h, observe_of_disabled hstate]
      · rw [h, miss_of_disabled hstate]
    exact .inr ⟨p, (hprofiles p).mpr ⟨p, hp, hsame.symm⟩, rfl, rfl, hstate⟩
  | approved _ hdomain _ _ hprinter _ _ _ _ hkept =>
    rcases hkept p hp with hp | ⟨-, hsame⟩
    · exact .inr ⟨p, hp, rfl, rfl, hstate⟩
    · refine .inl ⟨_, rfl, ?_⟩
      rw [hsame, hprinter, (domain_eq_ok hdomain).2.1]
      rfl
  | @disabled q _ hprofiles =>
    by_cases heq : p = q
    · obtain rfl := heq
      exact .inr ⟨_, (hprofiles _).mpr ⟨p, hp, (if_pos rfl).symm⟩, rfl, rfl, rfl⟩
    · exact .inr ⟨p, (hprofiles _).mpr ⟨p, hp, (if_neg heq).symm⟩, rfl, rfl, hstate⟩

theorem reactivatedByApproval_of_run : ReactivatedByApproval platform labels s := by
  rintro before after s₁ - hbefore hafter p hp hdisabled p' hp' hid hactive
  have hkept := hafter.history (fun labels s => ProfileInv s ∧
      ((∃ observationId, .approved observationId ∈ labels ∧ observationId.2 = p.agentPrinterId) ∨
        ∃ q ∈ s.profiles, q.id = p.id ∧ q.agentPrinterId = p.agentPrinterId ∧ q.state = .disabled))
    ⟨inv_of_run hbefore, .inr ⟨p, hp, rfl, rfl, hdisabled⟩⟩ ?_
  · rcases hkept.2 with h | ⟨q, hq, hqid, -, hqstate⟩
    · exact h
    · obtain rfl := Table.eq_of_key_eq hp' hq (hid.trans hqid.symm)
      cases hactive.symm.trans hqstate
  · rintro labels label s s' ⟨inv, h⟩ step
    refine ⟨step.inv inv, ?_⟩
    rcases h with ⟨observationId, hmem, hprinter⟩ | ⟨q, hq, hqid, hqprinter, hqstate⟩
    · exact .inl ⟨observationId, List.mem_append_left _ hmem, hprinter⟩
    · rcases (step.change inv).disabled_kept hq hqstate with ⟨observationId, rfl, hprinter⟩ |
        ⟨q', hq', hid', hprinter', hstate'⟩
      · exact .inl ⟨observationId, List.mem_append_right _ List.mem_cons_self,
          hprinter.trans hqprinter⟩
      · exact .inr ⟨q', hq', hid'.trans hqid, hprinter'.trans hqprinter, hstate'⟩

/-- Where no approval is of an observation that is overtaken, every approval is of the latest one,
a disabled profile becomes active by an approval only, and an active profile has what was observed
last. -/
theorem fresh_of_timely (run : Run (ProfileStep platform) .initial labels s)
    (timely : Timely labels) : ApprovesLatest labels ∧ ReactivatedByApproval platform labels s ∧
      ActiveIsLatest platform labels s :=
  ⟨approvesLatest_of_run run timely, reactivatedByApproval_of_run,
    (activeMatches_of_run run timely).activeIsLatest (history_of_run run).2⟩

end Histories

/-! ## An approval that is overtaken, and one that is not -/

/-- The labels of the sample printer have another height by the time its observation is
approved. -/
def sampleOvertaken : Except PyError ProfileState := do
  let s ← sampleStart
  let s ← sampleDiscovery "run-1" (sampleObservation .available 40) s
  let s ← sampleDiscovery "run-2" (sampleObservation .available 30) s
  sampleApproval "run-1" s

def sampleApproved : Except PyError ProfileState := do
  let s ← sampleStart
  let s ← sampleDiscovery "run-1" (sampleObservation .available 40) s
  sampleApproval "run-1" s

/-- The sample profile with the evidence that was approved. -/
def sampleProfile : PrinterProfileRecord :=
  newProfile "profile" "binding" 1 0 (sampleObservation .available 40)

theorem sampleOvertaken_eq :
    sampleOvertaken.toOption.map (fun s => s.profiles.rows) = some [sampleProfile] := by
  decide +kernel

theorem sampleApproved_eq :
    sampleApproved.toOption.map (fun s => s.profiles.rows) = some [sampleProfile] := by
  decide +kernel

/-- A profile is active with a fingerprint and a geometry that the printer no longer has. -/
theorem overtaken_approval_activates : ∃ labels s p runId o,
    Run (ProfileStep samplePlatform) .initial labels s ∧ p ∈ s.profiles ∧ p.state = .active ∧
      latest p.agentBindingId p.agentPrinterId labels = some (runId, o) ∧
      p.evidence.localPrinterFingerprint ≠ o.evidence.localPrinterFingerprint ∧
      p.evidence.capabilities ≠ o.evidence.capabilities := by
  obtain ⟨s, hs, hprofiles⟩ := Option.map_eq_some_iff.mp sampleOvertaken_eq
  obtain ⟨_, hstart, h⟩ := Fallible.bind_eq_ok.mp (Fallible.toOption_eq_some.mp hs)
  obtain ⟨_, hfirst, h⟩ := Fallible.bind_eq_ok.mp h
  obtain ⟨_, hsecond, happrove⟩ := Fallible.bind_eq_ok.mp h
  have run := (sampleDiscovery_run (sampleDiscovery_run (sampleStart_run hstart) hfirst)
    hsecond).snoc (.approved happrove)
  have hmem : sampleProfile ∈ s.profiles.rows := hprofiles ▸ List.mem_cons_self
  exact ⟨_, s, sampleProfile, "run-2", sampleObservation .available 30, run, hmem,
    by decide +kernel, by decide +kernel, by decide +kernel, by decide +kernel⟩

/-- A profile of an observation that was not overtaken has what was observed last. -/
theorem fresh_of_timely_sample : ∃ labels s, Run (ProfileStep samplePlatform) .initial labels s ∧
    sampleProfile ∈ s.profiles ∧ ActiveIsLatest samplePlatform labels s := by
  obtain ⟨s, hs, hprofiles⟩ := Option.map_eq_some_iff.mp sampleApproved_eq
  obtain ⟨_, hstart, h⟩ := Fallible.bind_eq_ok.mp (Fallible.toOption_eq_some.mp hs)
  obtain ⟨_, hfirst, happrove⟩ := Fallible.bind_eq_ok.mp h
  have run := (sampleDiscovery_run (sampleStart_run hstart) hfirst).snoc (.approved happrove)
  have hmem : sampleProfile ∈ s.profiles.rows := hprofiles ▸ List.mem_cons_self
  refine ⟨_, s, run, hmem, (fresh_of_timely run ?_).2.2⟩
  exact timely_of_first (by simp) (notOvertaken_of_last (by simp))

end Wbcz.PrinterProfiles
