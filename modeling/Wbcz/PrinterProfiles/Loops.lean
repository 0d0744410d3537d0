import Wbcz.PrinterProfiles.Service

/-!
# What a completed discovery does

The loops of `complete_agent_job` over the observations and over the profiles of the binding, as
one change of the profiles and one list of events. Each profile is changed once at most: the
printers of a result are different ones, and a binding has one profile of a printer.
-/

namespace Wbcz.PrinterProfiles

open Fallible (found bind_eq_ok found_eq_ok)

/-- A binding has one profile of a printer. -/
def UniquePairs (t : Table PrinterProfileRecord.id) : Prop :=
  ∀ p ∈ t, ∀ q ∈ t, p.agentBindingId = q.agentBindingId → p.agentPrinterId = q.agentPrinterId →
    p = q

/-- What an observation makes of a profile: nothing, where it is of another printer. -/
def PrinterProfileRecord.observeIn (trace : Trace) (bindingId : String) (p : PrinterProfileRecord)
    (o : PrinterObservation) : PrinterProfileRecord :=
  if p.agentBindingId = bindingId ∧ p.agentPrinterId = o.agentPrinterId then (p.observe trace o).1
  else p

/-- What the loop over the observations records. -/
def observationEvents (trace : Trace) (bindingId : String) (s : ProfileState)
    (os : List PrinterObservation) : List PrinterEvent :=
  os.filterMap fun o =>
    (s.profileOf bindingId o.agentPrinterId).bind fun p => (p.observe trace o).2

/-- What the loop over the profiles records. -/
def missEvents (trace : Trace) (runId : String) (observedIds : List String)
    (profiles : List PrinterProfileRecord) : List PrinterEvent :=
  profiles.filterMap fun p =>
    if p.agentPrinterId ∈ observedIds then none else (p.miss trace runId).2

section Profiles

variable {trace : Trace} {bindingId runId : String} {p q : PrinterProfileRecord}
  {o : PrinterObservation} {s : ProfileState} {t : Table PrinterProfileRecord.id}

theorem observe_id : (p.observe trace o).1.id = p.id := by
  unfold PrinterProfileRecord.observe
  split_ifs <;> rfl

theorem observe_agentBindingId : (p.observe trace o).1.agentBindingId = p.agentBindingId := by
  unfold PrinterProfileRecord.observe
  split_ifs <;> rfl

theorem observe_agentPrinterId : (p.observe trace o).1.agentPrinterId = p.agentPrinterId := by
  unfold PrinterProfileRecord.observe
  split_ifs <;> rfl

theorem miss_id : (p.miss trace runId).1.id = p.id := by
  unfold PrinterProfileRecord.miss
  split_ifs <;> rfl

theorem miss_agentBindingId : (p.miss trace runId).1.agentBindingId = p.agentBindingId := by
  unfold PrinterProfileRecord.miss
  split_ifs <;> rfl

theorem miss_agentPrinterId : (p.miss trace runId).1.agentPrinterId = p.agentPrinterId := by
  unfold PrinterProfileRecord.miss
  split_ifs <;> rfl

theorem profileOf_eq_some {agentPrinterId : String}
    (h : s.profileOf bindingId agentPrinterId = some p) :
    p ∈ s.profiles ∧ p.agentBindingId = bindingId ∧ p.agentPrinterId = agentPrinterId := by
  have hpair := List.find?_some h
  exact ⟨List.mem_of_find?_eq_some h, of_decide_eq_true hpair⟩

theorem profileOf_iff {agentPrinterId : String} (unique : UniquePairs s.profiles) :
    s.profileOf bindingId agentPrinterId = some p ↔
      p ∈ s.profiles ∧ p.agentBindingId = bindingId ∧ p.agentPrinterId = agentPrinterId := by
  refine ⟨profileOf_eq_some, ?_⟩
  rintro ⟨hmem, rfl, rfl⟩
  cases hfind : s.profileOf p.agentBindingId p.agentPrinterId with
  | none =>
    have hnone := List.find?_eq_none.mp hfind p hmem
    simp at hnone
  | some q =>
    obtain ⟨hq, hbinding, hprinter⟩ := profileOf_eq_some hfind
    rw [unique q hq p hmem hbinding hprinter]

theorem profileOf_eq_none {agentPrinterId : String} :
    s.profileOf bindingId agentPrinterId = none ↔
      ∀ p ∈ s.profiles, p.agentBindingId = bindingId → p.agentPrinterId ≠ agentPrinterId := by
  rw [ProfileState.profileOf, List.find?_eq_none]
  refine forall₂_congr fun p _ => ?_
  simp

/-- A change of a profile that keeps its identifier and its printer. -/
theorem mem_put_iff (hp : p ∈ t) (hid : q.id = p.id) {r : PrinterProfileRecord} :
    r ∈ t.put q ↔ ∃ p' ∈ t, r = if p' = p then q else p' := by
  have hfind : t.find? q.id = some p := hid ▸ Table.find?_of_mem hp
  rw [Table.mem_put_of_find? hfind]
  constructor
  · rintro (⟨hmem, hne⟩ | rfl)
    · refine ⟨r, hmem, (if_neg ?_).symm⟩
      rintro rfl
      exact hne hid.symm
    · exact ⟨p, hp, (if_pos rfl).symm⟩
  · rintro ⟨p', hmem, rfl⟩
    by_cases heq : p' = p
    · rw [if_pos heq]
      exact .inr rfl
    · rw [if_neg heq]
      refine .inl ⟨hmem, fun h => heq ?_⟩
      exact Table.eq_of_key_eq hmem hp (h.trans hid)

/-- A change of the profiles that keeps identifiers and printers keeps the pairs unique. -/
theorem UniquePairs.map {t' : Table PrinterProfileRecord.id} (unique : UniquePairs t)
    (f : PrinterProfileRecord → PrinterProfileRecord) (hf : ∀ p,
      (f p).agentBindingId = p.agentBindingId ∧ (f p).agentPrinterId = p.agentPrinterId)
    (hmem : ∀ r, r ∈ t' ↔ ∃ p ∈ t, r = f p) : UniquePairs t' := by
  intro r hr r' hr' hbinding hprinter
  obtain ⟨p, hp, rfl⟩ := (hmem r).mp hr
  obtain ⟨q, hq, rfl⟩ := (hmem r').mp hr'
  rw [(hf p).1, (hf q).1] at hbinding
  rw [(hf p).2, (hf q).2] at hprinter
  rw [unique p hp q hq hbinding hprinter]

theorem observeIn_keeps : (p.observeIn trace bindingId o).id = p.id ∧
    (p.observeIn trace bindingId o).agentBindingId = p.agentBindingId ∧
    (p.observeIn trace bindingId o).agentPrinterId = p.agentPrinterId := by
  unfold PrinterProfileRecord.observeIn
  split_ifs
  · exact ⟨observe_id, observe_agentBindingId, observe_agentPrinterId⟩
  · exact ⟨rfl, rfl, rfl⟩

theorem observeIn_of_ne (h : p.agentPrinterId ≠ o.agentPrinterId) :
    p.observeIn trace bindingId o = p := if_neg fun hpair => h hpair.2

end Profiles

/-! ## The loop over the observations -/

section Observations

variable {trace : Trace} {bindingId runId : String} {s s' : ProfileState} {o : PrinterObservation}
  {os : List PrinterObservation}

/-- Storing a profile fails only for its event. -/
theorem become_eq_ok {change : PrinterProfileRecord × Option PrinterEvent} :
    s.become change = .ok s' ↔
      ∃ events, s.events.recordAll auditEventKeyConflict change.2.toList = .ok events ∧
        s' = { s with profiles := s.profiles.put change.1, events } := by
  obtain ⟨profile, event⟩ := change
  cases event with
  | none =>
    constructor
    · intro h
      cases h
      exact ⟨s.events, rfl, rfl⟩
    · rintro ⟨events, hevents, rfl⟩
      cases hevents
      rfl
  | some event =>
    have hsingle : s.events.recordAll auditEventKeyConflict [event] =
        s.events.record auditEventKeyConflict event := by
      rw [Table.recordAll_cons]
      exact bind_pure _
    constructor
    · intro h
      obtain ⟨events, hevents, h⟩ := bind_eq_ok.mp h
      cases h
      exact ⟨events, hsingle.trans hevents, rfl⟩
    · rintro ⟨events, hevents, rfl⟩
      exact bind_eq_ok.mpr ⟨events, hsingle.symm.trans hevents, rfl⟩

/-- The profiles after an observation. -/
def ProfileState.observedProfiles (trace : Trace) (bindingId : String) (o : PrinterObservation)
    (s : ProfileState) : Table PrinterProfileRecord.id :=
  match s.profileOf bindingId o.agentPrinterId with
  | some p => s.profiles.put (p.observe trace o).1
  | none => s.profiles

theorem mem_observedProfiles (unique : UniquePairs s.profiles) {r : PrinterProfileRecord} :
    r ∈ s.observedProfiles trace bindingId o ↔
      ∃ p ∈ s.profiles, r = p.observeIn trace bindingId o := by
  unfold ProfileState.observedProfiles
  cases hfind : s.profileOf bindingId o.agentPrinterId with
  | none =>
    -- no profile is one of the printer
    have hsame : ∀ p ∈ s.profiles, p.observeIn trace bindingId o = p := by
      intro p hp
      exact if_neg fun hpair => profileOf_eq_none.mp hfind p hp hpair.1 hpair.2
    constructor
    · exact fun hr => ⟨r, hr, (hsame r hr).symm⟩
    · rintro ⟨p, hp, rfl⟩
      rwa [hsame p hp]
  | some q =>
    obtain ⟨hq, hbinding, hprinter⟩ := profileOf_eq_some hfind
    rw [mem_put_iff hq observe_id]
    refine exists_congr fun p => and_congr_right fun hp => ?_
    have hpair : (p.agentBindingId = bindingId ∧ p.agentPrinterId = o.agentPrinterId) ↔ p = q := by
      constructor
      · rintro ⟨hb, ha⟩
        exact unique p hp q hq (hb.trans hbinding.symm) (ha.trans hprinter.symm)
      · rintro rfl
        exact ⟨hbinding, hprinter⟩
    by_cases heq : p = q
    · rw [if_pos heq, PrinterProfileRecord.observeIn, if_pos (hpair.mpr heq), heq]
    · rw [if_neg heq, PrinterProfileRecord.observeIn, if_neg fun h => heq (hpair.mp h)]

/-- An observation leaves the profiles of the other printers. -/
theorem profileOf_observed (unique : UniquePairs s.profiles)
    (hmem : ∀ r, r ∈ s'.profiles ↔ ∃ p ∈ s.profiles, r = p.observeIn trace bindingId o)
    {agentPrinterId : String} (hne : agentPrinterId ≠ o.agentPrinterId) :
    s'.profileOf bindingId agentPrinterId = s.profileOf bindingId agentPrinterId := by
  have unique' := unique.map _ (fun p => observeIn_keeps.2) hmem
  ext p
  rw [profileOf_iff unique, profileOf_iff unique', hmem]
  constructor
  · rintro ⟨⟨q, hq, rfl⟩, hbinding, hprinter⟩
    rw [observeIn_keeps.2.2] at hprinter
    rw [observeIn_of_ne (hprinter ▸ hne)] at hbinding ⊢
    exact ⟨hq, hbinding, hprinter⟩
  · rintro ⟨hp, hbinding, hprinter⟩
    exact ⟨⟨p, hp, (observeIn_of_ne (hprinter ▸ hne)).symm⟩, hbinding, hprinter⟩

/-- One round of the loop fails only for the event of the profile. -/
theorem storeObservation_eq_ok {observations : Table PrinterDiscoveryObservationRecord.id}
    (hinsert : s.observations.insert ⟨runId, bindingId, o⟩ = some observations) :
    storeObservation trace bindingId runId s o = .ok s' ↔
      ∃ events, s.events.recordAll auditEventKeyConflict (observationEvents trace bindingId s [o]) =
          .ok events ∧
        s' = { s with
          observations
          profiles := s.observedProfiles trace bindingId o
          events } := by
  have hfound : found (s.observations.insert ⟨runId, bindingId, o⟩)
      (⟨.integrityError, ""⟩ : PyError) = .ok observations := found_eq_ok.mpr hinsert
  have hround : storeObservation trace bindingId runId s o =
      match s.profileOf bindingId o.agentPrinterId with
      | some p => ProfileState.become { s with observations } (p.observe trace o)
      | none => .ok { s with observations } := by
    rw [storeObservation, hfound]
    rfl
  rw [hround, observationEvents, List.filterMap_cons, List.filterMap_nil,
    ProfileState.observedProfiles]
  cases hfind : s.profileOf bindingId o.agentPrinterId with
  | none =>
    constructor
    · intro h
      cases h
      exact ⟨s.events, rfl, rfl⟩
    · rintro ⟨events, hevents, rfl⟩
      cases hevents
      rfl
  | some p =>
    simp only [Option.bind_some]
    exact become_eq_ok

/-- What the first loop changes: it adds the observations, and makes of every profile what the
observation of its printer makes of it. -/
structure Observed (trace : Trace) (bindingId runId : String) (os : List PrinterObservation)
    (s s' : ProfileState) : Prop where
  bindings : s'.bindings = s.bindings
  runs : s'.runs = s.runs
  jobs : s'.jobs = s.jobs
  observations : ∀ row, row ∈ s'.observations ↔ row ∈ s.observations ∨
    ∃ o ∈ os, row = ⟨runId, bindingId, o⟩
  profiles : ∀ p', p' ∈ s'.profiles ↔ ∃ p ∈ s.profiles,
    p' = os.foldl (PrinterProfileRecord.observeIn trace bindingId) p
  events : s.events.recordAll auditEventKeyConflict (observationEvents trace bindingId s os) =
    .ok s'.events

theorem Observed.nil : Observed trace bindingId runId [] s s where
  bindings := rfl
  runs := rfl
  jobs := rfl
  observations := by simp
  profiles := by simp
  events := rfl

theorem observationEvents_cons : observationEvents trace bindingId s (o :: os) =
    observationEvents trace bindingId s [o] ++ observationEvents trace bindingId s os := by
  rw [observationEvents, observationEvents, observationEvents, ← List.filterMap_append]
  rfl

/-- The loop over the observations fails only for an event. -/
theorem storeObservations_spec (unique : UniquePairs s.profiles)
    (hdistinct : (os.map PrinterObservation.agentPrinterId).Nodup)
    (hnew : ∀ o ∈ os, s.observations.find? (runId, o.agentPrinterId) = none) :
    (∀ s', os.foldlM (storeObservation trace bindingId runId) s = .ok s' →
      Observed trace bindingId runId os s s') ∧
    ((∃ events, s.events.recordAll auditEventKeyConflict (observationEvents trace bindingId s os) =
      .ok events) → ∃ s', os.foldlM (storeObservation trace bindingId runId) s = .ok s') := by
  induction os generalizing s with
  | nil =>
    refine ⟨fun s' h => ?_, fun _ => ⟨s, rfl⟩⟩
    cases h
    exact .nil
  | cons o os ih =>
    obtain ⟨hother, hdistinct⟩ := List.nodup_cons.mp hdistinct
    obtain ⟨observations, hinsert⟩ := Table.insert_isSome (t := s.observations)
      (r := ⟨runId, bindingId, o⟩) (hnew o List.mem_cons_self)
    have hround := fun s' => @storeObservation_eq_ok trace bindingId runId s s' o _ hinsert
    have hne : ∀ o' ∈ os, o'.agentPrinterId ≠ o.agentPrinterId := by
      intro o' ho' heq
      exact hother (heq ▸ List.mem_map_of_mem ho')
    -- what the rest of the loop finds after the first round
    have hrest : ∀ events, let s₁ : ProfileState := { s with
        observations
        profiles := s.observedProfiles trace bindingId o
        events }
        UniquePairs s₁.profiles ∧
        (∀ o' ∈ os, s₁.observations.find? (runId, o'.agentPrinterId) = none) ∧
        observationEvents trace bindingId s₁ os = observationEvents trace bindingId s os := by
      intro events s₁
      have hmem : ∀ r, r ∈ s₁.profiles ↔ ∃ p ∈ s.profiles, r = p.observeIn trace bindingId o :=
        fun r => mem_observedProfiles unique
      refine ⟨unique.map _ (fun p => observeIn_keeps.2) hmem, fun o' ho' => ?_, ?_⟩
      · have hkey : (runId, o'.agentPrinterId) ≠
            PrinterDiscoveryObservationRecord.id ⟨runId, bindingId, o⟩ :=
          fun h => hne o' ho' (congrArg Prod.snd h)
        exact (Table.find?_insert_ne hinsert hkey).trans (hnew o' (List.mem_cons_of_mem _ ho'))
      · refine List.filterMap_congr fun o' ho' => ?_
        rw [profileOf_observed unique hmem (hne o' ho')]
    constructor
    · intro s' h
      rw [List.foldlM_cons] at h
      obtain ⟨s₁, hfirst, h⟩ := bind_eq_ok.mp h
      obtain ⟨events, hevents, rfl⟩ := (hround s₁).mp hfirst
      obtain ⟨hunique₁, hnew₁, hsame⟩ := hrest events
      have hloop := (ih hunique₁ hdistinct hnew₁).1 s' h
      refine ⟨hloop.bindings, hloop.runs, hloop.jobs, fun row => ?_, fun p' => ?_, ?_⟩
      · rw [hloop.observations, Table.mem_insert hinsert, or_assoc]
        simp
      · rw [hloop.profiles]
        simp only [mem_observedProfiles unique, List.foldl_cons]
        constructor
        · rintro ⟨_, ⟨p, hp, rfl⟩, rfl⟩
          exact ⟨p, hp, rfl⟩
        · rintro ⟨p, hp, rfl⟩
          exact ⟨_, ⟨p, hp, rfl⟩, rfl⟩
      · rw [observationEvents_cons, Table.recordAll_append]
        exact bind_eq_ok.mpr ⟨events, hevents, hsame ▸ hloop.events⟩
    · rintro ⟨events', hevents'⟩
      rw [observationEvents_cons, Table.recordAll_append] at hevents'
      obtain ⟨events, hevents, hevents'⟩ := bind_eq_ok.mp hevents'
      obtain ⟨hunique₁, hnew₁, hsame⟩ := hrest events
      obtain ⟨s', h⟩ := (ih hunique₁ hdistinct hnew₁).2 ⟨events', hsame ▸ hevents'⟩
      refine ⟨s', ?_⟩
      rw [List.foldlM_cons]
      exact bind_eq_ok.mpr ⟨_, (hround _).mpr ⟨events, hevents, rfl⟩, h⟩

end Observations

/-! ## The loop over the profiles -/

section Missed

variable {trace : Trace} {bindingId runId : String} {s s' : ProfileState}
  {observedIds : List String} {p : PrinterProfileRecord} {profiles : List PrinterProfileRecord}

/-- What the second loop makes of a profile that it may come to. -/
def PrinterProfileRecord.missAmong (trace : Trace) (runId : String) (observedIds : List String)
    (profiles : List PrinterProfileRecord) (p : PrinterProfileRecord) : PrinterProfileRecord :=
  if p ∈ profiles ∧ p.agentPrinterId ∉ observedIds then (p.miss trace runId).1 else p

theorem missAmong_id : (p.missAmong trace runId observedIds profiles).id = p.id := by
  unfold PrinterProfileRecord.missAmong
  split_ifs
  · exact miss_id
  · rfl

/-- What the second loop changes. -/
structure Missed (trace : Trace) (runId : String) (observedIds : List String)
    (profiles : List PrinterProfileRecord) (s s' : ProfileState) : Prop where
  bindings : s'.bindings = s.bindings
  runs : s'.runs = s.runs
  jobs : s'.jobs = s.jobs
  observations : s'.observations = s.observations
  events : s.events.recordAll auditEventKeyConflict (missEvents trace runId observedIds profiles) =
    .ok s'.events
  profiles : ∀ p', p' ∈ s'.profiles ↔
    ∃ p ∈ s.profiles, p' = p.missAmong trace runId observedIds profiles

theorem missEvents_cons : missEvents trace runId observedIds (p :: profiles) =
    missEvents trace runId observedIds [p] ++ missEvents trace runId observedIds profiles := by
  rw [missEvents, missEvents, missEvents, ← List.filterMap_append]
  rfl

/-- One round of the loop fails only for the event of the profile. -/
theorem missProfile_eq_ok : missProfile trace runId observedIds s p = .ok s' ↔
    ∃ events, s.events.recordAll auditEventKeyConflict (missEvents trace runId observedIds [p]) =
        .ok events ∧
      s' = { s with
        profiles :=
          if p.agentPrinterId ∈ observedIds then s.profiles else s.profiles.put (p.miss trace runId).1
        events } := by
  rw [missProfile, missEvents, List.filterMap_cons, List.filterMap_nil]
  by_cases hobserved : p.agentPrinterId ∈ observedIds
  · simp only [if_pos hobserved]
    constructor
    · intro h
      cases h
      exact ⟨s.events, rfl, rfl⟩
    · rintro ⟨events, hevents, rfl⟩
      cases hevents
      rfl
  · simp only [if_neg hobserved]
    exact become_eq_ok

/-- One round of the loop changes the profile that it is at. -/
theorem mem_missed (hp : p ∈ s.profiles) {r : PrinterProfileRecord} :
    (r ∈ if p.agentPrinterId ∈ observedIds then s.profiles
      else s.profiles.put (p.miss trace runId).1) ↔
      ∃ q ∈ s.profiles, r = q.missAmong trace runId observedIds [p] := by
  by_cases hobserved : p.agentPrinterId ∈ observedIds
  · have hsame : ∀ q, PrinterProfileRecord.missAmong trace runId observedIds [p] q = q := by
      intro q
      refine if_neg ?_
      rintro ⟨hq, hnot⟩
      rw [List.mem_singleton.mp hq] at hnot
      exact hnot hobserved
    simp [hobserved, hsame]
  · rw [if_neg hobserved, mem_put_iff hp miss_id]
    refine exists_congr fun q => and_congr_right fun _ => ?_
    by_cases hq : q = p
    · rw [if_pos hq, PrinterProfileRecord.missAmong, hq, if_pos ⟨List.mem_singleton.mpr rfl, hobserved⟩]
    · rw [if_neg hq, PrinterProfileRecord.missAmong,
        if_neg fun h => hq (List.mem_singleton.mp h.1)]

theorem missAmong_cons (hnew : p.id ∉ profiles.map PrinterProfileRecord.id)
    (q : PrinterProfileRecord) :
    (q.missAmong trace runId observedIds [p]).missAmong trace runId observedIds profiles =
      q.missAmong trace runId observedIds (p :: profiles) := by
  by_cases hq : q = p
  · subst hq
    -- no profile with its identifier is left
    have hlast : ∀ r : PrinterProfileRecord, r.id = q.id →
        r.missAmong trace runId observedIds profiles = r := by
      intro r hid
      refine if_neg fun h => hnew ?_
      rw [← hid]
      exact List.mem_map_of_mem h.1
    rw [hlast _ missAmong_id, PrinterProfileRecord.missAmong, PrinterProfileRecord.missAmong]
    simp
  · have hfirst : q.missAmong trace runId observedIds [p] = q :=
      if_neg fun h => hq (List.mem_singleton.mp h.1)
    rw [hfirst, PrinterProfileRecord.missAmong, PrinterProfileRecord.missAmong]
    simp [hq]

/-- The loop over the profiles fails only for an event. -/
theorem missProfiles_spec (hids : (profiles.map PrinterProfileRecord.id).Nodup)
    (hmem : ∀ p ∈ profiles, p ∈ s.profiles) :
    (∀ s', profiles.foldlM (missProfile trace runId observedIds) s = .ok s' →
      Missed trace runId observedIds profiles s s') ∧
    ((∃ events, s.events.recordAll auditEventKeyConflict
        (missEvents trace runId observedIds profiles) = .ok events) →
      ∃ s', profiles.foldlM (missProfile trace runId observedIds) s = .ok s') := by
  induction profiles generalizing s with
  | nil =>
    refine ⟨fun s' h => ?_, fun _ => ⟨s, rfl⟩⟩
    cases h
    exact ⟨rfl, rfl, rfl, rfl, rfl, by simp [PrinterProfileRecord.missAmong]⟩
  | cons p profiles ih =>
    obtain ⟨hnew, hids⟩ := List.nodup_cons.mp hids
    have hp := hmem p List.mem_cons_self
    have hround := fun s' => @missProfile_eq_ok trace runId s s' observedIds p
    -- the rest of the profiles is there after the first round
    have hrest : ∀ events, ∀ q ∈ profiles, q ∈ ({ s with
        profiles :=
          if p.agentPrinterId ∈ observedIds then s.profiles else s.profiles.put (p.miss trace runId).1
        events } : ProfileState).profiles := by
      intro events q hq
      refine (mem_missed hp).mpr ⟨q, hmem q (List.mem_cons_of_mem _ hq), (if_neg ?_).symm⟩
      rintro ⟨heq, -⟩
      rw [List.mem_singleton.mp heq] at hq
      exact hnew (List.mem_map_of_mem hq)
    constructor
    · intro s' h
      rw [List.foldlM_cons] at h
      obtain ⟨s₁, hfirst, h⟩ := bind_eq_ok.mp h
      obtain ⟨events, hevents, rfl⟩ := (hround s₁).mp hfirst
      have hloop := (ih hids (hrest events)).1 s' h
      refine ⟨hloop.bindings, hloop.runs, hloop.jobs, hloop.observations, ?_, fun p' => ?_⟩
      · rw [missEvents_cons, Table.recordAll_append]
        exact bind_eq_ok.mpr ⟨events, hevents, hloop.events⟩
      · rw [hloop.profiles]
        simp only [mem_missed hp]
        constructor
        · rintro ⟨_, ⟨q, hq, rfl⟩, rfl⟩
          exact ⟨q, hq, missAmong_cons hnew q⟩
        · rintro ⟨q, hq, rfl⟩
          exact ⟨_, ⟨q, hq, rfl⟩, (missAmong_cons hnew q).symm⟩
    · rintro ⟨events', hevents'⟩
      rw [missEvents_cons, Table.recordAll_append] at hevents'
      obtain ⟨events, hevents, hevents'⟩ := bind_eq_ok.mp hevents'
      obtain ⟨s', h⟩ := (ih hids (hrest events)).2 ⟨events', hevents'⟩
      refine ⟨s', ?_⟩
      rw [List.foldlM_cons]
      exact bind_eq_ok.mpr ⟨_, (hround _).mpr ⟨events, hevents, rfl⟩, h⟩

end Missed

/-! ## The events -/

section Events

variable {trace : Trace} {bindingId runId : String} {s : ProfileState} {p : PrinterProfileRecord}
  {o : PrinterObservation} {os : List PrinterObservation} {event : PrinterEvent}
  {observedIds : List String} {profiles : List PrinterProfileRecord}

/-- The run at whose end an event is recorded, where its key names it. -/
def EventKey.runOf : EventKey → Option String
  | completed runId | failed runId _ | missingInRun _ runId => some runId
  | requested _ | missing _ _ | stale _ _ | approved _ _ _ | disabled _ _ => none

/-- The profile that an event is about. -/
def EventKey.profileOf : EventKey → Option String
  | missing profileId _ | stale profileId _ | missingInRun profileId _ | approved profileId _ _
  | disabled profileId _ => some profileId
  | requested _ | completed _ | failed _ _ => none

/-- What an observation records of a profile. -/
theorem observe_event_iff : (p.observe trace o).2 = some event ↔ p.state ≠ .disabled ∧
    (o.availabilityState ≠ .available ∧ p.state ≠ .missing ∧
        event = unavailableEvent trace p o ∨
      o.availabilityState = .available ∧ p.matches o = false ∧ p.state ≠ .stale ∧
        event = changedEvent trace p o) := by
  unfold PrinterProfileRecord.observe
  by_cases hdisabled : p.state = .disabled
  · simp [hdisabled]
  · by_cases havailable : o.availabilityState = .available
    · by_cases hmatches : p.matches o = true
      · simp [hdisabled, havailable, hmatches]
      · by_cases hstale : p.state = .stale
        · simp [havailable, hmatches, hstale]
        · simp [hdisabled, havailable, hmatches, hstale, eq_comm (a := event)]
    · by_cases hmissing : p.state = .missing
      · simp [havailable, hmissing]
      · simp [hdisabled, havailable, hmissing, eq_comm (a := event)]

theorem mem_observationEvents (h : event ∈ observationEvents trace bindingId s os) :
    ∃ o ∈ os, ∃ p, s.profileOf bindingId o.agentPrinterId = some p ∧
      (p.observe trace o).2 = some event := by
  obtain ⟨o, ho, hevent⟩ := List.mem_filterMap.mp h
  obtain ⟨p, hp, hevent⟩ := Option.bind_eq_some_iff.mp hevent
  exact ⟨o, ho, p, hp, hevent⟩

theorem observe_event_key (h : (p.observe trace o).2 = some event) :
    event.key.runOf = none ∧ event.key.profileOf = some p.id := by
  obtain ⟨-, ⟨-, -, rfl⟩ | ⟨-, -, -, rfl⟩⟩ := observe_event_iff.mp h
  · exact ⟨rfl, rfl⟩
  · exact ⟨rfl, rfl⟩

/-- The events of an observation have different keys: they are about different profiles. -/
theorem observationEvents_nodup (hdistinct : (os.map PrinterObservation.agentPrinterId).Nodup) :
    ((observationEvents trace bindingId s os).map PrinterEvent.key).Nodup := by
  rw [List.Nodup, List.pairwise_map, observationEvents, List.pairwise_filterMap]
  refine (List.pairwise_map.mp hdistinct).imp fun {o o'} hne event hevent event' hevent' heq => ?_
  obtain ⟨p, hp, hevent⟩ := Option.bind_eq_some_iff.mp hevent
  obtain ⟨p', hp', hevent'⟩ := Option.bind_eq_some_iff.mp hevent'
  obtain ⟨hmem, -, hprinter⟩ := profileOf_eq_some hp
  obtain ⟨hmem', -, hprinter'⟩ := profileOf_eq_some hp'
  have hid : p.id = p'.id := by
    have hprofile := (observe_event_key hevent).2
    rw [heq, (observe_event_key hevent').2] at hprofile
    exact (Option.some.inj hprofile).symm
  obtain rfl := Table.eq_of_key_eq hmem hmem' hid
  exact hne (hprinter.symm.trans hprinter')

theorem mem_missEvents (h : event ∈ missEvents trace runId observedIds profiles) :
    ∃ p ∈ profiles, event = notObservedEvent trace p runId := by
  obtain ⟨p, hp, hevent⟩ := List.mem_filterMap.mp h
  by_cases hobserved : p.agentPrinterId ∈ observedIds
  · rw [if_pos hobserved] at hevent
    cases hevent
  · rw [if_neg hobserved, PrinterProfileRecord.miss] at hevent
    split_ifs at hevent
    exact ⟨p, hp, (Option.some.inj hevent).symm⟩

theorem missEvents_nodup (hids : (profiles.map PrinterProfileRecord.id).Nodup) :
    ((missEvents trace runId observedIds profiles).map PrinterEvent.key).Nodup := by
  rw [List.Nodup, List.pairwise_map, missEvents, List.pairwise_filterMap]
  refine (List.pairwise_map.mp hids).imp fun {p p'} hne event hevent event' hevent' heq => hne ?_
  have hkey (q : PrinterProfileRecord) (e : PrinterEvent) (h : (if q.agentPrinterId ∈ observedIds
      then none else (q.miss trace runId).2) = some e) : e.key = .missingInRun q.id runId := by
    rw [PrinterProfileRecord.miss] at h
    split_ifs at h
    cases h
    rfl
  rw [hkey p event hevent, hkey p' event' hevent'] at heq
  exact (EventKey.missingInRun.inj heq).1

end Events

/-! ## The result -/

section Result

variable {platform : Platform} {trace : Trace} {now : ℤ} {bindingId runId : String}
  {job : AgentJobRecord} {run : PrinterDiscoveryRunRecord} {os : List PrinterObservation}
  {s s' : ProfileState} {p : PrinterProfileRecord}

/-- What a result makes of a profile. -/
def PrinterProfileRecord.afterResult (trace : Trace) (bindingId runId : String)
    (os : List PrinterObservation) (p : PrinterProfileRecord) : PrinterProfileRecord :=
  let observed := os.foldl (PrinterProfileRecord.observeIn trace bindingId) p
  if p.agentBindingId = bindingId ∧ p.agentPrinterId ∉ os.map PrinterObservation.agentPrinterId
  then (observed.miss trace runId).1 else observed

theorem foldl_observeIn_keeps :
    (os.foldl (PrinterProfileRecord.observeIn trace bindingId) p).agentBindingId =
        p.agentBindingId ∧
      (os.foldl (PrinterProfileRecord.observeIn trace bindingId) p).agentPrinterId =
        p.agentPrinterId := by
  induction os generalizing p with
  | nil => exact ⟨rfl, rfl⟩
  | cons o os ih =>
    obtain ⟨-, hbinding, hprinter⟩ := @observeIn_keeps trace bindingId p o
    exact ⟨ih.1.trans hbinding, ih.2.trans hprinter⟩

theorem afterResult_keeps : (p.afterResult trace bindingId runId os).agentBindingId =
      p.agentBindingId ∧
    (p.afterResult trace bindingId runId os).agentPrinterId = p.agentPrinterId := by
  unfold PrinterProfileRecord.afterResult
  split_ifs
  · exact ⟨miss_agentBindingId.trans foldl_observeIn_keeps.1,
      miss_agentPrinterId.trans foldl_observeIn_keeps.2⟩
  · exact foldl_observeIn_keeps

/-- What `storeResult` changes. -/
structure Stored (platform : Platform) (trace : Trace) (now : ℤ) (job : AgentJobRecord)
    (run : PrinterDiscoveryRunRecord) (os : List PrinterObservation) (s s' : ProfileState) :
    Prop where
  bindings : s'.bindings = s.bindings
  runs : s'.runs = s.runs.put (run.complete now os.length)
  jobs : s'.jobs = s.jobs.put (job.complete (platform.resultHash os))
  observations : ∀ row, row ∈ s'.observations ↔ row ∈ s.observations ∨
    ∃ o ∈ os, row = ⟨run.id, job.agentBindingId, o⟩
  profiles : ∀ p', p' ∈ s'.profiles ↔ ∃ p ∈ s.profiles,
    p' = p.afterResult trace job.agentBindingId run.id os
  events : ∀ event ∈ s'.events, event ∈ s.events ∨
    event ∈ observationEvents trace job.agentBindingId s os ∨ event.key.runOf = some run.id
  recorded : ∀ event ∈ observationEvents trace job.agentBindingId s os, s.events.Accepts event

/-- The observations have no rows yet. -/
theorem find?_of_no_rows {observations : Table PrinterDiscoveryObservationRecord.id}
    (hnew : ∀ row ∈ observations, row.discoveryRunId ≠ runId) (agentPrinterId : String) :
    observations.find? (runId, agentPrinterId) = none :=
  Table.find?_eq_none_iff.mpr fun row hrow h => hnew row hrow (congrArg Prod.fst h)

theorem storeResult_spec (unique : UniquePairs s.profiles)
    (hdistinct : (os.map PrinterObservation.agentPrinterId).Nodup)
    (hnew : ∀ row ∈ s.observations, row.discoveryRunId ≠ run.id)
    (h : storeResult platform trace now job run os s = .ok s') :
    Stored platform trace now job run os s s' := by
  obtain ⟨s₁, hfirst, h⟩ := bind_eq_ok.mp h
  obtain ⟨s₂, hsecond, h⟩ := bind_eq_ok.mp h
  obtain ⟨events, hevents, h⟩ := bind_eq_ok.mp h
  cases h
  have observed := (storeObservations_spec unique hdistinct fun o _ =>
    find?_of_no_rows hnew o.agentPrinterId).1 s₁ hfirst
  have hids := s₁.profiles.nodup.sublist ((List.filter_sublist (p := fun profile =>
    decide (profile.agentBindingId = job.agentBindingId))).map PrinterProfileRecord.id)
  have missed := (missProfiles_spec hids fun q hq => (List.mem_filter.mp hq).1).1 s₂ hsecond
  refine ⟨missed.bindings.trans observed.bindings, ?_, ?_, fun row => ?_, fun p' => ?_,
    fun event hevent => ?_, ?_⟩
  · exact congrArg (Table.put · _) (missed.runs.trans observed.runs)
  · exact congrArg (Table.put · _) (missed.jobs.trans observed.jobs)
  · rw [← observed.observations]
    exact iff_of_eq (congrArg (row ∈ ·) missed.observations)
  · rw [missed.profiles]
    have hsame : ∀ p, os.foldl (PrinterProfileRecord.observeIn trace job.agentBindingId) p ∈
        s₁.profiles → (os.foldl (PrinterProfileRecord.observeIn trace job.agentBindingId)
          p).missAmong trace run.id (os.map PrinterObservation.agentPrinterId)
          (s₁.profiles.rows.filter fun q => q.agentBindingId = job.agentBindingId) =
        p.afterResult trace job.agentBindingId run.id os := by
      intro p hp
      have hkeeps := @foldl_observeIn_keeps trace job.agentBindingId os p
      refine if_congr (and_congr ?_ ?_) rfl rfl
      · rw [List.mem_filter, hkeeps.1, decide_eq_true_eq]
        exact and_iff_right hp
      · rw [hkeeps.2]
    constructor
    · rintro ⟨q, hq, rfl⟩
      obtain ⟨p, hp, rfl⟩ := (observed.profiles q).mp hq
      exact ⟨p, hp, hsame p hq⟩
    · rintro ⟨p, hp, rfl⟩
      have hq := (observed.profiles _).mpr ⟨p, hp, rfl⟩
      exact ⟨_, hq, (hsame p hq).symm⟩
  · rcases ((Table.record_eq_ok hevents).2 event).mp hevent with hevent | rfl
    · rcases (Table.mem_recordAll missed.events event).mp hevent with hevent | hevent
      · rcases (Table.mem_recordAll observed.events event).mp hevent with hevent | hevent
        · exact .inl hevent
        · exact .inr (.inl hevent)
      · obtain ⟨q, -, rfl⟩ := mem_missEvents hevent
        exact .inr (.inr rfl)
    · exact .inr (.inr rfl)
  · exact (Table.recordAll_isOk_iff (observationEvents_nodup hdistinct)).mp ⟨_, observed.events⟩

/-- A result is stored if the events of its observations are accepted, and nothing is recorded
for the end of its run yet. -/
theorem storeResult_isOk (unique : UniquePairs s.profiles)
    (hdistinct : (os.map PrinterObservation.agentPrinterId).Nodup)
    (hnew : ∀ row ∈ s.observations, row.discoveryRunId ≠ run.id)
    (hopen : ∀ event ∈ s.events, event.key.runOf ≠ some run.id)
    (hrecorded : ∀ event ∈ observationEvents trace job.agentBindingId s os,
      s.events.Accepts event) :
    ∃ s', storeResult platform trace now job run os s = .ok s' := by
  have hloop := @storeObservations_spec trace job.agentBindingId run.id s os unique hdistinct
    fun o _ => find?_of_no_rows hnew o.agentPrinterId
  obtain ⟨s₁, hfirst⟩ := hloop.2
    ((Table.recordAll_isOk_iff (observationEvents_nodup hdistinct)).mpr hrecorded)
  have observed := hloop.1 s₁ hfirst
  -- the events of the observations are recorded for no run
  have hopen₁ : ∀ event ∈ s₁.events, event.key.runOf ≠ some run.id := by
    intro event hevent
    rcases (Table.mem_recordAll observed.events event).mp hevent with hevent | hevent
    · exact hopen event hevent
    · obtain ⟨o, -, p, -, hevent⟩ := mem_observationEvents hevent
      rw [(observe_event_key hevent).1]
      exact nofun
  have hids := s₁.profiles.nodup.sublist ((List.filter_sublist (p := fun profile =>
    decide (profile.agentBindingId = job.agentBindingId))).map PrinterProfileRecord.id)
  have hmisses := @missProfiles_spec trace run.id s₁ (os.map PrinterObservation.agentPrinterId) _
    hids fun q hq => (List.mem_filter.mp hq).1
  have hmissEvents : ∀ event ∈ missEvents trace run.id
      (os.map PrinterObservation.agentPrinterId) (s₁.profiles.rows.filter fun q =>
        q.agentBindingId = job.agentBindingId), s₁.events.Accepts event := by
    intro event hevent stored hstored hkey
    obtain ⟨p, -, rfl⟩ := mem_missEvents hevent
    exact absurd (congrArg EventKey.runOf hkey) (hopen₁ stored hstored)
  obtain ⟨s₂, hsecond⟩ := hmisses.2
    ((Table.recordAll_isOk_iff (missEvents_nodup hids)).mpr hmissEvents)
  have missed := hmisses.1 s₂ hsecond
  have hcompleted : s₂.events.Accepts
      (completedEvent trace job.agentBindingId run.id os.length) := by
    intro stored hstored hkey
    rcases (Table.mem_recordAll missed.events stored).mp hstored with hstored | hstored
    · exact absurd (congrArg EventKey.runOf hkey) (hopen₁ stored hstored)
    · obtain ⟨p, -, rfl⟩ := mem_missEvents hstored
      cases hkey
  obtain ⟨events, hrecord⟩ := Table.record_of_accepts hcompleted
  exact ⟨_, bind_eq_ok.mpr ⟨s₁, hfirst, bind_eq_ok.mpr ⟨s₂, hsecond,
    bind_eq_ok.mpr ⟨events, hrecord, rfl⟩⟩⟩⟩

end Result

end Wbcz.PrinterProfiles
