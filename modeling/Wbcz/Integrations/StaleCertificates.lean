import Wbcz.Integrations.Certificates
import Wbcz.Lib.Upserts

/-!
# Certificates classified by an older observation

`certificate_status` makes a dictionary of the rows of a binding that it reads newest first, so the
row it keeps for a thumbprint is the oldest one; `select_certificate` reads the newest one. The two
agree where a thumbprint has one row. A health result adds a row for its certificate whether or not
there is one already, which an inventory does not do.
-/

namespace Wbcz.Certificates

open Fallible (bind_eq_ok ensure_eq_ok found_eq_ok map_eq_ok)
open Transition (Run Accepts)
open Upserts (Write keysAfter AppendedFirst)

/-! ## The status by the newest rows -/

/-- The codes that report a certificate as ready. -/
def StatusCode.reportsReady : StatusCode → Bool
  | activeReady | selectedPendingApply | discoveredReady => true
  | notReady | selectionRequired => false

/-- The status reads the newest row of every current thumbprint, as the selection does, whatever
orders the two queries get. -/
structure Faithful (w : World) : Prop where
  classified : w.online = true → ∀ o o' : Descending Observation.observedAt,
    w.currentRows o =
      w.capabilities.certificateCurrentThumbprints.filterMap (newest o' w.observations)
  /-- A certificate is reported as ready by its newest row. -/
  sound : ∀ o o' : Descending Observation.observedAt,
    (certificateStatus w o).status.reportsReady = true →
      ∃ row, (certificateStatus w o).observation = some row ∧
        row.thumbprint ∈ w.capabilities.certificateCurrentThumbprints ∧
        newest o' w.observations row.thumbprint = some row ∧ row.readinessState = .ready
  /-- A certificate whose newest row is ready is not kept back by another row. -/
  complete : ∀ (o o' : Descending Observation.observedAt) (row : Observation), w.online = true →
    row.thumbprint ∈ w.capabilities.certificateCurrentThumbprints →
    newest o' w.observations row.thumbprint = some row → row.readinessState = .ready →
    row ∈ (certificateStatus w o).candidates ∧
      (w.connection?.bind (·.desired) = none →
        (certificateStatus w o).status ∈ [.selectionRequired, .discoveredReady]) ∧
      ∀ conn, w.connection? = some conn → conn.desired = some row.thumbprint →
        (certificateStatus w o).observation = some row ∧
          (conn.certificateSelectionState = .ready →
            (certificateStatus w o).status = .activeReady) ∧
          (conn.certificateSelectionState = .pendingLocalApply →
            (certificateStatus w o).status = .selectedPendingApply)

section Rows

variable {w : World} {o o' : Descending Observation.observedAt} {thumbprint : String}
  {row : Observation}

/-- The thumbprints of the rows of the binding. -/
def World.thumbprints (w : World) : List String := w.observations.rows.map (·.thumbprint)

theorem mem_of_newest {observations : Table Observation.id}
    (h : newest o observations thumbprint = some row) :
    row ∈ observations ∧ row.thumbprint = thumbprint := by
  have hmem := List.mem_filter.mp (Descending.mem_of_first h)
  exact ⟨hmem.1, of_decide_eq_true hmem.2⟩

theorem newest_eq_none {observations : Table Observation.id} :
    newest o observations thumbprint = none ↔
      thumbprint ∉ observations.rows.map (·.thumbprint) := by
  constructor
  · intro h hmem
    obtain ⟨row, hrow, rfl⟩ := List.mem_map.mp hmem
    have hfilter : row ∈ observations.rows.filter (·.thumbprint = row.thumbprint) :=
      List.mem_filter.mpr ⟨hrow, decide_eq_true rfl⟩
    have hsome := Descending.first_isSome (o := o) hfilter
    rw [newest] at h
    rw [h] at hsome
    cases hsome
  · intro h
    cases hnewest : newest o observations thumbprint with
    | none => rfl
    | some row =>
      have hrow := mem_of_newest hnewest
      exact absurd (List.mem_map.mpr ⟨row, hrow.1, hrow.2⟩) h

/-- A list without repetitions has one element at most exactly when all are the same. -/
theorem length_le_one_iff_of_nodup {α : Type*} {xs : List α} (h : xs.Nodup) :
    xs.length ≤ 1 ↔ ∀ a ∈ xs, ∀ b ∈ xs, a = b := by
  match xs, h with
  | [], _ => simp
  | [a], _ => simp
  | a :: b :: rest, h =>
    refine iff_of_false (by simp) fun heq => ?_
    have hab := heq a (by simp) b (by simp)
    exact (List.nodup_cons.mp h).1 (hab ▸ List.mem_cons_self)

/-- The rows of a thumbprint are counted by the thumbprints. -/
theorem count_thumbprints (w : World) (thumbprint : String) :
    w.thumbprints.count thumbprint =
      (w.observations.rows.filter (·.thumbprint = thumbprint)).length := by
  rw [World.thumbprints, List.count, List.countP_map, List.countP_eq_length_filter]
  refine congrArg List.length (List.filter_congr fun row _ => ?_)
  simp only [Function.comp, beq_eq_decide]

/-- The two readings of a current thumbprint agree in all orders exactly when it has one row. -/
theorem newest_eq_lastWhere_iff
    (hcurrent : thumbprint ∈ w.capabilities.certificateCurrentThumbprints) :
    (∀ o o' : Descending Observation.observedAt,
      newest o w.observations thumbprint =
        o'.lastWhere (w.observations.rows.filter fun row =>
          row.thumbprint ∈ w.capabilities.certificateCurrentThumbprints)
          (·.thumbprint = thumbprint)) ↔
      w.thumbprints.count thumbprint ≤ 1 := by
  rw [count_thumbprints, length_le_one_iff_of_nodup (w.observations.nodup.of_map.filter _)]
  refine Descending.first_eq_lastWhere_iff fun row => ?_
  simp only [List.mem_filter, decide_eq_true_eq]
  constructor
  · rintro ⟨hrow, rfl⟩
    exact ⟨⟨hrow, hcurrent⟩, rfl⟩
  · rintro ⟨⟨hrow, -⟩, hthumb⟩
    exact ⟨hrow, hthumb⟩

/-- Both readings find a row of a current thumbprint, or neither does. -/
theorem isSome_lastWhere
    (hcurrent : thumbprint ∈ w.capabilities.certificateCurrentThumbprints) :
    (o.lastWhere (w.observations.rows.filter fun row =>
        row.thumbprint ∈ w.capabilities.certificateCurrentThumbprints)
        (·.thumbprint = thumbprint)).isSome =
      (newest o' w.observations thumbprint).isSome := by
  cases hnewest : newest o' w.observations thumbprint with
  | none =>
    rw [Option.isSome_none, Option.isSome_eq_false_iff, Option.isNone_iff_eq_none]
    refine Option.eq_none_iff_forall_ne_some.mpr fun row hlast => ?_
    obtain ⟨hrow, hthumb⟩ := Descending.mem_of_lastWhere hlast
    refine newest_eq_none.mp hnewest (List.mem_map.mpr ⟨row, ?_, of_decide_eq_true hthumb⟩)
    exact (List.mem_filter.mp hrow).1
  | some row =>
    obtain ⟨hrow, hthumb⟩ := mem_of_newest hnewest
    have hfilter : row ∈ w.observations.rows.filter fun row =>
        row.thumbprint ∈ w.capabilities.certificateCurrentThumbprints :=
      List.mem_filter.mpr ⟨hrow, decide_eq_true (hthumb ▸ hcurrent)⟩
    exact Descending.lastWhere_isSome hfilter (decide_eq_true hthumb)

theorem filterMap_eq_filterMap_iff {α β : Type*} {f g : α → Option β} {xs : List α}
    (h : ∀ x ∈ xs, (f x).isSome = (g x).isSome) :
    xs.filterMap f = xs.filterMap g ↔ ∀ x ∈ xs, f x = g x := by
  refine ⟨?_, List.filterMap_congr⟩
  induction xs with
  | nil => simp
  | cons x xs ih =>
    have hx := h x List.mem_cons_self
    have ih := ih fun y hy => h y (List.mem_cons_of_mem x hy)
    intro heq
    cases hf : f x with
    | none =>
      have hg : g x = none := by
        rw [hf] at hx
        exact Option.isNone_iff_eq_none.mp (Option.isSome_eq_false_iff.mp hx.symm)
      rw [List.filterMap_cons_none hf, List.filterMap_cons_none hg] at heq
      exact List.forall_mem_cons.mpr ⟨hf.trans hg.symm, ih heq⟩
    | some a =>
      rw [hf] at hx
      obtain ⟨b, hg⟩ := Option.isSome_iff_exists.mp hx.symm
      rw [List.filterMap_cons_some hf, List.filterMap_cons_some hg] at heq
      obtain ⟨hhead, htail⟩ := List.cons.inj heq
      exact List.forall_mem_cons.mpr ⟨by rw [hf, hg, hhead], ih htail⟩

/-- The current rows are the newest ones in all orders exactly when every current thumbprint has
one row at most. -/
theorem classified_iff :
    (∀ o o' : Descending Observation.observedAt, w.currentRows o =
        w.capabilities.certificateCurrentThumbprints.filterMap (newest o' w.observations)) ↔
      ∀ thumbprint ∈ w.capabilities.certificateCurrentThumbprints,
        w.thumbprints.count thumbprint ≤ 1 := by
  have hpoint : ∀ o o' : Descending Observation.observedAt, w.currentRows o =
        w.capabilities.certificateCurrentThumbprints.filterMap (newest o' w.observations) ↔
      ∀ thumbprint ∈ w.capabilities.certificateCurrentThumbprints,
        o.lastWhere (w.observations.rows.filter fun row =>
            row.thumbprint ∈ w.capabilities.certificateCurrentThumbprints)
          (·.thumbprint = thumbprint) = newest o' w.observations thumbprint :=
    fun o o' => filterMap_eq_filterMap_iff fun thumbprint hcurrent => isSome_lastWhere hcurrent
  constructor
  · intro h thumbprint hcurrent
    refine (newest_eq_lastWhere_iff hcurrent).mp fun o o' => ?_
    exact ((hpoint o' o).mp (h o' o) thumbprint hcurrent).symm
  · intro h o o'
    refine (hpoint o o').mpr fun thumbprint hcurrent => ?_
    exact ((newest_eq_lastWhere_iff hcurrent).mpr (h thumbprint hcurrent) o' o).symm

end Rows

/-! ## What the status says of the rows it reads -/

section Status

variable {w : World} {current : List Observation} {row : Observation}

theorem mem_eligibleRows :
    row ∈ eligibleRows current ↔ row ∈ current ∧ row.readinessState = .ready := by
  simp [eligibleRows]

theorem of_selectedRow {desired : Option String} (h : selectedRow current desired = some row) :
    row ∈ current ∧ row.readinessState = .ready := by
  unfold selectedRow at h
  split at h
  · rename_i row' hrow
    cases h
    obtain ⟨hfind, hready⟩ := Option.filter_eq_some_iff.mp hrow
    obtain ⟨thumbprint, -, hfind⟩ := Option.bind_eq_some_iff.mp hfind
    exact ⟨List.mem_of_find?_eq_some hfind, of_decide_eq_true hready⟩
  · split at h
    · exact mem_eligibleRows.mp (List.mem_of_head? h)
    · cases h

/-- What a ready code tells of the rows it was made from. -/
theorem classify_ready {eligible : List Observation} {desired : Option String}
    {desiredCurrent selected : Option Observation} {selectionState : SelectionState}
    (h : (classify current eligible desired desiredCurrent selected selectionState).1.reportsReady =
      true) :
    eligible ≠ [] ∧ (selected.isSome = true ∨ desired = none ∧ eligible.length ≤ 1) := by
  unfold classify at h
  split at h
  · cases h
  · split at h
    · cases h
    · rename_i heligible
      refine ⟨heligible, ?_⟩
      split at h
      · cases selected with
        | none => cases h
        | some row => exact .inl rfl
      · rename_i hdesired
        split at h
        · cases h
        · rename_i hlength
          exact .inr ⟨by simpa using hdesired, Nat.not_lt.mp hlength⟩

/-- A certificate that is reported as ready is a row that says so. -/
theorem statusOf_sound (h : (w.statusOf current).status.reportsReady = true) :
    ∃ row ∈ current, (w.statusOf current).observation = some row ∧
      row.readinessState = .ready := by
  obtain ⟨heligible, hcases⟩ := classify_ready h
  have hselected : (selectedRow current (w.connection?.bind (·.desired))).isSome = true := by
    rcases hcases with hselected | ⟨hdesired, hlength⟩
    · exact hselected
    · have hlength : (eligibleRows current).length = 1 :=
        le_antisymm hlength (List.length_pos_of_ne_nil heligible)
      rw [hdesired, selectedRow, desiredRow, Option.bind_none, Option.filter_none]
      simp only [hlength, and_self, if_true]
      exact List.isSome_head?.mpr heligible
  obtain ⟨row, hrow⟩ := Option.isSome_iff_exists.mp hselected
  obtain ⟨hmem, hready⟩ := of_selectedRow hrow
  refine ⟨row, hmem, ?_, hready⟩
  show (selectedRow current _).or _ = _
  rw [hrow, Option.some_or]

/-- Where a row is ready and no certificate is desired, the status does not say otherwise. -/
theorem statusOf_undesired (hrow : row ∈ current) (hready : row.readinessState = .ready)
    (hdesired : w.connection?.bind (·.desired) = none) :
    (w.statusOf current).status ∈ [StatusCode.selectionRequired, .discoveredReady] := by
  have hcurrent : current ≠ [] := List.ne_nil_of_mem hrow
  have heligible : eligibleRows current ≠ [] :=
    List.ne_nil_of_mem (mem_eligibleRows.mpr ⟨hrow, hready⟩)
  simp only [World.statusOf, hdesired, classify, if_neg hcurrent, if_neg heligible,
    Option.isSome_none, Bool.false_eq_true, if_false]
  split
  · exact List.mem_cons_self
  · exact List.mem_cons_of_mem _ List.mem_cons_self

/-- Where the only row of the desired certificate is ready, it is the one reported, and the state
of the selection decides. -/
theorem statusOf_desired {conn : Connection} (hrow : row ∈ current)
    (hready : row.readinessState = .ready)
    (honly : ∀ other ∈ current, other.thumbprint = row.thumbprint → other = row)
    (hconn : w.connection? = some conn) (hdesired : conn.desired = some row.thumbprint) :
    (w.statusOf current).observation = some row ∧
      (conn.certificateSelectionState = .ready → (w.statusOf current).status = .activeReady) ∧
      (conn.certificateSelectionState = .pendingLocalApply →
        (w.statusOf current).status = .selectedPendingApply) := by
  have hcurrent : current ≠ [] := List.ne_nil_of_mem hrow
  have heligible : eligibleRows current ≠ [] :=
    List.ne_nil_of_mem (mem_eligibleRows.mpr ⟨hrow, hready⟩)
  have hfind : desiredRow current (some row.thumbprint) = some row := by
    rw [desiredRow, Option.bind_some]
    cases hfound : current.find? (·.thumbprint = row.thumbprint) with
    | none => exact absurd (List.find?_eq_none.mp hfound row hrow) (by simp)
    | some other =>
      rw [honly other (List.mem_of_find?_eq_some hfound) (by simpa using List.find?_some hfound)]
  have hselected : selectedRow current (some row.thumbprint) = some row := by
    rw [selectedRow, hfind, Option.filter_some, if_pos (decide_eq_true hready)]
  simp only [World.statusOf, hconn, Option.bind_some, hdesired, hfind, hselected, classify,
    if_neg hcurrent, if_neg heligible, Option.isSome_some, if_true, Option.map_some,
    Option.getD_some, Option.or_some, true_and]
  exact ⟨fun hstate => by rw [hstate], fun hstate => by rw [hstate]⟩

/-- The status reads the newest rows exactly when every thumbprint it reads has one row at
most. -/
theorem faithful_iff :
    Faithful w ↔ (w.online = true → ∀ thumbprint ∈ w.capabilities.certificateCurrentThumbprints,
      w.thumbprints.count thumbprint ≤ 1) := by
  constructor
  · intro h honline
    exact classified_iff.mp (h.classified honline)
  · intro h
    have hrows : w.online = true → ∀ o o' : Descending Observation.observedAt,
        w.currentRows o = w.capabilities.certificateCurrentThumbprints.filterMap
          (newest o' w.observations) := fun honline => classified_iff.mpr (h honline)
    have hmem : w.online = true → ∀ (o o' : Descending Observation.observedAt) (row : Observation),
        row ∈ w.currentRows o →
          row.thumbprint ∈ w.capabilities.certificateCurrentThumbprints ∧
            newest o' w.observations row.thumbprint = some row := by
      intro honline o o' row hrow
      rw [hrows honline o o'] at hrow
      obtain ⟨thumbprint, hcurrent, hnewest⟩ := List.mem_filterMap.mp hrow
      obtain rfl := (mem_of_newest hnewest).2
      exact ⟨hcurrent, hnewest⟩
    refine ⟨hrows, ?_, ?_⟩
    · intro o o' hstatus
      by_cases honline : w.online = true
      · simp only [certificateStatus, if_pos honline] at hstatus ⊢
        obtain ⟨row, hrow, hobservation, hready⟩ := statusOf_sound hstatus
        obtain ⟨hcurrent, hnewest⟩ := hmem honline o o' row hrow
        exact ⟨row, hobservation, hcurrent, hnewest, hready⟩
      · simp only [certificateStatus, if_neg honline] at hstatus
        cases hstatus
    · intro o o' row honline hcurrent hnewest hready
      have hrow : row ∈ w.currentRows o := by
        rw [hrows honline o o']
        exact List.mem_filterMap.mpr ⟨_, hcurrent, hnewest⟩
      have honly : ∀ other ∈ w.currentRows o, other.thumbprint = row.thumbprint →
          other = row := by
        intro other hother hthumb
        have hnewest' := (hmem honline o o' other hother).2
        rw [hthumb] at hnewest'
        exact Option.some.inj (hnewest'.symm.trans hnewest)
      simp only [certificateStatus, if_pos honline]
      exact ⟨hrow, statusOf_undesired hrow hready, fun conn => statusOf_desired hrow hready honly⟩

end Status

/-! ## The rows that the calls write -/

section Writes

variable {p : Platform} {w w' : World}

/-- The writes of a call to the rows of the binding. -/
def Call.writes (p : Platform) : Call → List (Write String)
  | .health result => if result.bringsCertificate then [.append (result.thumbprint p)] else []
  | .inventory _ report =>
    (report.candidates.filter (·.counts p)).map fun c => .upsert (c.thumbprint p)
  | .select .. => []
  | .settings _ => []

theorem thumbprint_of_observation {result : HealthResult} {conn : Connection} {cert : Observation}
    (h : result.observation p conn = .ok cert) : cert.thumbprint = result.thumbprint p := by
  unfold HealthResult.observation at h
  obtain ⟨r, -, h⟩ := bind_eq_ok.mp h
  cases h
  rfl

theorem thumbprint_of_candidate {c : Candidate} {cryptopro : Bool} {now : ℤ}
    {fill : String → Observation} (h : c.observation p cryptopro now = .ok fill) (id : String) :
    (fill id).id = id ∧ (fill id).thumbprint = c.thumbprint p := by
  unfold Candidate.observation at h
  obtain ⟨r, -, h⟩ := bind_eq_ok.mp h
  cases h
  exact ⟨rfl, rfl⟩

/-- A health result appends the row of its certificate. -/
theorem thumbprints_of_record {result : HealthResult} {observations : Table Observation.id}
    {conn : Connection} {state : Table Observation.id × Connection}
    (h : result.record p observations conn = .ok state) :
    state.1.rows.map (·.thumbprint) =
      ((Call.health result).writes p).foldl Write.apply
        (observations.rows.map (·.thumbprint)) := by
  unfold HealthResult.record at h
  simp only [Call.writes]
  by_cases hbrings : result.bringsCertificate = true
  · rw [if_pos hbrings] at h ⊢
    obtain ⟨cert, hcert, h⟩ := bind_eq_ok.mp h
    obtain ⟨table, htable, h⟩ := bind_eq_ok.mp h
    cases h
    rw [(Table.insert_eq_some (found_eq_ok.mp htable)).2, List.map_append, List.map_cons,
      List.map_nil, thumbprint_of_observation hcert]
    rfl
  · rw [if_neg hbrings] at h ⊢
    cases h
    rfl

/-- A candidate updates the newest row of its thumbprint, or appends one. -/
theorem thumbprints_of_candidate {o : Descending Observation.observedAt} {cryptopro : Bool}
    {now : ℤ} {state state' : Table Observation.id × List String} {c : Candidate}
    (hcounts : c.counts p = true)
    (h : recordCandidate p o cryptopro now state c = .ok state') :
    state'.1.rows.map (·.thumbprint) =
      (Write.upsert (c.thumbprint p)).apply (state.1.rows.map (·.thumbprint)) := by
  rw [recordCandidate, if_pos hcounts] at h
  obtain ⟨fill, hfill, h⟩ := bind_eq_ok.mp h
  simp only [Write.apply]
  cases hnewest : newest o state.1 (c.thumbprint p) with
  | none =>
    rw [hnewest] at h
    obtain ⟨table, htable, h⟩ := bind_eq_ok.mp h
    cases h
    rw [if_neg (newest_eq_none.mp hnewest), (Table.insert_eq_some (found_eq_ok.mp htable)).2,
      List.map_append, List.map_cons, (thumbprint_of_candidate hfill c.id).2, List.map_nil]
  | some row =>
    rw [hnewest] at h
    cases h
    obtain ⟨hrow, hthumb⟩ := mem_of_newest hnewest
    obtain ⟨hid, hfilled⟩ := thumbprint_of_candidate hfill row.id
    have hfind : state.1.find? (fill row.id).id = some row := by
      rw [hid]
      exact Table.find?_of_mem hrow
    rw [if_pos (List.mem_map.mpr ⟨row, hrow, hthumb⟩)]
    exact Table.map_put hfind (hfilled.trans hthumb.symm)

/-- An inventory writes the rows of its candidates one after another. -/
theorem thumbprints_of_candidates {o : Descending Observation.observedAt} {cryptopro : Bool}
    {now : ℤ} {candidates : List Candidate} {state state' : Table Observation.id × List String}
    (h : candidates.foldlM (recordCandidate p o cryptopro now) state = .ok state') :
    state'.1.rows.map (·.thumbprint) =
      ((candidates.filter (·.counts p)).map fun c => Write.upsert (c.thumbprint p)).foldl
        Write.apply (state.1.rows.map (·.thumbprint)) := by
  induction candidates generalizing state with
  | nil =>
    cases h
    rfl
  | cons c rest ih =>
    obtain ⟨state₁, hstate₁, h⟩ := bind_eq_ok.mp h
    rw [ih h]
    by_cases hcounts : c.counts p = true
    · rw [List.filter_cons_of_pos hcounts, List.map_cons, List.foldl_cons,
        thumbprints_of_candidate hcounts hstate₁]
    · rw [recordCandidate, if_neg hcounts] at hstate₁
      cases hstate₁
      rw [List.filter_cons_of_neg hcounts]

/-- The thumbprints of the rows after a call. -/
theorem thumbprints_of_step {c : Call} (h : step p w c = .ok w') :
    w'.thumbprints = (c.writes p).foldl Write.apply w.thumbprints := by
  cases c with
  | health result =>
    unfold step applyAgentHealthResult at h
    obtain ⟨_, -, h⟩ := bind_eq_ok.mp h
    obtain ⟨check, -, h⟩ := bind_eq_ok.mp h
    obtain ⟨conn, -, h⟩ := bind_eq_ok.mp h
    obtain ⟨⟨observations, conn'⟩, hrows, h⟩ := bind_eq_ok.mp h
    cases h
    exact thumbprints_of_record hrows
  | inventory o report =>
    obtain ⟨⟨w'', reply⟩, hreport, hw⟩ := map_eq_ok.mp h
    unfold recordCertificateInventory at hreport
    obtain ⟨_, -, hreport⟩ := bind_eq_ok.mp hreport
    obtain ⟨_, -, hreport⟩ := bind_eq_ok.mp hreport
    obtain ⟨⟨observations, ids⟩, hrows, hreport⟩ := bind_eq_ok.mp hreport
    cases hreport
    rw [← hw]
    exact thumbprints_of_candidates hrows
  | select o connectionId thumbprint =>
    unfold step selectCertificate at h
    obtain ⟨conn, -, h⟩ := bind_eq_ok.mp h
    obtain ⟨_, -, h⟩ := bind_eq_ok.mp h
    obtain ⟨_, -, h⟩ := bind_eq_ok.mp h
    obtain ⟨_, -, h⟩ := bind_eq_ok.mp h
    obtain ⟨_, -, h⟩ := bind_eq_ok.mp h
    cases h
    rfl
  | settings settings =>
    cases h
    rfl

/-- The thumbprints of the rows of a binding are those of what its calls wrote. -/
theorem thumbprints_of_run {settings : Settings} {calls : List Call}
    (run : Run (Accepts (step p)) (.enrolled settings) calls w) :
    w.thumbprints = keysAfter (calls.flatMap (Call.writes p)) := by
  induction run with
  | nil => rfl
  | snoc _ hstep ih =>
    rw [thumbprints_of_step hstep, ih, List.flatMap_append, List.flatMap_singleton, keysAfter,
      keysAfter, List.foldl_append]

end Writes

/-! ## Main result -/

/-- After any calls, the status classifies the current thumbprints by their newest rows exactly
when, for each of them, no health result reported it after another report of it. -/
theorem certificate_status_faithful_iff {p : Platform} {settings : Settings} {calls : List Call}
    {w : World} (run : Run (Accepts (step p)) (.enrolled settings) calls w) :
    Faithful w ↔ (w.online = true → ∀ thumbprint ∈ w.capabilities.certificateCurrentThumbprints,
      AppendedFirst thumbprint (calls.flatMap (Call.writes p))) := by
  rw [faithful_iff]
  refine imp_congr_right fun _ => forall₂_congr fun thumbprint _ => ?_
  rw [thumbprints_of_run run, Upserts.count_keysAfter_le_one_iff]

section Sample

/-- A participant, under the settings as they are shipped. -/
def samplePlatform : Platform where
  participantInn := "7701234567"
  containerText _ := ""

/-- A certificate of the participant, with its private key or without. -/
def sampleCertificate (hasPrivateKey : Bool) : Json :=
  .obj [("thumbprint", .str "00112233445566778899AABBCCDDEEFF"),
    ("certificate_inn", .str "7701234567"), ("valid_to", .str "2030-01-01"),
    ("has_private_key", .bool hasPrivateKey), ("compatibility", .str "GOST_CRYPTOPRO")]

/-- Some day of the year 2025. -/
def sampleNow : ℤ := 63900000000000000

def sampleInventory (id : String) (hasPrivateKey : Bool) (now : ℤ) : Call :=
  .inventory (.stable _) ⟨[⟨sampleCertificate hasPrivateKey, id, now⟩], none, true, now⟩

def sampleHealth (id : String) (now : ℤ) : Call :=
  .health ⟨.obj [("type", .str "M14_INTEGRATION_HEALTH"), ("check_id", .str "check"),
    ("certificate", sampleCertificate true)], id, now, now, now, now⟩

/-- A primary binding with a connection and a check that waits for it. -/
def sampleSettings : Settings where
  active := true
  isPrimary := true
  connections := ⟨[⟨"true-api", false, none, .none, none⟩], by decide⟩
  checks := ⟨[⟨"check", "true-api", none⟩], by decide⟩

/-- The binding after some calls. -/
def sampleAfter (calls : List Call) : World :=
  Transition.exec (step samplePlatform) (.enrolled sampleSettings) calls

/-- A certificate is inventoried, and again after it has lost its private key. -/
def inventoried : List Call :=
  [sampleInventory "a" true sampleNow, sampleInventory "b" false (sampleNow + 1)]

theorem certificate_status_faithful_iff_sample :
    Faithful (sampleAfter inventoried) ∧
      (certificateStatus (sampleAfter inventoried) (.stable _)).reasonCode =
        some "CERTIFICATE_NO_PRIVATE_KEY" := by
  have run : Run (Accepts (step samplePlatform)) (.enrolled sampleSettings) inventoried
      (sampleAfter inventoried) := Transition.run_of_length (by decide +kernel)
  refine ⟨(certificate_status_faithful_iff run).mpr fun _ => ?_, by decide +kernel⟩
  decide +kernel

/-- Between the two inventories the certificate is found by a health check. -/
def foundBetween : List Call :=
  [sampleInventory "a" true sampleNow, sampleHealth "b" (sampleNow + 1),
    sampleInventory "c" false (sampleNow + 2)]

/-- A certificate without its private key is reported as ready. -/
theorem keyless_certificate_discovered :
    ∃ w, Run (Accepts (step samplePlatform)) (.enrolled sampleSettings) foundBetween w ∧
      (certificateStatus w (.stable _)).status = .discoveredReady ∧
      ((newest (.stable _) w.observations "00112233445566778899AABBCCDDEEFF").map
        (·.readinessState)) = some .notReady ∧
      ¬ Faithful w := by
  have run : Run (Accepts (step samplePlatform)) (.enrolled sampleSettings) foundBetween
      (sampleAfter foundBetween) := Transition.run_of_length (by decide +kernel)
  have hstatus : (certificateStatus (sampleAfter foundBetween) (.stable _)).status =
      .discoveredReady ∧
    (certificateStatus (sampleAfter foundBetween) (.stable _)).observation.map (·.thumbprint) =
      some "00112233445566778899AABBCCDDEEFF" := by decide +kernel
  have hnewest : (newest (.stable _) (sampleAfter foundBetween).observations
      "00112233445566778899AABBCCDDEEFF").map (·.readinessState) = some .notReady := by
    decide +kernel
  refine ⟨_, run, hstatus.1, hnewest, fun h => ?_⟩
  -- the row that the status reports would be the newest one, and ready
  obtain ⟨row, hrow, -, hrow', hready⟩ :=
    h.sound (.stable _) (.stable _) (by rw [hstatus.1]; rfl)
  have hthumb : row.thumbprint = "00112233445566778899AABBCCDDEEFF" := by
    have hmap := hstatus.2
    rw [hrow] at hmap
    exact Option.some.inj hmap
  rw [hthumb] at hrow'
  rw [hrow', Option.map_some, hready] at hnewest
  cases hnewest

end Sample

end Wbcz.Certificates
