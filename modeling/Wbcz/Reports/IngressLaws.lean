import Wbcz.Reports.Ingress

/-!
# What uploads leave behind

An upload is lawful when it deletes its temporary file, when it leaves no object and no row where
it fails, when the same bytes for a completed upload give the artifact again and nothing else, and
when other bytes for it are refused and the conflict is recorded.
-/

namespace Wbcz.Reports

variable {config : IngressConfig} {u : ArtifactUpload} {w : IngressWorld}
  {binding : ReportArtifactUploadBinding} {received : List UInt8}

/-! ## Lawful uploads -/

/-- The upload is for the binding. -/
structure ArtifactUpload.Binds (u : ArtifactUpload) (binding : ReportArtifactUploadBinding) :
    Prop where
  job : binding.reportJobId = u.reportJobId
  result : binding.remoteResultId = u.remoteResultId
  part : binding.remoteResultPartId = u.remoteResultPartId

/-- The upload is completed, with an artifact of these bytes. -/
def ArtifactUpload.CompletedWith (u : ArtifactUpload) (w : IngressWorld) (artifactId : String)
    (bytes : List UInt8) : Prop :=
  ∃ binding row, w.uploads.find? u.artifactUploadId = some binding ∧ u.Binds binding ∧
    binding.state = .completed ∧ binding.finalizedArtifactId = some artifactId ∧
    w.reports.artifacts.find? artifactId = some row ∧ ⟨row.storageKey, bytes⟩ ∈ w.objects

/-- The bytes arrive. -/
def ArtifactUpload.Arrives (u : ArtifactUpload) (config : IngressConfig) (bytes : List UInt8) :
    Prop :=
  config.minFreeDiskBytes ≤ u.tempFree ∧ u.received config = .ok bytes

/-- Nothing goes wrong that could hinder a second delivery. -/
structure ArtifactUpload.Undisturbed (u : ArtifactUpload) : Prop where
  inspect : u.faults.inspect = false
  finalize : u.faults.finalize = false
  later : u.faults.later = false
  unlink : u.faults.unlink = false

/-- Bytes of one size and one SHA-256. -/
def SameDigest (bytes other : List UInt8) : Prop :=
  bytes.length = other.length ∧ sha256 bytes = sha256 other

/-- What an upload must do. -/
structure IngressLaw (config : IngressConfig) (w : IngressWorld) (u : ArtifactUpload) : Prop where
  temps : (uploadArtifact config u w).1.temps = w.temps
  failed : ∀ e, (uploadArtifact config u w).2 = .error e →
    (uploadArtifact config u w).1.objects = w.objects ∧
      (uploadArtifact config u w).1.reports.artifacts = w.reports.artifacts
  completed : ∀ row, (uploadArtifact config u w).2 = .ok row →
    ∃ bytes received, u.CompletedWith (uploadArtifact config u w).1 row.artifactId bytes ∧
      u.Arrives config received ∧ SameDigest bytes received
  replay : ∀ artifactId bytes, u.CompletedWith w artifactId bytes → u.Arrives config bytes →
    u.Undisturbed → ∃ row, uploadArtifact config u w = (w, .ok row) ∧ row.artifactId = artifactId
  reject : ∀ artifactId bytes other, u.CompletedWith w artifactId bytes →
    u.Arrives config other → other ≠ bytes → (∃ e, (uploadArtifact config u w).2 = .error e) ∧
      ∃ binding, (uploadArtifact config u w).1.uploads.find? u.artifactUploadId = some binding ∧
        binding.state = .conflict

/-! ## Uploads that go wrong nowhere, or early enough -/

/-- The store refuses before it has an object. -/
def StoreRefuses (config : IngressConfig) (u : ArtifactUpload) (received : List UInt8) : Prop :=
  u.storeFree < config.storeMinFreeDiskBytes + (u.stored received).content.length ∨
    config.keyProvider = false ∨ u.faults.encrypt = true

/-- Nothing fails once the store has the object. -/
structure NothingFails (config : IngressConfig) (w : IngressWorld) (u : ArtifactUpload)
    (received : List UInt8) : Prop where
  stat : u.faults.stat = false
  size : (u.stored received).content.length = received.length
  sha : sha256 (u.stored received).content = sha256 received
  foreignKeys : config.foreignKeys = false
  update : u.faults.update = false
  finalize : u.faults.finalize = false
  later : u.faults.later = false
  unpublished : ∀ row ∈ w.reports.artifacts.rows, row.publicationKey ≠
    publicationKey u.reportJobId u.remoteResultId u.remoteResultPartId
  job : (w.reports.jobs.find? u.reportJobId).isSome = true

/-- The binding that is uploaded to, where the disk is not full. -/
structure ArtifactUpload.Opens (u : ArtifactUpload) (config : IngressConfig) (w : IngressWorld)
    (binding : ReportArtifactUploadBinding) : Prop where
  found : w.uploads.find? u.artifactUploadId = some binding
  binds : u.Binds binding
  free : config.minFreeDiskBytes ≤ u.tempFree

/-- The temporary file can be deleted; the bytes for a completed upload are those of its artifact;
and a new upload is refused before there is an object, or nothing fails after that. -/
def UploadClean (config : IngressConfig) (w : IngressWorld) (u : ArtifactUpload) : Prop :=
  ∀ binding, u.Opens config w binding → u.faults.unlink = false ∧
    ∀ received, u.received config = .ok received →
      if binding.state = .completed then
        ∀ artifactId bytes, u.CompletedWith w artifactId bytes → received = bytes
      else
        binding.expectedArchiveSize.any (· ≠ (received.length : ℤ)) = true ∨
          StoreRefuses config u received ∨ NothingFails config w u received

/-! ## Rows of artifacts -/

section Rows

variable {reports : ReportStore} (row : ReportArtifactRecord)

/-- A new row is written where its job is there and nothing has its keys. -/
theorem finalizeArtifact_new
    (hpublication : ∀ existing ∈ reports.artifacts.rows,
      existing.publicationKey ≠ row.publicationKey)
    (hstorage : ∀ existing ∈ reports.artifacts.rows, existing.storageKey ≠ row.storageKey)
    (hid : reports.artifacts.find? row.artifactId = none)
    (hjob : (reports.jobs.find? row.reportJobId).isSome = true) :
    ∃ artifacts, reports.artifacts.insert { row with ready := true, deletedAt := none } =
        some artifacts ∧
      reports.finalizeArtifact row = .ok { reports with artifacts := artifacts } := by
  obtain ⟨artifacts, hinsert⟩ :=
    Table.insert_isSome (r := { row with ready := true, deletedAt := none }) hid
  refine ⟨artifacts, hinsert, ?_⟩
  have hfind : (reports.artifacts.rows.find? fun existing =>
      existing.publicationKey = row.publicationKey) = none := by
    simpa using hpublication
  have hany : ¬(reports.artifacts.rows.any fun existing =>
      existing.storageKey = row.storageKey) = true := by
    simpa using hstorage
  have hnone : ¬(reports.jobs.find? row.reportJobId).isNone = true := by
    rw [Option.isSome_iff_ne_none] at hjob
    simpa using hjob
  rw [ReportStore.finalizeArtifact, hfind]
  simp only [if_neg hany, hinsert, if_neg hnone]

/-- No row is written where its publication key has another object, or its job is missing. -/
theorem finalizeArtifact_refused
    (hstorage : ∀ existing ∈ reports.artifacts.rows, existing.storageKey ≠ row.storageKey)
    (h : ¬((∀ existing ∈ reports.artifacts.rows, existing.publicationKey ≠ row.publicationKey) ∧
      (reports.jobs.find? row.reportJobId).isSome = true)) :
    ∃ e, reports.finalizeArtifact row = .error e := by
  rw [ReportStore.finalizeArtifact]
  cases hfind : reports.artifacts.rows.find? fun existing =>
      existing.publicationKey = row.publicationKey with
  | some existing =>
    have hother := hstorage existing (List.mem_of_find?_eq_some hfind)
    exact ⟨_, if_neg fun hsame => hother hsame.2.2.2.1⟩
  | none =>
    have hnone : (reports.jobs.find? row.reportJobId).isNone = true := by
      have hunpublished : ∀ existing ∈ reports.artifacts.rows,
          existing.publicationKey ≠ row.publicationKey := by simpa using hfind
      by_contra hjob
      exact h ⟨hunpublished, by simpa [Option.isSome_iff_ne_none] using hjob⟩
    dsimp only
    split_ifs
    · exact ⟨_, rfl⟩
    · split
      · exact ⟨_, rfl⟩
      · exact ⟨_, rfl⟩

/-- A row that is there already is found. -/
theorem finalizeArtifact_same {existing : ReportArtifactRecord}
    (hfind : (reports.artifacts.rows.find? fun existing =>
      existing.publicationKey = row.publicationKey) = some existing)
    (hjob : existing.reportJobId = row.reportJobId) (hsha : existing.sha256 = row.sha256)
    (hsize : existing.byteSize = row.byteSize) (hstorage : existing.storageKey = row.storageKey)
    (hready : existing.ready = true) : reports.finalizeArtifact row = .ok reports := by
  rw [ReportStore.finalizeArtifact, hfind]
  exact if_pos ⟨hjob, hsha, hsize, hstorage, hready⟩

end Rows

/-! ## What an upload does -/

/-- The temporary files after an upload. -/
def ArtifactUpload.tempsAfter (u : ArtifactUpload) (w : IngressWorld) : List String :=
  if u.faults.unlink then u.tempName :: w.temps else w.temps

/-- The temporary file is there. -/
def ArtifactUpload.opened (u : ArtifactUpload) (w : IngressWorld) : Ingress :=
  ⟨{ w with temps := u.tempName :: w.temps }, []⟩

/-- What `ingest` does with the temporary file. -/
def ArtifactUpload.body (u : ArtifactUpload) (config : IngressConfig) (w : IngressWorld)
    (binding : ReportArtifactUploadBinding) : Ingress × Except PyError IngressArtifact :=
  match u.received config with
  | .error e => (u.opened w, .error e)
  | .ok received => ingestReceived config u (u.opened w) binding received

theorem ingest_of_opens (h : u.Opens config w binding) :
    ingest config u ⟨w, []⟩ = unlinkTemp u (u.body config w binding) := by
  obtain ⟨hfound, ⟨hjob, hresult, hpart⟩, hfree⟩ := h
  rw [ingest, hfound]
  simp only [hjob, hresult, hpart, ne_eq, not_true_eq_false, if_false, Nat.not_lt.mpr hfree]
  rfl

/-- An upload to no binding, or to another one, or with a full disk, does nothing. -/
theorem uploadArtifact_of_closed (h : ∀ binding, ¬u.Opens config w binding) :
    ∃ e, uploadArtifact config u w = (w, .error e) := by
  have hingest : ∃ e, ingest config u ⟨w, []⟩ = (⟨w, []⟩, .error e) := by
    rw [ingest]
    cases hfound : w.uploads.find? u.artifactUploadId with
    | none => exact ⟨_, rfl⟩
    | some binding =>
      dsimp only
      split_ifs with hjob hresult hpart hfree
      · exact ⟨_, rfl⟩
      · exact ⟨_, rfl⟩
      · exact ⟨_, rfl⟩
      · exact ⟨_, rfl⟩
      · exact absurd ⟨hfound, ⟨not_not.mp hjob, not_not.mp hresult, not_not.mp hpart⟩,
          Nat.not_lt.mp hfree⟩ (h binding)
  obtain ⟨e, hingest⟩ := hingest
  refine ⟨e, ?_⟩
  rw [uploadArtifact, ingestStream, hingest]

/-- Where `ingest` fails, or its file cannot be deleted, the rows stay and the objects do not. -/
theorem uploadArtifact_of_failed (h : u.Opens config w binding)
    (htemps : (u.body config w binding).1.world.temps = u.tempName :: w.temps)
    (hfailed : u.faults.unlink = true ∨ ∃ e, (u.body config w binding).2 = .error e) :
    ∃ e, uploadArtifact config u w =
      (⟨w.reports, w.uploads, u.tempsAfter w, (u.body config w binding).1.world.objects⟩,
        .error e) := by
  rw [uploadArtifact, ingestStream, ingest_of_opens h, unlinkTemp, ArtifactUpload.tempsAfter]
  cases hunlink : u.faults.unlink with
  | true =>
    refine ⟨osError, ?_⟩
    simp only [if_true, htemps]
  | false =>
    obtain ⟨e, he⟩ := hfailed.resolve_left (by simp [hunlink])
    refine ⟨e, ?_⟩
    simp only [Bool.false_eq_true, if_false, he, htemps, List.erase_cons_head]

/-! ### Uploads that are not completed -/

theorem putFile_refuses (h : StoreRefuses config u received) (objects : List StoredObject) :
    ∃ e, putFile config u objects received = (objects, .error e) := by
  unfold putFile
  dsimp only
  split_ifs with hfree hkey hencrypt
  · exact ⟨_, rfl⟩
  · exact ⟨_, rfl⟩
  · exact ⟨_, rfl⟩
  all_goals
    refine absurd h ?_
    rintro (hfull | hnone | hfails)
    · exact hfree hfull
    · simp [hnone] at hkey
    · exact hencrypt hfails

theorem putFile_writes (h : ¬StoreRefuses config u received) (objects : List StoredObject) :
    putFile config u objects received = (u.stored received :: objects,
      if u.faults.stat then .error osError
      else .ok ⟨u.storageKey, (u.stored received).content.length,
        sha256 (u.stored received).content⟩) := by
  simp only [StoreRefuses, not_or] at h
  obtain ⟨hfree, hkey, hencrypt⟩ := h
  unfold putFile
  dsimp only
  rw [if_neg hfree, if_neg (by simpa using hkey), if_neg hencrypt]
  split_ifs <;> rfl

/-- What `updateBinding` refuses, and what it writes. -/
theorem updateBinding_eq {binding' : ReportArtifactUploadBinding}
    (hfound : w.uploads.find? u.artifactUploadId = some binding)
    (hid : binding'.artifactUploadId = binding.artifactUploadId)
    (hjob : binding'.reportJobId = binding.reportJobId)
    (hresult : binding'.remoteResultId = binding.remoteResultId)
    (hpart : binding'.remoteResultPartId = binding.remoteResultPartId) :
    updateBinding config u w binding' =
      if config.foreignKeys && binding'.finalizedArtifactId.any fun artifactId =>
          (w.reports.artifacts.find? artifactId).isNone then .error ⟨.integrityError, ""⟩
      else if u.faults.update then .error operationalError
      else .ok { w with
        uploads := w.uploads.put
          { binding with
            state := binding'.state
            finalizedArtifactId := binding'.finalizedArtifactId
            observedByteSize := binding'.observedByteSize
            observedSha256 := binding'.observedSha256 } } := by
  have hkey := Table.find?_of_mem (Table.mem_of_find? hfound)
  rw [updateBinding, hid, hkey]
  simp only [hjob, hresult, hpart, ne_eq, not_true_eq_false, or_self, if_false]

/-- Only the bindings are changed. -/
theorem updateBinding_frame {w' : IngressWorld} {binding' : ReportArtifactUploadBinding}
    (h : updateBinding config u w binding' = .ok w') :
    w'.objects = w.objects ∧ w'.temps = w.temps := by
  unfold updateBinding at h
  split at h
  · cases h
  · split_ifs at h
    cases h
    exact ⟨rfl, rfl⟩

/-- An upload whose size is not the one announced stores nothing. -/
theorem ingestReceived_size (s : Ingress) (hstate : binding.state ≠ .completed)
    (hsize : binding.expectedArchiveSize.any (· ≠ (received.length : ℤ)) = true) :
    ∃ e, (ingestReceived config u s binding received).2 = .error e ∧
      (ingestReceived config u s binding received).1.world.objects = s.world.objects ∧
      (ingestReceived config u s binding received).1.world.temps = s.world.temps := by
  rw [ingestReceived, if_neg hstate, if_pos hsize]
  split
  · exact ⟨_, rfl, rfl, rfl⟩
  · rename_i world hupdate
    exact ⟨_, rfl, updateBinding_frame hupdate⟩

/-- An upload that the store refuses stores nothing. -/
theorem ingestReceived_refused (s : Ingress) (hstate : binding.state ≠ .completed)
    (hsize : ¬binding.expectedArchiveSize.any (· ≠ (received.length : ℤ)) = true)
    (hstore : StoreRefuses config u received) :
    ∃ e, (ingestReceived config u s binding received).2 = .error e ∧
      (ingestReceived config u s binding received).1.world.objects = s.world.objects ∧
      (ingestReceived config u s binding received).1.world.temps = s.world.temps := by
  obtain ⟨e, he⟩ := putFile_refuses hstore s.world.objects
  rw [ingestReceived, if_neg hstate, if_neg hsize, he]
  exact ⟨e, rfl, rfl, rfl⟩

/-- The binding of a completed upload. -/
def ArtifactUpload.completedBinding (u : ArtifactUpload) (binding : ReportArtifactUploadBinding)
    (received : List UInt8) : ReportArtifactUploadBinding :=
  { binding with
    state := .completed
    finalizedArtifactId := some u.artifactId
    observedByteSize := some received.length
    observedSha256 := some (sha256 received) }

/-- The artifact of a completed upload. -/
def ArtifactUpload.artifact (u : ArtifactUpload) (received : List UInt8) : IngressArtifact :=
  ⟨u.artifactId, ⟨u.storageKey, received.length, sha256 received⟩, received.length,
    sha256 received⟩

/-- The store has an object of the bytes, and the binding can be completed. -/
structure Completes (config : IngressConfig) (u : ArtifactUpload) (received : List UInt8) :
    Prop where
  stat : u.faults.stat = false
  size : (u.stored received).content.length = received.length
  sha : sha256 (u.stored received).content = sha256 received
  foreignKeys : config.foreignKeys = false
  update : u.faults.update = false

/-- Once the store has an object, it stays, whether the upload is completed or not. -/
theorem ingestReceived_stored (hfound : w.uploads.find? u.artifactUploadId = some binding)
    (hfresh : u.Fresh w) (hstate : binding.state ≠ .completed)
    (hsize : ¬binding.expectedArchiveSize.any (· ≠ (received.length : ℤ)) = true)
    (hstore : ¬StoreRefuses config u received) :
    (Completes config u received ∧
      ingestReceived config u (u.opened w) binding received =
        (⟨⟨w.reports, w.uploads.put (u.completedBinding binding received),
            u.tempName :: w.temps, u.stored received :: w.objects⟩,
          [(u.artifactUploadId, u.artifact received)]⟩, .ok (u.artifact received))) ∨
    (¬Completes config u received ∧
      ∃ e, (ingestReceived config u (u.opened w) binding received).2 = .error e ∧
        (ingestReceived config u (u.opened w) binding received).1.world.objects =
          u.stored received :: w.objects ∧
        (ingestReceived config u (u.opened w) binding received).1.world.temps =
          u.tempName :: w.temps) := by
  have hput := putFile_writes hstore w.objects
  rw [ingestReceived, if_neg hstate, if_neg hsize]
  change _ ∨ _
  simp only [ArtifactUpload.opened, hput]
  cases hstat : u.faults.stat with
  | true =>
    refine .inr ⟨fun h => ?_, osError, rfl, rfl, rfl⟩
    rw [h.stat] at hstat
    cases hstat
  | false =>
    simp only [Bool.false_eq_true, if_false]
    by_cases hcontent : (u.stored received).content.length ≠ received.length ∨
        sha256 (u.stored received).content ≠ sha256 received
    · rw [if_pos hcontent]
      refine .inr ⟨fun h => ?_, _, rfl, rfl, rfl⟩
      exact hcontent.elim (fun hne => hne h.size) fun hne => hne h.sha
    · have hcontent' := hcontent
      simp only [not_or, ne_eq, not_not] at hcontent'
      obtain ⟨hlength, hsha⟩ := hcontent'
      rw [if_neg hcontent]
      -- the row that the binding refers to is not written yet
      have hupdated : updateBinding config u
          ⟨w.reports, w.uploads, u.tempName :: w.temps, u.stored received :: w.objects⟩
          (u.completedBinding binding received) = _ := updateBinding_eq hfound rfl rfl rfl rfl
      simp only [ArtifactUpload.completedBinding, Option.any_some, hfresh.artifact,
        Option.isNone_none, Bool.and_true] at hupdated
      rw [hupdated]
      cases hkeys : config.foreignKeys with
      | true =>
        refine .inr ⟨fun h => ?_, _, rfl, rfl, rfl⟩
        rw [h.foreignKeys] at hkeys
        cases hkeys
      | false =>
        cases hupdate : u.faults.update with
        | true =>
          refine .inr ⟨fun h => ?_, _, rfl, rfl, rfl⟩
          rw [h.update] at hupdate
          cases hupdate
        | false =>
          refine .inl ⟨⟨hstat, hlength, hsha, hkeys, hupdate⟩, ?_⟩
          simp only [Bool.false_eq_true, if_false, ArtifactUpload.artifact, hlength, hsha]
          rfl

/-! ### Completed uploads -/

/-- The artifact of a completed upload is there. -/
structure Archived (w : IngressWorld) (binding : ReportArtifactUploadBinding)
    (row : ReportArtifactRecord) (object : StoredObject) : Prop where
  named : binding.finalizedArtifactId = some row.artifactId
  nonempty : row.artifactId ≠ ""
  found : w.reports.artifacts.find? row.artifactId = some row
  ready : row.ready = true
  job : row.reportJobId = binding.reportJobId
  publication : row.publicationKey =
    publicationKey binding.reportJobId binding.remoteResultId binding.remoteResultPartId
  kept : object ∈ w.objects
  key : object.storageKey = row.storageKey
  size : row.byteSize = object.content.length
  sha : row.sha256 = sha256 object.content

/-- Every completed upload has its artifact, and keys are used once. -/
structure IngressInv (w : IngressWorld) : Prop where
  archived : ∀ binding ∈ w.uploads, binding.state = .completed →
    ∃ row object, Archived w binding row object
  publications : ∀ row ∈ w.reports.artifacts, ∀ row' ∈ w.reports.artifacts,
    row.publicationKey = row'.publicationKey → row = row'
  objects : ∀ object ∈ w.objects, ∀ object' ∈ w.objects,
    object.storageKey = object'.storageKey → object = object'

variable {row : ReportArtifactRecord} {object : StoredObject}

/-- What a completed upload is completed with. -/
theorem Archived.completedWith_iff (h : Archived w binding row object) (hinv : IngressInv w)
    (hfound : w.uploads.find? u.artifactUploadId = some binding) (hbinds : u.Binds binding)
    (hstate : binding.state = .completed) {artifactId : String} {bytes : List UInt8} :
    u.CompletedWith w artifactId bytes ↔ artifactId = row.artifactId ∧ bytes = object.content := by
  constructor
  · rintro ⟨binding', row', hfound', -, -, hnamed, hrow, hobject⟩
    obtain rfl := Option.some.inj (hfound.symm.trans hfound')
    obtain rfl := Option.some.inj (h.named.symm.trans hnamed)
    obtain rfl := Option.some.inj (h.found.symm.trans hrow)
    have hsame := hinv.objects _ hobject _ h.kept h.key.symm
    exact ⟨rfl, by rw [← hsame]⟩
  · rintro ⟨rfl, rfl⟩
    refine ⟨binding, row, hfound, hbinds, hstate, h.named, h.found, ?_⟩
    rw [← h.key]
    exact h.kept

/-- The row of a completed upload is the one of its publication key. -/
theorem Archived.published (h : Archived w binding row object) (hinv : IngressInv w)
    (hbinds : u.Binds binding) : (w.reports.artifacts.rows.find? fun existing =>
      existing.publicationKey =
        publicationKey u.reportJobId u.remoteResultId u.remoteResultPartId) = some row := by
  have hkey : row.publicationKey =
      publicationKey u.reportJobId u.remoteResultId u.remoteResultPartId := by
    rw [h.publication, hbinds.job, hbinds.result, hbinds.part]
  have hmem : row ∈ w.reports.artifacts := Table.mem_of_find? h.found
  cases hfind : w.reports.artifacts.rows.find? fun existing => existing.publicationKey =
      publicationKey u.reportJobId u.remoteResultId u.remoteResultPartId with
  | none => simpa [hkey] using List.find?_eq_none.mp hfind row hmem
  | some existing =>
    have hsame := List.find?_some hfind
    rw [hinv.publications _ (List.mem_of_find?_eq_some hfind) _ hmem
      ((of_decide_eq_true hsame).trans hkey.symm)]

theorem Archived.lookup (h : Archived w binding row object) (temps : List String) :
    lookupFinalizedArtifact u { w with temps := temps } row.artifactId =
      if u.faults.inspect then none
      else some ⟨row.artifactId, ⟨row.storageKey, row.byteSize, row.sha256⟩, row.byteSize,
        row.sha256⟩ := by
  have hobject : w.objects.all (fun other => other.storageKey ≠ row.storageKey) = false := by
    rw [List.all_eq_false]
    exact ⟨object, h.kept, by simp [h.key]⟩
  rw [lookupFinalizedArtifact]
  simp only [h.found, h.ready, hobject, Bool.not_true, Bool.or_false, Bool.false_eq_true, if_false]

/-- What a completed upload answers. -/
theorem Archived.ingestReceived (config : IngressConfig) (u : ArtifactUpload)
    (received : List UInt8) (h : Archived w binding row object) (hstate : binding.state = .completed) :
    (Reports.ingestReceived config u (u.opened w) binding received).1 = u.opened w ∧
      ((u.faults.inspect = false ∧ object.content.length = received.length ∧
          sha256 object.content = sha256 received ∧
          (Reports.ingestReceived config u (u.opened w) binding received).2 =
            .ok ⟨row.artifactId, ⟨row.storageKey, row.byteSize, row.sha256⟩, row.byteSize,
              row.sha256⟩) ∨
        (¬(u.faults.inspect = false ∧ object.content.length = received.length ∧
            sha256 object.content = sha256 received) ∧
          ∃ e, (Reports.ingestReceived config u (u.opened w) binding received).2 = .error e)) := by
  have hexisting : existingArtifact u (u.opened w) binding =
      if u.faults.inspect then none
      else some ⟨row.artifactId, ⟨row.storageKey, row.byteSize, row.sha256⟩, row.byteSize,
        row.sha256⟩ := by
    have hfilter : (some row.artifactId).filter (· ≠ "") = some row.artifactId := by
      simp [Option.filter, h.nonempty]
    rw [existingArtifact, ArtifactUpload.opened, h.named, hfilter]
    exact h.lookup _
  rw [Reports.ingestReceived, if_pos hstate, hexisting]
  cases hinspect : u.faults.inspect with
  | true => exact ⟨rfl, .inr ⟨fun hsame => Bool.noConfusion hsame.1, _, rfl⟩⟩
  | false =>
    simp only [Bool.false_eq_true, if_false, h.size, h.sha, true_and]
    by_cases hsame : object.content.length = received.length ∧
        sha256 object.content = sha256 received
    · rw [if_pos hsame]
      exact ⟨rfl, .inl ⟨hsame.1, hsame.2, rfl⟩⟩
    · rw [if_neg hsame]
      exact ⟨rfl, .inr ⟨hsame, _, rfl⟩⟩

/-! ### All that an upload can do -/

/-- An upload is refused before there is an object. -/
def RefusedEarly (config : IngressConfig) (u : ArtifactUpload)
    (binding : ReportArtifactUploadBinding) : Prop :=
  ∀ received, u.received config = .ok received → binding.state ≠ .completed ∧
    (binding.expectedArchiveSize.any (· ≠ (received.length : ℤ)) = true ∨
      StoreRefuses config u received)

/-- An upload that the store has an object of. -/
structure ReachesStore (config : IngressConfig) (w : IngressWorld) (u : ArtifactUpload)
    (binding : ReportArtifactUploadBinding) (received : List UInt8) : Prop where
  opens : u.Opens config w binding
  state : binding.state ≠ .completed
  arrived : u.received config = .ok received
  size : ¬binding.expectedArchiveSize.any (· ≠ (received.length : ℤ)) = true
  store : ¬StoreRefuses config u received

/-- All that an upload can do. -/
inductive UploadOutcome (config : IngressConfig) (w : IngressWorld) (u : ArtifactUpload) :
    IngressWorld × Except PyError ReportArtifactRecord → Prop
  | closed (e : PyError) (h : ∀ binding, ¬u.Opens config w binding) :
    UploadOutcome config w u (w, .error e)
  | refused (e : PyError) {binding : ReportArtifactUploadBinding}
    (hopens : u.Opens config w binding) (h : RefusedEarly config u binding) :
    UploadOutcome config w u (⟨w.reports, w.uploads, u.tempsAfter w, w.objects⟩, .error e)
  | again (result : Except PyError ReportArtifactRecord) {binding : ReportArtifactUploadBinding}
    {received : List UInt8} {row : ReportArtifactRecord} {object : StoredObject}
    (hopens : u.Opens config w binding) (hstate : binding.state = .completed)
    (harrived : u.received config = .ok received) (harchived : Archived w binding row object)
    (hgiven : ∀ row', result = .ok row' → row' = row ∧ SameDigest object.content received)
    (hsame : u.Undisturbed → object.content = received → result = .ok row) :
    UploadOutcome config w u (⟨w.reports, w.uploads, u.tempsAfter w, w.objects⟩, result)
  | orphaned (e : PyError) {binding : ReportArtifactUploadBinding} {received : List UInt8}
    (hstore : ReachesStore config w u binding received)
    (h : u.faults.unlink = true ∨ ¬NothingFails config w u received) :
    UploadOutcome config w u
      (⟨w.reports, w.uploads, u.tempsAfter w, u.stored received :: w.objects⟩, .error e)
  | stored {binding : ReportArtifactUploadBinding} {received : List UInt8}
    {artifacts : Table ReportArtifactRecord.key}
    (hstore : ReachesStore config w u binding received) (hunlink : u.faults.unlink = false)
    (h : NothingFails config w u received)
    (hinsert : w.reports.artifacts.insert (archiveRow u (u.artifact received)) =
      some artifacts) :
    UploadOutcome config w u
      (⟨{ w.reports with artifacts := artifacts },
          w.uploads.put (u.completedBinding binding received), w.temps,
          u.stored received :: w.objects⟩,
        .ok (archiveRow u (u.artifact received)))

/-- Where `ingest` succeeds, a row is written, or all is rolled back and the objects stay. -/
theorem uploadArtifact_of_ok {artifact : IngressArtifact} {s : Ingress}
    (h : u.Opens config w binding) (hbody : u.body config w binding = (s, .ok artifact))
    (htemps : s.world.temps = u.tempName :: w.temps) (hunlink : u.faults.unlink = false)
    (hbound : (s.world.uploads.find? u.artifactUploadId).isSome = true) :
    (∃ reports, s.world.reports.finalizeArtifact (archiveRow u artifact) = .ok reports ∧
      u.faults.finalize = false ∧ u.faults.later = false ∧
      uploadArtifact config u w = (⟨reports, s.world.uploads, w.temps, s.world.objects⟩,
        .ok (publishedRow s.world.reports (archiveRow u artifact)))) ∨
    ((u.faults.finalize = true ∨ u.faults.later = true ∨
        ∃ e, s.world.reports.finalizeArtifact (archiveRow u artifact) = .error e) ∧
      ∃ e, uploadArtifact config u w =
        (⟨w.reports, w.uploads, w.temps, s.world.objects⟩, .error e)) := by
  have hnone : ¬(s.world.uploads.find? u.artifactUploadId).isNone = true := by
    rw [Option.isSome_iff_ne_none] at hbound
    simpa using hbound
  rw [uploadArtifact, ingestStream, ingest_of_opens h, hbody, unlinkTemp]
  simp only [hunlink, Bool.false_eq_true, if_false, htemps, List.erase_cons_head, if_neg hnone]
  cases hfinalize : u.faults.finalize with
  | true => exact .inr ⟨.inl rfl, _, rfl⟩
  | false =>
    cases hreports : s.world.reports.finalizeArtifact (archiveRow u artifact) with
    | error e => exact .inr ⟨.inr (.inr ⟨e, rfl⟩), _, rfl⟩
    | ok reports =>
      cases hlater : u.faults.later with
      | true => exact .inr ⟨.inr (.inl rfl), _, rfl⟩
      | false => exact .inl ⟨reports, rfl, rfl, rfl, rfl⟩

/-- An upload to a completed binding changes no row and no object. -/
theorem outcome_again {row : ReportArtifactRecord} {object : StoredObject}
    (hopens : u.Opens config w binding) (hstate : binding.state = .completed)
    (harrived : u.received config = .ok received) (harchived : Archived w binding row object)
    (hinv : IngressInv w) : UploadOutcome config w u (uploadArtifact config u w) := by
  have hbody : u.body config w binding =
      ingestReceived config u (u.opened w) binding received := by
    rw [ArtifactUpload.body, harrived]
  obtain ⟨hopened, hresult⟩ :=
    harchived.ingestReceived config u received hstate
  rw [← hbody] at hopened hresult
  have htemps : (u.body config w binding).1.world.temps = u.tempName :: w.temps := by
    rw [hopened, ArtifactUpload.opened]
  -- what is refused is refused to an undisturbed upload of the same bytes neither
  have hrefused : ∀ e, uploadArtifact config u w =
      (⟨w.reports, w.uploads, u.tempsAfter w, (u.body config w binding).1.world.objects⟩,
        .error e) → (u.Undisturbed → object.content ≠ received) →
      UploadOutcome config w u (uploadArtifact config u w) := by
    intro e he hother
    rw [he, hopened]
    exact .again (.error e) hopens hstate harrived harchived (fun _ h => nomatch h)
      fun hundisturbed hsame => absurd hsame (hother hundisturbed)
  cases hunlink : u.faults.unlink with
  | true =>
    obtain ⟨e, he⟩ := uploadArtifact_of_failed hopens htemps (.inl hunlink)
    refine hrefused e he fun hundisturbed => ?_
    rw [hundisturbed.unlink] at hunlink
    cases hunlink
  | false =>
    have htempsAfter : u.tempsAfter w = w.temps := by
      rw [ArtifactUpload.tempsAfter, hunlink, if_neg Bool.false_ne_true]
    rcases hresult with ⟨-, hsize, hsha, hok⟩ | ⟨hother, herror⟩
    · have hpair : u.body config w binding = (u.opened w, .ok ⟨row.artifactId,
          ⟨row.storageKey, row.byteSize, row.sha256⟩, row.byteSize, row.sha256⟩) :=
        Prod.ext hopened hok
      have hpublished := harchived.published hinv hopens.binds
      have hfound : (w.uploads.find? u.artifactUploadId).isSome = true := by
        rw [hopens.found, Option.isSome_some]
      have hwritten : w.reports.finalizeArtifact (archiveRow u ⟨row.artifactId,
          ⟨row.storageKey, row.byteSize, row.sha256⟩, row.byteSize, row.sha256⟩) = .ok w.reports :=
        finalizeArtifact_same _ hpublished (harchived.job.trans hopens.binds.job) rfl rfl rfl
          harchived.ready
      rcases uploadArtifact_of_ok hopens hpair rfl hunlink hfound with
        ⟨reports, hreports, -, -, hupload⟩ | ⟨hfault, e, hupload⟩
      · obtain rfl := Except.ok.inj (hwritten.symm.trans hreports)
        have hrow : publishedRow w.reports (archiveRow u ⟨row.artifactId,
            ⟨row.storageKey, row.byteSize, row.sha256⟩, row.byteSize, row.sha256⟩) = row := by
          rw [publishedRow]
          exact (congrArg (Option.getD · _) hpublished).trans rfl
        change uploadArtifact config u w = (⟨w.reports, w.uploads, w.temps, w.objects⟩,
          .ok (publishedRow w.reports _)) at hupload
        rw [hrow] at hupload
        rw [hupload, ← htempsAfter]
        exact .again (.ok row) hopens hstate harrived harchived
          (fun row' h => ⟨(Except.ok.inj h).symm, hsize, hsha⟩) fun _ _ => rfl
      · refine hrefused e ?_ fun hundisturbed => ?_
        · rw [hupload, htempsAfter, hopened]
        · rcases hfault with hfinalize | hlater | ⟨e', herror⟩
          · exact absurd hundisturbed.finalize (by simp [hfinalize])
          · exact absurd hundisturbed.later (by simp [hlater])
          · cases hwritten.symm.trans herror
    · obtain ⟨e, he⟩ := uploadArtifact_of_failed hopens htemps (.inr herror)
      refine hrefused e he fun hundisturbed hsame => hother ⟨hundisturbed.inspect, ?_, ?_⟩
      · rw [hsame]
      · rw [hsame]

/-- The store has the object of an upload that reaches it, and keeps it. -/
theorem outcome_stored (hfresh : u.Fresh w) (h : ReachesStore config w u binding received) :
    UploadOutcome config w u (uploadArtifact config u w) := by
  have hbody : u.body config w binding =
      ingestReceived config u (u.opened w) binding received := by
    rw [ArtifactUpload.body, h.arrived]
  have hstored := ingestReceived_stored h.opens.found hfresh h.state h.size h.store
  rw [← hbody] at hstored
  rcases hstored with ⟨hcompletes, hok⟩ | ⟨hnot, e', herror, hobjects, htemps⟩
  · have hobjects : (u.body config w binding).1.world.objects = u.stored received :: w.objects := by
      rw [hok]
    cases hunlink : u.faults.unlink with
    | true =>
      obtain ⟨e, he⟩ := uploadArtifact_of_failed h.opens (by rw [hok]) (.inl hunlink)
      rw [he, hobjects]
      exact .orphaned e h (.inl hunlink)
    | false =>
      have htempsAfter : u.tempsAfter w = w.temps := by
        rw [ArtifactUpload.tempsAfter, hunlink, if_neg Bool.false_ne_true]
      have hbinding : u.artifactUploadId = (u.completedBinding binding received).key :=
        (Table.key_of_find? h.opens.found).symm
      have hbound : ((w.uploads.put (u.completedBinding binding received)).find?
          u.artifactUploadId).isSome = true := by
        have hold := h.opens.found
        rw [hbinding] at hold ⊢
        rw [Table.find?_put_self hold]
        rfl
      have hpublish : NothingFails config w u received ↔ u.faults.finalize = false ∧
          u.faults.later = false ∧ (∀ row ∈ w.reports.artifacts.rows, row.publicationKey ≠
            publicationKey u.reportJobId u.remoteResultId u.remoteResultPartId) ∧
          (w.reports.jobs.find? u.reportJobId).isSome = true :=
        ⟨fun h => ⟨h.finalize, h.later, h.unpublished, h.job⟩, fun ⟨hfinalize, hlater, hnew, hjob⟩ =>
          ⟨hcompletes.stat, hcompletes.size, hcompletes.sha, hcompletes.foreignKeys,
            hcompletes.update, hfinalize, hlater, hnew, hjob⟩⟩
      rcases uploadArtifact_of_ok h.opens hok rfl hunlink hbound with
        ⟨reports, hreports, hfinalize, hlater, hupload⟩ | ⟨hfault, e, hupload⟩
      · have hnew : (∀ row ∈ w.reports.artifacts.rows, row.publicationKey ≠
            publicationKey u.reportJobId u.remoteResultId u.remoteResultPartId) ∧
            (w.reports.jobs.find? u.reportJobId).isSome = true := by
          by_contra hnot
          obtain ⟨e, he⟩ := finalizeArtifact_refused
            (archiveRow u (u.artifact received)) hfresh.storage hnot
          cases hreports.symm.trans he
        obtain ⟨artifacts, hinsert, hwritten⟩ := finalizeArtifact_new
          (archiveRow u (u.artifact received)) hnew.1 hfresh.storage hfresh.artifact hnew.2
        obtain rfl := Except.ok.inj (hwritten.symm.trans hreports)
        have hrow : publishedRow w.reports (archiveRow u (u.artifact received)) =
            archiveRow u (u.artifact received) := by
          have hfind : (w.reports.artifacts.rows.find? fun existing => existing.publicationKey =
              (archiveRow u (u.artifact received)).publicationKey) = none :=
            List.find?_eq_none.mpr fun row hrow => by
              rw [decide_eq_true_eq]
              exact hnew.1 row hrow
          rw [publishedRow, hfind, Option.getD_none]
        rw [hupload, hrow]
        exact .stored h hunlink (hpublish.mpr ⟨hfinalize, hlater, hnew⟩) hinsert
      · rw [hupload, ← htempsAfter]
        refine .orphaned e h (.inr fun hnothing => ?_)
        obtain ⟨hfinalize, hlater, hnew⟩ := hpublish.mp hnothing
        obtain ⟨artifacts, -, hwritten⟩ := finalizeArtifact_new
          (archiveRow u (u.artifact received)) hnew.1 hfresh.storage hfresh.artifact hnew.2
        rcases hfault with hfault | hfault | ⟨e', herror⟩
        · cases hfinalize.symm.trans hfault
        · cases hlater.symm.trans hfault
        · cases hwritten.symm.trans herror
  · obtain ⟨e, he⟩ := uploadArtifact_of_failed h.opens htemps (.inr ⟨e', herror⟩)
    rw [he, hobjects]
    refine .orphaned e h (.inr fun hnothing => hnot ?_)
    exact ⟨hnothing.stat, hnothing.size, hnothing.sha, hnothing.foreignKeys, hnothing.update⟩

/-- An upload that is refused early changes no row and no object. -/
theorem outcome_refused (hopens : u.Opens config w binding) (h : RefusedEarly config u binding) :
    UploadOutcome config w u (uploadArtifact config u w) := by
  have hbody : ∃ e, (u.body config w binding).2 = .error e ∧
      (u.body config w binding).1.world.objects = w.objects ∧
      (u.body config w binding).1.world.temps = u.tempName :: w.temps := by
    rw [ArtifactUpload.body]
    cases harrived : u.received config with
    | error e => exact ⟨e, rfl, rfl, rfl⟩
    | ok received =>
      obtain ⟨hstate, hearly⟩ := h received harrived
      by_cases hsize : binding.expectedArchiveSize.any (· ≠ (received.length : ℤ)) = true
      · exact ingestReceived_size (u.opened w) hstate hsize
      · exact ingestReceived_refused (u.opened w) hstate hsize (hearly.resolve_left hsize)
  obtain ⟨e', herror, hobjects, htemps⟩ := hbody
  obtain ⟨e, he⟩ := uploadArtifact_of_failed hopens htemps (.inr ⟨e', herror⟩)
  rw [he, hobjects]
  exact .refused e hopens h

/-- An upload does one of that. -/
theorem uploadArtifact_outcome (config : IngressConfig) (hinv : IngressInv w) (hfresh : u.Fresh w) :
    UploadOutcome config w u (uploadArtifact config u w) := by
  by_cases hopen : ∃ binding, u.Opens config w binding
  · obtain ⟨binding, hopens⟩ := hopen
    by_cases hearly : RefusedEarly config u binding
    · exact outcome_refused hopens hearly
    · simp only [RefusedEarly, not_forall] at hearly
      obtain ⟨received, harrived, hearly⟩ := hearly
      by_cases hstate : binding.state = .completed
      · obtain ⟨row, object, harchived⟩ :=
          hinv.archived binding (Table.mem_of_find? hopens.found) hstate
        exact outcome_again hopens hstate harrived harchived hinv
      · have hstore := not_or.mp fun h => hearly ⟨hstate, h⟩
        exact outcome_stored hfresh ⟨hopens, hstate, harrived, hstore.1, hstore.2⟩
  · obtain ⟨e, he⟩ := uploadArtifact_of_closed (not_exists.mp hopen)
    rw [he]
    exact .closed e (not_exists.mp hopen)

/-! ## Every state reached -/

theorem IngressInv.initial : IngressInv .initial where
  archived _ hbinding := absurd hbinding Table.not_mem_empty
  publications _ hrow := absurd hrow Table.not_mem_empty
  objects _ hobject := absurd hobject List.not_mem_nil

/-- New objects and artifacts do not matter to a completed upload. -/
theorem Archived.mono {w' : IngressWorld} {row : ReportArtifactRecord} {object : StoredObject}
    (h : Archived w binding row object)
    (hartifacts : ∀ id row, w.reports.artifacts.find? id = some row →
      w'.reports.artifacts.find? id = some row)
    (hobjects : w.objects ⊆ w'.objects) : Archived w' binding row object :=
  { h with
    found := hartifacts _ _ h.found
    kept := hobjects h.kept }

theorem createJob_artifacts {reports reports' : ReportStore} {id : String}
    {request : ReportRequest} {now : ℤ} (h : reports.createJob id request now = .ok reports') :
    reports'.artifacts = reports.artifacts := by
  unfold ReportStore.createJob at h
  split at h
  · cases h
  · cases h
    rfl

/-- Preparing an upload adds a binding that is not completed, or none. -/
theorem prepareUpload_spec (config : IngressConfig) (w : IngressWorld) (binding : ReportArtifactUploadBinding) :
    (prepareUpload config w binding).reports = w.reports ∧
      (prepareUpload config w binding).objects = w.objects ∧
      ∀ binding' ∈ (prepareUpload config w binding).uploads, binding' ∈ w.uploads ∨
        binding'.state = .prepared := by
  unfold prepareUpload
  split_ifs
  · exact ⟨rfl, rfl, fun _ h => .inl h⟩
  · split
    · exact ⟨rfl, rfl, fun _ h => .inl h⟩
    · rename_i uploads hinsert
      refine ⟨rfl, rfl, fun binding' h => ?_⟩
      rcases (Table.mem_insert hinsert).mp h with h | rfl
      · exact .inl h
      · exact .inr rfl

/-- A new object has a name of its own. -/
theorem objects_of_fresh (hinv : IngressInv w) (hfresh : u.Fresh w) :
    ∀ object ∈ u.stored received :: w.objects, ∀ object' ∈ u.stored received :: w.objects,
      object.storageKey = object'.storageKey → object = object' := by
  intro object hobject object' hobject' hkey
  rcases List.mem_cons.mp hobject with rfl | hobject
  · rcases List.mem_cons.mp hobject' with rfl | hobject'
    · rfl
    · exact absurd hkey.symm (hfresh.object _ hobject')
  · rcases List.mem_cons.mp hobject' with rfl | hobject'
    · exact absurd hkey (hfresh.object _ hobject)
    · exact hinv.objects _ hobject _ hobject' hkey

theorem IngressInv.with_temps (hinv : IngressInv w) (temps : List String) :
    IngressInv ⟨w.reports, w.uploads, temps, w.objects⟩ := by
  refine ⟨fun binding hbinding hstate => ?_, hinv.publications, hinv.objects⟩
  obtain ⟨row, object, harchived⟩ := hinv.archived binding hbinding hstate
  exact ⟨row, object, harchived.mono (fun _ _ h => h) (List.Subset.refl _)⟩

/-- An upload keeps the artifacts of the completed ones, and adds its own. -/
theorem IngressInv.upload (hinv : IngressInv w) (hfresh : u.Fresh w)
    {outcome : IngressWorld × Except PyError ReportArtifactRecord}
    (h : UploadOutcome config w u outcome) : IngressInv outcome.1 := by
  cases h with
  | closed => exact hinv
  | refused => exact hinv.with_temps _
  | again => exact hinv.with_temps _
  | orphaned e hstore =>
    refine ⟨fun binding hbinding hstate => ?_, hinv.publications, objects_of_fresh hinv hfresh⟩
    obtain ⟨row, object, harchived⟩ := hinv.archived binding hbinding hstate
    exact ⟨row, object, harchived.mono (fun _ _ h => h) (List.subset_cons_self _ _)⟩
  | stored hstore hunlink hnothing hinsert =>
    rename_i binding received artifacts
    have hbound : w.uploads.find? (u.completedBinding binding received).key = some binding := by
      have hkey : binding.key = u.artifactUploadId := Table.key_of_find? hstore.opens.found
      change w.uploads.find? binding.key = some binding
      rw [hkey]
      exact hstore.opens.found
    refine ⟨fun binding' hbinding' hstate => ?_, ?_, objects_of_fresh hinv hfresh⟩
    · rcases (Table.mem_put_of_find? hbound).mp hbinding' with ⟨hbinding', -⟩ | rfl
      · obtain ⟨row, object, harchived⟩ := hinv.archived binding' hbinding' hstate
        exact ⟨row, object, harchived.mono (fun _ _ h => Table.find?_insert_of_some hinsert h)
          (List.subset_cons_self _ _)⟩
      · have hstored : u.stored received ∈ u.stored received :: w.objects :=
          List.mem_cons_self
        refine ⟨archiveRow u (u.artifact received), u.stored received, rfl, hfresh.named,
          Table.find?_insert_self hinsert, rfl, hstore.opens.binds.job.symm, ?_, hstored, rfl,
          hnothing.size.symm, hnothing.sha.symm⟩
        obtain ⟨hjob, hresult, hpart⟩ := hstore.opens.binds
        change publicationKey _ _ _ = publicationKey binding.reportJobId binding.remoteResultId
          binding.remoteResultPartId
        rw [hjob, hresult, hpart]
    · intro row hrow row' hrow' hsame
      rcases (Table.mem_insert hinsert).mp hrow with hrow | rfl
      · rcases (Table.mem_insert hinsert).mp hrow' with hrow' | rfl
        · exact hinv.publications _ hrow _ hrow' hsame
        · exact absurd hsame (hnothing.unpublished _ hrow)
      · rcases (Table.mem_insert hinsert).mp hrow' with hrow' | rfl
        · exact absurd hsame.symm (hnothing.unpublished _ hrow')
        · rfl

theorem IngressInv.step {w' : IngressWorld} {a : IngressAction} (hinv : IngressInv w)
    (h : IngressStep config w a w') : IngressInv w' := by
  cases h with
  | createJob h =>
    have hartifacts := createJob_artifacts h
    refine ⟨fun binding hbinding hstate => ?_, ?_, hinv.objects⟩
    · obtain ⟨row, object, harchived⟩ := hinv.archived binding hbinding hstate
      refine ⟨row, object, harchived.mono (fun id row hrow => ?_) (List.Subset.refl _)⟩
      rw [hartifacts]
      exact hrow
    · rw [hartifacts]
      exact hinv.publications
  | prepare =>
    rename_i binding
    obtain ⟨hreports, hobjects, hbindings⟩ := prepareUpload_spec config w binding
    refine ⟨fun binding' hbinding' hstate => ?_, ?_, ?_⟩
    · rcases hbindings binding' hbinding' with hold | hprepared
      · obtain ⟨row, object, harchived⟩ := hinv.archived binding' hold hstate
        refine ⟨row, object, harchived.mono (fun id row hrow => ?_) ?_⟩
        · rw [hreports]
          exact hrow
        · rw [hobjects]
          exact List.Subset.refl _
      · rw [hprepared] at hstate
        cases hstate
    · rw [hreports]
      exact hinv.publications
    · rw [hobjects]
      exact hinv.objects
  | upload hfresh => exact hinv.upload hfresh (uploadArtifact_outcome config hinv hfresh)

theorem IngressInv.of_run {as : List IngressAction}
    (run : Transition.Run (IngressStep config) .initial as w) : IngressInv w :=
  run.invariant IngressInv .initial fun _ _ _ hinv hstep => hinv.step hstep

/-! ## Lawful uploads, and clean ones -/

theorem tempsAfter_eq_iff : u.tempsAfter w = w.temps ↔ u.faults.unlink = false := by
  rw [ArtifactUpload.tempsAfter]
  cases u.faults.unlink with
  | true => simp
  | false => simp

theorem ArtifactUpload.Opens.eq {other : ReportArtifactUploadBinding}
    (h : u.Opens config w binding) (hother : u.Opens config w other) : other = binding :=
  Option.some.inj (hother.found.symm.trans h.found)

/-- Bytes for a completed upload find its binding. -/
theorem ArtifactUpload.CompletedWith.opens {artifactId : String} {bytes other : List UInt8}
    (h : u.CompletedWith w artifactId bytes) (harrives : u.Arrives config other) :
    ∃ binding, u.Opens config w binding ∧ binding.state = .completed := by
  obtain ⟨binding, row, hfound, hbinds, hstate, -⟩ := h
  exact ⟨binding, ⟨hfound, hbinds, harrives.1⟩, hstate⟩

/-- An upload that succeeds is completed, with bytes that cannot be told from those received. -/
theorem UploadOutcome.completed (hinv : IngressInv w)
    {outcome : IngressWorld × Except PyError ReportArtifactRecord}
    (h : UploadOutcome config w u outcome) {row : ReportArtifactRecord}
    (hrow : outcome.2 = .ok row) :
    ∃ bytes received, u.CompletedWith outcome.1 row.artifactId bytes ∧
      u.Arrives config received ∧ SameDigest bytes received := by
  cases h with
  | closed => cases hrow
  | refused => cases hrow
  | again result hopens hstate harrived harchived hgiven hsame =>
    rename_i binding received row' object
    obtain ⟨rfl, hdigest⟩ := hgiven row hrow
    have hwith := (harchived.completedWith_iff hinv hopens.found hopens.binds hstate).mpr
      ⟨rfl, rfl⟩
    exact ⟨object.content, received, hwith, ⟨hopens.free, harrived⟩, hdigest⟩
  | orphaned => cases hrow
  | stored hstore hunlink hnothing hinsert =>
    rename_i binding received artifacts
    obtain rfl := Except.ok.inj hrow
    have hkey : u.artifactUploadId = (u.completedBinding binding received).key :=
      (Table.key_of_find? hstore.opens.found).symm
    have hfound : (w.uploads.put (u.completedBinding binding received)).find?
        u.artifactUploadId = some (u.completedBinding binding received) := by
      have hold := hstore.opens.found
      rw [hkey] at hold ⊢
      exact Table.find?_put_self hold
    refine ⟨_, received, ⟨u.completedBinding binding received,
      archiveRow u (u.artifact received), hfound,
      ⟨hstore.opens.binds.job, hstore.opens.binds.result, hstore.opens.binds.part⟩, rfl, rfl,
      Table.find?_insert_self hinsert, List.mem_cons_self⟩, ⟨hstore.opens.free, hstore.arrived⟩,
      hnothing.size, hnothing.sha⟩

/-- Nothing is asked about replays of an upload that is not completed. -/
theorem ingressLaw_of_open (hopen : ∀ binding, u.Opens config w binding →
      ∀ received, u.received config = .ok received → binding.state ≠ .completed)
    (htemps : (uploadArtifact config u w).1.temps = w.temps)
    (hfailed : ∀ e, (uploadArtifact config u w).2 = .error e →
      (uploadArtifact config u w).1.objects = w.objects ∧
        (uploadArtifact config u w).1.reports.artifacts = w.reports.artifacts)
    (hcompleted : ∀ row, (uploadArtifact config u w).2 = .ok row →
      ∃ bytes received, u.CompletedWith (uploadArtifact config u w).1 row.artifactId bytes ∧
        u.Arrives config received ∧ SameDigest bytes received) :
    IngressLaw config w u where
  temps := htemps
  failed := hfailed
  completed := hcompleted
  replay artifactId bytes hwith harrives := by
    obtain ⟨binding, hopens, hstate⟩ := hwith.opens harrives
    exact absurd hstate (hopen binding hopens _ harrives.2)
  reject artifactId bytes other hwith harrives := by
    obtain ⟨binding, hopens, hstate⟩ := hwith.opens harrives
    exact absurd hstate (hopen binding hopens _ harrives.2)

theorem law_of_closed {e : PyError} (h : ∀ binding, ¬u.Opens config w binding)
    (hupload : uploadArtifact config u w = (w, .error e)) : IngressLaw config w u := by
  refine ingressLaw_of_open (fun binding hopens => absurd hopens (h binding)) ?_ ?_ ?_
  · rw [hupload]
  · rw [hupload]
    exact fun _ _ => ⟨rfl, rfl⟩
  · rw [hupload]
    exact fun _ h => nomatch h

theorem law_iff_of_refused {e : PyError} (hopens : u.Opens config w binding)
    (h : RefusedEarly config u binding) (hupload : uploadArtifact config u w =
      (⟨w.reports, w.uploads, u.tempsAfter w, w.objects⟩, .error e)) :
    IngressLaw config w u ↔ UploadClean config w u := by
  constructor
  · intro hlaw binding' hopens'
    have htemps := hlaw.temps
    rw [hupload, tempsAfter_eq_iff] at htemps
    refine ⟨htemps, fun received harrived => ?_⟩
    obtain ⟨hstate, hearly⟩ := h received harrived
    rw [hopens.eq hopens', if_neg hstate]
    exact hearly.imp_right .inl
  · intro hclean
    have hunlink := (hclean binding hopens).1
    refine ingressLaw_of_open (fun binding' hopens' received harrived => ?_) ?_ ?_ ?_
    · rw [hopens.eq hopens']
      exact (h received harrived).1
    · rw [hupload]
      exact tempsAfter_eq_iff.mpr hunlink
    · rw [hupload]
      exact fun _ _ => ⟨rfl, rfl⟩
    · rw [hupload]
      exact fun _ h => nomatch h

/-- An upload to a completed binding is lawful when its bytes are those of the artifact: where they
are not, no conflict is recorded. -/
theorem law_iff_of_again (hinv : IngressInv w) {result : Except PyError ReportArtifactRecord}
    {row : ReportArtifactRecord} {object : StoredObject} (hopens : u.Opens config w binding)
    (hstate : binding.state = .completed) (harrived : u.received config = .ok received)
    (harchived : Archived w binding row object)
    (hgiven : ∀ row', result = .ok row' → row' = row ∧ SameDigest object.content received)
    (hsame : u.Undisturbed → object.content = received → result = .ok row)
    (hupload : uploadArtifact config u w =
      (⟨w.reports, w.uploads, u.tempsAfter w, w.objects⟩, result)) :
    IngressLaw config w u ↔ UploadClean config w u := by
  have hwith : ∀ {artifactId bytes}, u.CompletedWith w artifactId bytes ↔
      artifactId = row.artifactId ∧ bytes = object.content :=
    harchived.completedWith_iff hinv hopens.found hopens.binds hstate
  have hclean : UploadClean config w u ↔ u.faults.unlink = false ∧ received = object.content := by
    constructor
    · intro hclean
      obtain ⟨hunlink, hreceived⟩ := hclean binding hopens
      have hbytes := hreceived received harrived
      rw [if_pos hstate] at hbytes
      exact ⟨hunlink, hbytes _ _ (hwith.mpr ⟨rfl, rfl⟩)⟩
    · rintro ⟨hunlink, hbytes⟩ binding' hopens'
      refine ⟨hunlink, fun received' harrived' => ?_⟩
      obtain rfl := Except.ok.inj (harrived.symm.trans harrived')
      rw [hopens.eq hopens', if_pos hstate]
      intro artifactId bytes hcompleted
      rw [hbytes, (hwith.mp hcompleted).2]
  rw [hclean]
  constructor
  · intro hlaw
    have htemps := hlaw.temps
    rw [hupload, tempsAfter_eq_iff] at htemps
    refine ⟨htemps, ?_⟩
    by_contra hother
    obtain ⟨-, binding', hfound, hconflict⟩ :=
      hlaw.reject _ _ received (hwith.mpr ⟨rfl, rfl⟩) ⟨hopens.free, harrived⟩ hother
    rw [hupload] at hfound
    obtain rfl := Option.some.inj (hopens.found.symm.trans hfound)
    rw [hstate] at hconflict
    cases hconflict
  · rintro ⟨hunlink, hbytes⟩
    have htemps := (tempsAfter_eq_iff (w := w)).mpr hunlink
    rw [htemps] at hupload
    refine ⟨?_, ?_, ?_, ?_, ?_⟩
    · rw [hupload]
    · rw [hupload]
      exact fun _ _ => ⟨rfl, rfl⟩
    · rw [hupload]
      exact fun row' hrow' =>
        (UploadOutcome.again result hopens hstate harrived harchived hgiven hsame).completed hinv
          hrow'
    · intro artifactId bytes hcompleted _ hundisturbed
      refine ⟨row, ?_, (hwith.mp hcompleted).1.symm⟩
      rw [hupload, hsame hundisturbed hbytes.symm]
    · intro artifactId bytes other hcompleted harrives hother
      obtain rfl := Except.ok.inj (harrived.symm.trans harrives.2)
      exact absurd (hbytes.trans (hwith.mp hcompleted).2.symm) hother

/-- Where an object is left behind, the upload was not clean. -/
theorem law_iff_of_orphaned {e : PyError} (hstore : ReachesStore config w u binding received)
    (h : u.faults.unlink = true ∨ ¬NothingFails config w u received)
    (hupload : uploadArtifact config u w =
      (⟨w.reports, w.uploads, u.tempsAfter w, u.stored received :: w.objects⟩, .error e)) :
    IngressLaw config w u ↔ UploadClean config w u := by
  constructor
  · intro hlaw
    have hobjects := (hlaw.failed e (by rw [hupload])).1
    rw [hupload] at hobjects
    exact absurd hobjects (List.cons_ne_self _ _)
  · intro hclean
    obtain ⟨hunlink, hreceived⟩ := hclean binding hstore.opens
    have hcases := hreceived received hstore.arrived
    rw [if_neg hstore.state] at hcases
    rcases hcases with hsize | hrefuses | hnothing
    · exact absurd hsize hstore.size
    · exact absurd hrefuses hstore.store
    · refine absurd hnothing (h.resolve_left ?_)
      rw [hunlink]
      exact Bool.false_ne_true

theorem law_and_clean_of_stored (hinv : IngressInv w) {artifacts : Table ReportArtifactRecord.key}
    (hstore : ReachesStore config w u binding received) (hunlink : u.faults.unlink = false)
    (h : NothingFails config w u received)
    (hinsert : w.reports.artifacts.insert (archiveRow u (u.artifact received)) = some artifacts)
    (hupload : uploadArtifact config u w =
      (⟨{ w.reports with artifacts := artifacts },
          w.uploads.put (u.completedBinding binding received), w.temps,
          u.stored received :: w.objects⟩, .ok (archiveRow u (u.artifact received)))) :
    IngressLaw config w u ∧ UploadClean config w u := by
  constructor
  · refine ingressLaw_of_open (fun binding' hopens' received' harrived' => ?_) ?_ ?_ ?_
    · rw [hstore.opens.eq hopens']
      exact hstore.state
    · rw [hupload]
    · rw [hupload]
      exact fun _ h => nomatch h
    · rw [hupload]
      exact fun row hrow => (UploadOutcome.stored hstore hunlink h hinsert).completed hinv hrow
  · intro binding' hopens'
    refine ⟨hunlink, fun received' harrived' => ?_⟩
    obtain rfl := Except.ok.inj (hstore.arrived.symm.trans harrived')
    rw [hstore.opens.eq hopens', if_neg hstore.state]
    exact .inr (.inr h)

/-- An upload is lawful exactly when it is clean. -/
theorem law_iff_clean (hinv : IngressInv w) (hfresh : u.Fresh w) :
    IngressLaw config w u ↔ UploadClean config w u := by
  have houtcome := uploadArtifact_outcome config hinv hfresh
  generalize hupload : uploadArtifact config u w = outcome at houtcome
  cases houtcome with
  | closed e h =>
    exact iff_of_true (law_of_closed h hupload) fun binding hopens => absurd hopens (h binding)
  | refused e hopens h => exact law_iff_of_refused hopens h hupload
  | again result hopens hstate harrived harchived hgiven hsame =>
    exact law_iff_of_again hinv hopens hstate harrived harchived hgiven hsame hupload
  | orphaned e hstore h => exact law_iff_of_orphaned hstore h hupload
  | stored hstore hunlink h hinsert =>
    obtain ⟨hlaw, hclean⟩ := law_and_clean_of_stored hinv hstore hunlink h hinsert hupload
    exact iff_of_true hlaw hclean

/-! ## Runs -/

/-- Every upload of a run is so, in the state that it finds. -/
def EachUpload (config : IngressConfig) (as : List IngressAction)
    (p : IngressWorld → ArtifactUpload → Prop) : Prop :=
  ∀ before u after w w', as = before ++ .upload u :: after →
    Transition.Run (IngressStep config) .initial before w →
    IngressStep config w (.upload u) w' → p w u

/-- The uploads of a run are lawful exactly when they are clean. -/
theorem uploads_lawful_iff (config : IngressConfig) (as : List IngressAction) :
    EachUpload config as (IngressLaw config) ↔ EachUpload config as (UploadClean config) := by
  refine forall₅_congr fun before u after w w' => forall₃_congr fun has hrun hstep => ?_
  cases hstep with
  | upload hfresh => exact law_iff_clean (IngressInv.of_run hrun) hfresh

/-! ## Uploads that are not lawful -/

/-- An upload that reaches the store is completed where nothing fails. -/
theorem stored_of_nothingFails (hinv : IngressInv w) (hfresh : u.Fresh w)
    (hstore : ReachesStore config w u binding received) (hunlink : u.faults.unlink = false)
    (h : NothingFails config w u received) : ∃ artifacts,
    w.reports.artifacts.insert (archiveRow u (u.artifact received)) = some artifacts ∧
      uploadArtifact config u w =
        (⟨{ w.reports with artifacts := artifacts },
            w.uploads.put (u.completedBinding binding received), w.temps,
            u.stored received :: w.objects⟩,
          .ok (archiveRow u (u.artifact received))) := by
  have houtcome := uploadArtifact_outcome config hinv hfresh
  generalize uploadArtifact config u w = outcome at houtcome ⊢
  cases houtcome with
  | closed e hclosed => exact absurd hstore.opens (hclosed binding)
  | refused e hopens hearly =>
    obtain ⟨-, hrefused⟩ := hearly received hstore.arrived
    rw [hstore.opens.eq hopens] at hrefused
    exact (hrefused.elim hstore.size hstore.store).elim
  | again result hopens hstate =>
    rw [hstore.opens.eq hopens] at hstate
    exact absurd hstate hstore.state
  | orphaned e hstore' hfails =>
    obtain rfl := Except.ok.inj (hstore.arrived.symm.trans hstore'.arrived)
    exact (hfails.elim (by simp [hunlink]) (· h)).elim
  | stored hstore' _ _ hinsert =>
    obtain rfl := Except.ok.inj (hstore.arrived.symm.trans hstore'.arrived)
    rw [hstore.opens.eq hstore'.opens]
    exact ⟨_, hinsert, rfl⟩

/-- A request for a report of an agent. -/
def sampleArchiveRequest : ReportRequest where
  origin := .trueApiRemote
  participantInn := "7701234567"
  reportType := "FILTERED_CIS_REPORT"
  reportSchemaVersion := "1.0"
  outputFormat := "CSV"
  sensitivityClass := "MARKING_SENSITIVE"
  requestFingerprintSha256 := ""

def sampleBinding : ReportArtifactUploadBinding where
  artifactUploadId := "upl_1"
  reportJobId := "rpt_1"
  remoteResultId := "res-1"
  remoteResultPartId := none
  productGroupCode := none
  expectedArchiveSize := none

/-- An upload of the bytes, with names that end in the text. -/
def sampleArchive (data : List UInt8) (name : String) : ArtifactUpload where
  artifactUploadId := "upl_1"
  reportJobId := "rpt_1"
  remoteResultId := "res-1"
  remoteResultPartId := none
  chunks := [.bytes data]
  tempName := "tmp_" ++ name
  artifactId := "art_" ++ name
  storageKey := "key_" ++ name
  tempFree := 1000
  storeFree := 1000

/-- A report that is requested. -/
def sampleReports : ReportStore := ⟨⟨[.create "rpt_1" sampleArchiveRequest 0], by simp⟩, .empty⟩

/-- Its upload is prepared. -/
def sampleIngressWorld : IngressWorld := ⟨sampleReports, ⟨[sampleBinding], by simp⟩, [], []⟩

theorem sampleIngressWorld_run (config : IngressConfig) :
    Transition.Run (IngressStep config) .initial
      [.createJob "rpt_1" sampleArchiveRequest 0, .prepare sampleBinding] sampleIngressWorld := by
  have hprepared : prepareUpload config ⟨sampleReports, .empty, [], []⟩ sampleBinding =
      sampleIngressWorld := by
    unfold prepareUpload
    rw [if_neg]
    · rfl
    · cases config.foreignKeys <;> exact Bool.false_ne_true
  have hstep : IngressStep config ⟨sampleReports, .empty, [], []⟩ (.prepare sampleBinding) _ :=
    .prepare
  rw [hprepared] at hstep
  exact .snoc (.single (.createJob rfl)) hstep

theorem sampleArchive_fresh : (sampleArchive [80] "1").Fresh sampleIngressWorld where
  temp := List.not_mem_nil
  object _ hobject := absurd hobject List.not_mem_nil
  artifact := rfl
  named := by decide
  storage _ hrow := absurd hrow List.not_mem_nil

theorem sampleArchive_store (foreignKeys : Bool) :
    ReachesStore ⟨1000, 1000, 1, 0, true, foreignKeys⟩ sampleIngressWorld (sampleArchive [80] "1")
      sampleBinding [80] where
  opens := ⟨rfl, ⟨rfl, rfl, rfl⟩, (by decide : 1 ≤ 1000)⟩
  state := by decide
  arrived := rfl
  size := by decide
  store := by
    rintro (hfull | hkey | hencrypt)
    · exact absurd hfull (by decide : ¬1000 < 0 + 1)
    · cases hkey
    · cases hencrypt

theorem sampleArchive_nothingFails :
    NothingFails ⟨1000, 1000, 1, 0, true, false⟩ sampleIngressWorld (sampleArchive [80] "1")
      [80] where
  stat := rfl
  size := rfl
  sha := rfl
  foreignKeys := rfl
  update := rfl
  finalize := rfl
  later := rfl
  unpublished _ hrow := absurd hrow List.not_mem_nil
  job := rfl

theorem sampleIngressWorld_inv : IngressInv sampleIngressWorld :=
  .of_run (sampleIngressWorld_run ⟨1000, 1000, 1, 0, true, false⟩)

/-- Where foreign keys are checked the first upload is not lawful; where they are not, the second
upload is not, if it has other bytes. -/
theorem uploads_not_lawful :
    ¬EachUpload ⟨1000, 1000, 1, 0, true, true⟩
      [.createJob "rpt_1" sampleArchiveRequest 0, .prepare sampleBinding,
        .upload (sampleArchive [80] "1")]
      (IngressLaw ⟨1000, 1000, 1, 0, true, true⟩) ∧
    ¬EachUpload ⟨1000, 1000, 1, 0, true, false⟩
      [.createJob "rpt_1" sampleArchiveRequest 0, .prepare sampleBinding,
        .upload (sampleArchive [80] "1"), .upload (sampleArchive [80, 75] "2")]
      (IngressLaw ⟨1000, 1000, 1, 0, true, false⟩) := by
  constructor
  · intro h
    have hlaw := h [.createJob "rpt_1" sampleArchiveRequest 0, .prepare sampleBinding] _ [] _ _ rfl
      (sampleIngressWorld_run _) (.upload sampleArchive_fresh)
    have hstore := sampleArchive_store true
    have hclean := (law_iff_clean sampleIngressWorld_inv sampleArchive_fresh).mp hlaw
    have hcases := (hclean _ hstore.opens).2 _ hstore.arrived
    rw [if_neg hstore.state] at hcases
    rcases hcases with hsize | hrefuses | hnothing
    · exact hstore.size hsize
    · exact hstore.store hrefuses
    · cases hnothing.foreignKeys
  · intro h
    obtain ⟨artifacts, hinsert, hupload⟩ := stored_of_nothingFails sampleIngressWorld_inv
      sampleArchive_fresh (sampleArchive_store false) rfl sampleArchive_nothingFails
    have hstep : IngressStep ⟨1000, 1000, 1, 0, true, false⟩ sampleIngressWorld
        (.upload (sampleArchive [80] "1")) _ := .upload sampleArchive_fresh
    have hrun := (sampleIngressWorld_run ⟨1000, 1000, 1, 0, true, false⟩).snoc hstep
    have hfresh : (sampleArchive [80, 75] "2").Fresh (uploadArtifact
        ⟨1000, 1000, 1, 0, true, false⟩ (sampleArchive [80] "1") sampleIngressWorld).1 := by
      rw [hupload]
      refine ⟨List.not_mem_nil, fun object hobject => ?_, ?_, by decide, fun row hrow => ?_⟩
      · rw [List.mem_singleton.mp hobject]
        exact (by decide : "key_1" ≠ "key_2")
      · exact (Table.find?_insert_ne hinsert (by decide : "art_2" ≠ "art_1")).trans rfl
      · rcases (Table.mem_insert hinsert).mp hrow with hrow | rfl
        · exact absurd hrow List.not_mem_nil
        · exact (by decide : "key_1" ≠ "key_2")
    have hlaw := h _ _ [] _ _ rfl hrun (.upload hfresh)
    have hinv := IngressInv.of_run hrun
    have hclean := (law_iff_clean hinv hfresh).mp hlaw
    have houtcome := uploadArtifact_outcome ⟨1000, 1000, 1, 0, true, false⟩
      sampleIngressWorld_inv sampleArchive_fresh
    obtain ⟨bytes, received, ⟨binding, row, hfound, hbinds, hstate, hrest⟩, harrives, hdigest⟩ :=
      houtcome.completed sampleIngressWorld_inv (by rw [hupload])
    have hopens : (sampleArchive [80, 75] "2").Opens ⟨1000, 1000, 1, 0, true, false⟩ _ binding :=
      ⟨hfound, ⟨hbinds.job, hbinds.result, hbinds.part⟩, (by decide : 1 ≤ 1000)⟩
    have hbytes := (hclean binding hopens).2 [80, 75] rfl
    rw [if_pos hstate] at hbytes
    have hsame := hbytes _ bytes ⟨binding, row, hfound, hopens.binds, hstate, hrest⟩
    -- the stored byte is one, those sent again are two
    have hreceived : received = [80] := (Except.ok.inj harrives.2).symm
    have hlength := hdigest.1
    rw [← hsame, hreceived] at hlength
    exact absurd hlength (by decide)

end Wbcz.Reports
