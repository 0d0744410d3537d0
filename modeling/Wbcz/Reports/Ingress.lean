import Wbcz.Lib.Sha256
import Wbcz.Lib.Transition
import Wbcz.Reports.Repository

/-!
# Uploads of report archives

`BinaryArtifactIngress.ingest` and `FilesystemReportArtifactStore.put_file` of `m11_reports.py`,
`ReportArtifactIngressService.ingest_stream` of `wbcz_web/services/reports.py` and the session
around them. An agent sends the archive of a remote report; it goes through a temporary file into
the store of artifacts, and a row is written for it. What the server meets on the way, full disks
and failing reads and writes, is given with each upload, and so are the names that it draws.
Encryption, of which nothing is read back here, is left out of the stored objects.
-/

namespace Wbcz.Reports

/-! ## Rows and files -/

/-- `_UPLOAD_STATES`. -/
inductive UploadState where
  | prepared
  | receiving
  | completed
  | conflict
  | failed
  deriving DecidableEq, Repr

structure ReportArtifactUploadBinding where
  artifactUploadId : String
  reportJobId : String
  remoteResultId : String
  remoteResultPartId : Option String
  productGroupCode : Option String
  expectedArchiveSize : Option ℤ
  state : UploadState := .prepared
  finalizedArtifactId : Option String := none
  observedByteSize : Option ℕ := none
  observedSha256 : Option String := none
  deriving DecidableEq

/-- The primary key of a row of `report_artifact_uploads`. -/
abbrev ReportArtifactUploadBinding.key (binding : ReportArtifactUploadBinding) : String :=
  binding.artifactUploadId

/-- A file of the artifact store. -/
structure StoredObject where
  storageKey : String
  content : List UInt8
  deriving DecidableEq

/-- The rows of the database, and the files in the two directories. -/
structure IngressWorld where
  reports : ReportStore
  uploads : Table ReportArtifactUploadBinding.key
  temps : List String
  objects : List StoredObject

structure IngressConfig where
  remoteDownloadByteCeiling : ℕ := 2 * 1024 * 1024 * 1024
  tempStorageCeilingBytes : ℕ := 2 * 1024 * 1024 * 1024
  minFreeDiskBytes : ℕ := 1
  /-- `min_free_disk_bytes` of the store -/
  storeMinFreeDiskBytes : ℕ := 0
  /-- a key provider was injected -/
  keyProvider : Bool := true
  /-- the database checks foreign keys, as PostgreSQL does -/
  foreignKeys : Bool

/-- What comes next of a stream. -/
inductive Chunk where
  | bytes (data : List UInt8)
  /-- no bytes -/
  | other
  /-- reading or writing it fails -/
  | failing

/-- What goes wrong. -/
structure IngressFaults where
  /-- `flush` or `fsync` of the temporary file -/
  flush : Bool := false
  /-- the store reads other bytes than were written -/
  readBack : Option (List UInt8) := none
  /-- writing the object, before it has its name -/
  encrypt : Bool := false
  /-- looking at the object once it has its name -/
  stat : Bool := false
  /-- reading the object of a completed upload -/
  inspect : Bool := false
  /-- updating the binding -/
  update : Bool := false
  /-- writing the rows of the artifact -/
  finalize : Bool := false
  /-- the rest of the request, or its commit -/
  later : Bool := false
  /-- deleting the temporary file -/
  unlink : Bool := false

structure ArtifactUpload where
  artifactUploadId : String
  reportJobId : String
  remoteResultId : String
  remoteResultPartId : Option String
  chunks : List Chunk
  /-- the name that `mkstemp` gives -/
  tempName : String
  /-- the new identifier of the artifact -/
  artifactId : String
  /-- the new name in the store -/
  storageKey : String
  /-- what is free where temporary files are -/
  tempFree : ℕ
  /-- what is free where artifacts are -/
  storeFree : ℕ
  faults : IngressFaults := {}

/-- `hashlib.sha256(data).hexdigest()`. -/
def sha256 (data : List UInt8) : String := Sha256.hexdigest data

def osError : PyError := ⟨.other "OSError", ""⟩

def operationalError : PyError := ⟨.other "OperationalError", ""⟩

/-! ## Ingress -/

structure ArtifactWriteResult where
  storageKey : String
  plaintextByteSize : ℕ
  plaintextSha256 : String

structure IngressArtifact where
  artifactId : String
  storage : ArtifactWriteResult
  byteSize : ℕ
  sha256 : String

/-- The rows and files, and what the object remembers in `_finalized`. -/
structure Ingress where
  world : IngressWorld
  finalized : List (String × IngressArtifact)

variable (config : IngressConfig) (u : ArtifactUpload)

/-- The chunks are written to the temporary file. -/
def receiveChunks : List UInt8 → List Chunk → Except PyError (List UInt8)
  | received, [] => if u.faults.flush then .error osError else .ok received
  | _, .failing :: _ => .error osError
  | _, .other :: _ => .error ⟨.reportError, "artifact chunk must be bytes"⟩
  | received, .bytes data :: chunks =>
    if data = [] then receiveChunks received chunks
    else if config.remoteDownloadByteCeiling < received.length + data.length then
      .error ⟨.reportError, "remote download byte ceiling exceeded"⟩
    else if config.tempStorageCeilingBytes < received.length + data.length then
      .error ⟨.reportError, "temporary storage byte ceiling exceeded"⟩
    else receiveChunks (received ++ data) chunks

/-- What is received of an upload. -/
def ArtifactUpload.received : Except PyError (List UInt8) := receiveChunks config u [] u.chunks

/-- The object that `put_file` makes of the temporary file. -/
def ArtifactUpload.stored (received : List UInt8) : StoredObject :=
  ⟨u.storageKey, u.faults.readBack.getD received⟩

/-- `put_file`, sensitive. -/
def putFile (objects : List StoredObject) (received : List UInt8) :
    List StoredObject × Except PyError ArtifactWriteResult :=
  let object := u.stored received
  if u.storeFree < config.storeMinFreeDiskBytes + object.content.length then
    (objects, .error ⟨.reportError, "artifact storage free-space admission denied"⟩)
  else if !config.keyProvider then
    (objects, .error ⟨.reportError, "sensitive artifact requires injected key provider"⟩)
  else if u.faults.encrypt then (objects, .error osError)
  else if u.faults.stat then (object :: objects, .error osError)
  else (object :: objects,
    .ok ⟨object.storageKey, object.content.length, sha256 object.content⟩)

/-- `SqlUploadBindingStore.update`. -/
def updateBinding (w : IngressWorld) (binding : ReportArtifactUploadBinding) :
    Except PyError IngressWorld :=
  match w.uploads.find? binding.artifactUploadId with
  | none => .error ⟨.keyError, binding.artifactUploadId⟩
  | some row =>
    if row.reportJobId ≠ binding.reportJobId ∨ row.remoteResultId ≠ binding.remoteResultId ∨
        row.remoteResultPartId ≠ binding.remoteResultPartId then
      .error ⟨.reportError, "artifact upload immutable binding mismatch"⟩
    else if config.foreignKeys && binding.finalizedArtifactId.any fun artifactId =>
        (w.reports.artifacts.find? artifactId).isNone then
      .error ⟨.integrityError, ""⟩
    else if u.faults.update then .error operationalError
    else
      .ok { w with
        uploads := w.uploads.put
          { row with
            state := binding.state
            finalizedArtifactId := binding.finalizedArtifactId
            observedByteSize := binding.observedByteSize
            observedSha256 := binding.observedSha256 } }

/-- `_lookup_finalized_artifact`. -/
def lookupFinalizedArtifact (w : IngressWorld) (artifactId : String) : Option IngressArtifact :=
  match w.reports.artifacts.find? artifactId with
  | none => none
  | some row =>
    if !row.ready then none
    else if u.faults.inspect || w.objects.all (fun object => object.storageKey ≠ row.storageKey) then
      none
    else some ⟨row.artifactId, ⟨row.storageKey, row.byteSize, row.sha256⟩, row.byteSize, row.sha256⟩

/-- The artifact of an upload that is completed. -/
def existingArtifact (s : Ingress) (binding : ReportArtifactUploadBinding) :
    Option IngressArtifact :=
  match (s.finalized.find? fun entry => entry.1 = u.artifactUploadId).map Prod.snd with
  | some artifact => some artifact
  | none =>
    (binding.finalizedArtifactId.filter (· ≠ "")).bind (lookupFinalizedArtifact u s.world)

/-- The rest of `ingest`, once all bytes are there. -/
def ingestReceived (s : Ingress) (binding : ReportArtifactUploadBinding)
    (received : List UInt8) : Ingress × Except PyError IngressArtifact :=
  if binding.state = .completed then
    match existingArtifact u s binding with
    | none => (s, .error ⟨.reportError, "completed binding lacks finalized artifact"⟩)
    | some existing =>
      if existing.byteSize = received.length ∧ existing.sha256 = sha256 received then
        (s, .ok existing)
      else (s, .error ⟨.reportError, "replayed upload bytes differ"⟩)
  else if binding.expectedArchiveSize.any (· ≠ (received.length : ℤ)) then
    match updateBinding config u s.world
      { binding with
        state := .conflict
        observedByteSize := some received.length
        observedSha256 := some (sha256 received) } with
    | .error e => (s, .error e)
    | .ok world =>
      ({ s with world := world },
        .error ⟨.reportError, "CRPT archiveSize differs from observed byte size"⟩)
  else
    let (objects, written) := putFile config u s.world.objects received
    let s := { s with world := { s.world with objects := objects } }
    match written with
    | .error e => (s, .error e)
    | .ok storage =>
      if storage.plaintextByteSize ≠ received.length ∨
          storage.plaintextSha256 ≠ sha256 received then
        (s, .error ⟨.reportError, "artifact store plaintext verification mismatch"⟩)
      else
        let artifact : IngressArtifact :=
          ⟨u.artifactId, storage, received.length, sha256 received⟩
        let s := { s with finalized := (u.artifactUploadId, artifact) :: s.finalized }
        match updateBinding config u s.world
          { binding with
            state := .completed
            finalizedArtifactId := some u.artifactId
            observedByteSize := some received.length
            observedSha256 := some (sha256 received) } with
        | .error e => (s, .error e)
        | .ok world => ({ s with world := world }, .ok artifact)

/-- `finally: path.unlink(missing_ok=True)`. -/
def unlinkTemp {α : Type} (outcome : Ingress × Except PyError α) : Ingress × Except PyError α :=
  if u.faults.unlink then (outcome.1, .error osError)
  else
    ({ outcome.1 with
      world := { outcome.1.world with temps := outcome.1.world.temps.erase u.tempName } },
      outcome.2)

/-- `ingest`. -/
def ingest (s : Ingress) : Ingress × Except PyError IngressArtifact :=
  match s.world.uploads.find? u.artifactUploadId with
  | none => (s, .error ⟨.reportError, "unknown artifact upload id"⟩)
  | some binding =>
    if binding.reportJobId ≠ u.reportJobId then
      (s, .error ⟨.reportError, "artifact upload report job mismatch"⟩)
    else if binding.remoteResultId ≠ u.remoteResultId then
      (s, .error ⟨.reportError, "artifact upload result mismatch"⟩)
    else if binding.remoteResultPartId ≠ u.remoteResultPartId then
      (s, .error ⟨.reportError, "artifact upload result part mismatch"⟩)
    else if u.tempFree < config.minFreeDiskBytes then
      (s, .error ⟨.reportError, "minimum free disk requirement not met"⟩)
    else
      let s := { s with world := { s.world with temps := u.tempName :: s.world.temps } }
      unlinkTemp u <|
        match u.received config with
        | .error e => (s, .error e)
        | .ok received => ingestReceived config u s binding received

/-! ## Rows of artifacts -/

/-- The publication key of the archive of a result. -/
def publicationKey (reportJobId remoteResultId : String) (partId : Option String) : String :=
  Sha256.hexdigest <| Text.utf8 <|
    reportJobId ++ ":REMOTE_TRUE_API_ARCHIVE:" ++ remoteResultId ++ ":" ++ partId.getD "None"

/-- The row that `ingest_stream` asks for. -/
def archiveRow (artifact : IngressArtifact) : ReportArtifactRecord where
  artifactId := artifact.artifactId
  reportJobId := u.reportJobId
  artifactRole := .remoteTrueApiArchive
  publicationKey := publicationKey u.reportJobId u.remoteResultId u.remoteResultPartId
  storageKey := artifact.storage.storageKey
  byteSize := artifact.byteSize
  sha256 := artifact.sha256

/-- The row that `finalize_artifact` returns: one that was there, or the new one. -/
def publishedRow (reports : ReportStore) (row : ReportArtifactRecord) : ReportArtifactRecord :=
  (reports.artifacts.rows.find? fun existing =>
    existing.publicationKey = row.publicationKey).getD row

/-- `ingest_stream` of a service that is made for the request. -/
def ingestStream (w : IngressWorld) : IngressWorld × Except PyError ReportArtifactRecord :=
  match ingest config u ⟨w, []⟩ with
  | (s, .error e) => (s.world, .error e)
  | (s, .ok artifact) =>
    if (s.world.uploads.find? u.artifactUploadId).isNone then
      (s.world, .error ⟨.keyError, u.artifactUploadId⟩)
    else if u.faults.finalize then (s.world, .error operationalError)
    else
      match s.world.reports.finalizeArtifact (archiveRow u artifact) with
      | .error e => (s.world, .error e)
      | .ok reports => ({ s.world with reports := reports },
          .ok (publishedRow s.world.reports (archiveRow u artifact)))

/-- The request of an agent: the session is rolled back when anything raises, the files stay. -/
def uploadArtifact (w : IngressWorld) : IngressWorld × Except PyError ReportArtifactRecord :=
  match ingestStream config u w with
  | (w', .error e) => ({ w' with reports := w.reports, uploads := w.uploads }, .error e)
  | (w', .ok row) =>
    if u.faults.later then
      ({ w' with reports := w.reports, uploads := w.uploads }, .error operationalError)
    else (w', .ok row)

/-- `prepare`: a new upload is bound to a result. -/
def prepareUpload (w : IngressWorld) (binding : ReportArtifactUploadBinding) : IngressWorld :=
  if config.foreignKeys && (w.reports.jobs.find? binding.reportJobId).isNone then w
  else
    match w.uploads.insert
      { binding with
        state := .prepared
        finalizedArtifactId := none
        observedByteSize := none
        observedSha256 := none } with
    | none => w
    | some uploads => { w with uploads := uploads }

/-! ## Steps -/

/-- What happens next. -/
inductive IngressAction where
  | createJob (id : String) (request : ReportRequest) (now : ℤ)
  | prepare (binding : ReportArtifactUploadBinding)
  | upload (u : ArtifactUpload)

/-- The names that the server draws are new. -/
structure ArtifactUpload.Fresh (u : ArtifactUpload) (w : IngressWorld) : Prop where
  temp : u.tempName ∉ w.temps
  object : ∀ object ∈ w.objects, object.storageKey ≠ u.storageKey
  artifact : w.reports.artifacts.find? u.artifactId = none
  named : u.artifactId ≠ ""
  storage : ∀ row ∈ w.reports.artifacts.rows, row.storageKey ≠ u.storageKey

/-- One step; a request that is refused changes no row. -/
inductive IngressStep : IngressWorld → IngressAction → IngressWorld → Prop
  | createJob {w : IngressWorld} {id : String} {request : ReportRequest} {now : ℤ}
    {reports : ReportStore} (h : w.reports.createJob id request now = .ok reports) :
    IngressStep w (.createJob id request now) { w with reports := reports }
  | prepare {w : IngressWorld} {binding : ReportArtifactUploadBinding} :
    IngressStep w (.prepare binding) (prepareUpload config w binding)
  | upload {w : IngressWorld} {u : ArtifactUpload} (h : u.Fresh w) :
    IngressStep w (.upload u) (uploadArtifact config u w).1

/-- No rows and no files. -/
def IngressWorld.initial : IngressWorld := ⟨.empty, .empty, [], []⟩

end Wbcz.Reports
