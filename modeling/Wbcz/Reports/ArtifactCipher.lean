import Wbcz.Errors
import Wbcz.Lib.CanonicalJson
import Wbcz.Lib.Fallible
import Wbcz.Lib.Frames
import Wbcz.Lib.JcsLaws
import Wbcz.Lib.Sha256
import Wbcz.Lib.Uuid

/-!
# The cipher of artifacts

`ChunkedAeadArtifactCipher` of `wbcz/m11_reports.py`. An artifact is sealed in chunks; each is
bound to its place, and a footer to their number, their size and their digest.
-/

namespace Wbcz.Reports

open Fallible Frames

/-! ## The stream -/

/-- `AESGCM`, which opens what it has sealed and puts a tag behind it. -/
structure Aesgcm where
  encrypt : (key nonce data aad : List UInt8) → Except PyError (List UInt8)
  decrypt : (key nonce data aad : List UInt8) → Except PyError (List UInt8)
  decrypt_encrypt : ∀ {key nonce data aad sealed}, encrypt key nonce data aad = .ok sealed →
    decrypt key nonce sealed aad = .ok data
  length_encrypt : ∀ {key nonce data aad sealed}, encrypt key nonce data aad = .ok sealed →
    sealed.length = data.length + 16

structure ArtifactCipher where
  getKey : String → Except PyError (List UInt8)
  keyVersion : String
  chunkBytes : ℕ
  chunkBytes_pos : 0 < chunkBytes

def artifactEncryptionFormat : String := "M11_CHUNKED_AES256_GCM_V1"

/-- `b"M11AEAD1\n"` -/
def artifactMagic : List UInt8 := [77, 49, 49, 65, 69, 65, 68, 49, 10]

def securityError (message : String) : PyError := ⟨.other "ReportSecurityError", message⟩

/-- `_canonical(value).encode("utf-8")`. -/
def canonicalBytes (value : Json) : List UInt8 := Text.utf8 value.canonical

/-- `bytes.hex`. -/
def hex (bs : List UInt8) : String := String.ofList (bs.flatMap fun b => Uuid.hexText 2 b.toNat)

/-- `bytes.fromhex`. -/
def fromHex : List Char → Option (List UInt8)
  | [] => some []
  | [c] => if Uuid.isBlank c then some [] else none
  | c :: d :: cs =>
    if Uuid.isBlank c then fromHex (d :: cs)
    else do
      let high ← Uuid.hexValue? c
      let low ← Uuid.hexValue? d
      let rest ← fromHex cs
      some (UInt8.ofNat (16 * high + low) :: rest)

/-- `json.loads(raw.decode("utf-8"))`. -/
def loads (raw : List UInt8) : Except PyError Json :=
  match ByteArray.utf8Decode? ⟨raw.toArray⟩ with
  | none => .error ⟨.other "UnicodeDecodeError", ""⟩
  | some cs => found (JsonReader.read (String.ofList cs.toList)) ⟨.other "JSONDecodeError", ""⟩

/-- `base_nonce + index.to_bytes(4, "big")`. -/
def nonceAt (baseNonce : List UInt8) (index : ℕ) : Except PyError (List UInt8) :=
  if 4294967296 ≤ index then .error ⟨.other "OverflowError", "int too big to convert"⟩
  else .ok (baseNonce ++ word index)

/-- Bytes behind `struct.pack(">I", ..)` of their length. -/
def framed (bs : List UInt8) : Except PyError (List UInt8) :=
  if 4294967296 ≤ bs.length then .error ⟨.other "error", ""⟩ else .ok (frame bs)

def chunkAad (header context : Json) (index : ℕ) : List UInt8 :=
  canonicalBytes (.obj [("header", header), ("chunk_index", .int index), ("context", context)])

def footerAad (header context : Json) : List UInt8 :=
  canonicalBytes (.obj [("header", header), ("footer", .bool true), ("context", context)])

def footerPlain (size : ℕ) (digest : String) (count : ℕ) : Json :=
  .obj [("byte_size", .int size), ("plaintext_sha256", .str digest), ("chunk_count", .int count)]

def artifactHeader (cipher : ArtifactCipher) (baseNonce : List UInt8) (context : Json) : Json :=
  .obj [("format", .str artifactEncryptionFormat), ("key_version", .str cipher.keyVersion),
    ("chunk_bytes", .int cipher.chunkBytes), ("base_nonce_hex", .str (hex baseNonce)),
    ("aad_context_sha256", .str (Sha256.hexdigest (canonicalBytes context)))]

variable (aes : Aesgcm)

/-- The loop of `encrypt_stream`, over what `read` gives. -/
def sealChunks (key baseNonce : List UInt8) (header context : Json) :
    ℕ → List (List UInt8) → Except PyError (List UInt8)
  | _, [] => pure []
  | index, plain :: rest => do
    let nonce ← nonceAt baseNonce index
    let sealed ← aes.encrypt key nonce plain (chunkAad header context index)
    let written ← framed sealed
    let more ← sealChunks key baseNonce header context (index + 1) rest
    pure (written ++ more)

/-- `encrypt_stream`, where `os.urandom(8)` is the base nonce: what is written, the size, the digest
and the count of chunks that the metadata adds to the header. -/
def encryptStream (cipher : ArtifactCipher) (baseNonce : List UInt8) (context : Json)
    (source : List UInt8) : Except PyError (List UInt8 × ℕ × String × ℕ) := do
  let key ← cipher.getKey cipher.keyVersion
  ensure (key.length = 32) (securityError "AES-256 artifact key required")
  let header := artifactHeader cipher baseNonce context
  let start ← framed (canonicalBytes header ++ [10])
  let chunks := pieces cipher.chunkBytes source.length source
  let body ← sealChunks aes key baseNonce header context 0 chunks
  let plaintext := chunks.flatten
  let digest := Sha256.hexdigest plaintext
  let nonce ← nonceAt baseNonce chunks.length
  let sealed ← aes.encrypt key nonce
    (canonicalBytes (footerPlain plaintext.length digest chunks.length)) (footerAad header context)
  let footer ← framed sealed
  pure (artifactMagic ++ (start ++ (body ++ (word 0 ++ footer))), plaintext.length, digest,
    chunks.length)

/-- What is raised where the tag is not valid. -/
def authenticated (message : String) (opened : Except PyError (List UInt8)) :
    Except PyError (List UInt8) :=
  opened.mapError fun e => if e.cls = .other "InvalidTag" then securityError message else e

/-- The value equals the number, as `True` does one. -/
def countsAs (value : Json) (n : ℕ) : Bool :=
  match value with
  | .int i => i = n
  | .bool b => b.toNat = n
  | _ => false

/-- The end of `decrypt_stream`, after what was written to the target. -/
def openFooter (key baseNonce : List UInt8) (header context : Json) (index total : ℕ)
    (target source : List UInt8) : Except PyError (List UInt8 × ℕ × String) := do
  ensure ((source.take 4).length = 4) (securityError "artifact footer missing")
  let sealed := (source.drop 4).take (number (source.take 4))
  ensure (sealed.length = number (source.take 4)) (securityError "artifact footer truncated")
  let nonce ← nonceAt baseNonce index
  let plain ← authenticated "artifact footer authentication failed"
    (aes.decrypt key nonce sealed (footerAad header context))
  let footer ← (loads plain).mapError fun _ => securityError "artifact footer invalid"
  ensure (footer.isObj = true) ⟨.other "AttributeError", ""⟩
  let digest := Sha256.hexdigest target
  ensure (countsAs (footer.get "byte_size") total = true ∧
      (footer.get "plaintext_sha256").str? = some digest ∧
      countsAs (footer.get "chunk_count") index = true)
    (securityError "artifact authenticated summary mismatch")
  pure (target, total, digest)

/-- The loop of `decrypt_stream`. A frame takes bytes away: where the fuel ends there are none. -/
def openChunks (key baseNonce : List UInt8) (header context : Json) :
    ℕ → ℕ → ℕ → List UInt8 → List UInt8 → Except PyError (List UInt8 × ℕ × String)
  | 0, _, _, _, _ => .error (securityError "artifact frame truncated")
  | fuel + 1, index, total, target, source => do
    ensure ((source.take 4).length = 4) (securityError "artifact frame truncated")
    if number (source.take 4) = 0 then
      openFooter aes key baseNonce header context index total target (source.drop 4)
    else
      let sealed := (source.drop 4).take (number (source.take 4))
      ensure (sealed.length = number (source.take 4)) (securityError "artifact frame truncated")
      let nonce ← nonceAt baseNonce index
      let plain ← authenticated "artifact authentication failed"
        (aes.decrypt key nonce sealed (chunkAad header context index))
      openChunks key baseNonce header context fuel (index + 1) (total + plain.length)
        (target ++ plain) ((source.drop 4).drop (number (source.take 4)))

/-- `decrypt_stream` up to the frames: the header, the base nonce and the key. -/
def openHeader (cipher : ArtifactCipher) (context : Json) (raw : List UInt8) :
    Except PyError (Json × List UInt8 × List UInt8) := do
  let header ← loads raw
  ensure (header.isObj = true) ⟨.other "AttributeError", ""⟩
  ensure ((header.get "format").str? = some artifactEncryptionFormat)
    (securityError "artifact encryption format mismatch")
  let version ← found ((header.get "key_version").str?.filter (· ≠ ""))
    (securityError "artifact key version missing")
  ensure ((header.get "aad_context_sha256").str? =
    some (Sha256.hexdigest (canonicalBytes context)))
    (securityError "artifact AAD context mismatch")
  let nonceHex ← found (header.get? "base_nonce_hex") ⟨.keyError, "base_nonce_hex"⟩
  let digits ← found nonceHex.str? ⟨.typeError, ""⟩
  let baseNonce ← found (fromHex digits.toList) ⟨.valueError, ""⟩
  let key ← cipher.getKey version
  ensure (key.length = 32) (securityError "AES-256 artifact key required")
  pure (header, baseNonce, key)

/-- `decrypt_stream`: what is written to the target, the size and the digest. -/
def decryptStream (cipher : ArtifactCipher) (context : Json) (source : List UInt8) :
    Except PyError (List UInt8 × ℕ × String) := do
  ensure (source.take artifactMagic.length = artifactMagic)
    (securityError "artifact encryption magic mismatch")
  let source := source.drop artifactMagic.length
  ensure ((source.take 4).length = 4) (securityError "artifact header missing")
  let headerLen := number (source.take 4)
  let (header, baseNonce, key) ← openHeader cipher context ((source.drop 4).take headerLen)
  let frames := (source.drop 4).drop headerLen
  openChunks aes key baseNonce header context frames.length 0 0 [] frames

/-! ## What is written is read -/

theorem fromHex_hex (bs : List UInt8) : fromHex (hex bs).toList = some bs := by
  have hdigit : ∀ k < 16, Uuid.isBlank (Nat.digitChar k) = false ∧
      Uuid.hexValue? (Nat.digitChar k) = some k := by decide
  rw [hex, String.toList_ofList]
  induction bs with
  | nil => rfl
  | cons b bs ih =>
    have hhigh := hdigit (b.toNat / 16 % 16) (Nat.mod_lt _ (by decide))
    have hlow := hdigit (b.toNat % 16) (Nat.mod_lt _ (by decide))
    have hbyte : 16 * (b.toNat / 16 % 16) + b.toNat % 16 = b.toNat := by
      have := b.toNat_lt
      omega
    change fromHex (Nat.digitChar (b.toNat / 16 % 16) :: Nat.digitChar (b.toNat % 16) ::
      bs.flatMap fun b => Uuid.hexText 2 b.toNat) = _
    rw [fromHex, hhigh.1, hhigh.2, hlow.2, ih]
    change some (UInt8.ofNat (16 * (b.toNat / 16 % 16) + b.toNat % 16) :: bs) = _
    rw [hbyte, UInt8.ofNat_toNat]

/-- An object is read, whatever follows it. -/
theorem readValue_obj {fields : List (String × Json)}
    (hfields : Jcs.floatFreeFields fields = true) (rest : List Char) {fuel : ℕ}
    (hfuel : 2 * (Jcs.render (.obj fields)).length ≤ fuel) :
    JsonReader.readValue (fuel + 1) (Jcs.render (.obj fields) ++ rest) =
      some (.obj fields, rest) := by
  cases fields with
  | nil => simp [Jcs.render, Jcs.renderFields, JsonReader.readValue, JsonText.skipBlanks]
  | cons field fields =>
    obtain ⟨key, value⟩ := field
    rw [Jcs.floatFreeFields, Bool.and_eq_true] at hfields
    have hread := Jcs.readFields_render key value fields fuel rest (by
      simp only [Jcs.render, Jcs.renderFields, List.length_cons, List.length_append] at hfuel
      omega) hfields.1 hfields.2
    rw [Jcs.render, Jcs.renderFields, List.nil_append, JsonReader.readValue]
    simp [Jcs.skipBlanks_cons (c := '\x7b') (by decide), Jcs.skipBlanks_cons (c := '"') (by decide),
      hread]

theorem canonicalBytes_eq (value : Json) :
    canonicalBytes value = Text.encode value.ordered.text := by
  rw [← Json.toList_canonical, canonicalBytes, ← String.ofList_toList (s := value.canonical),
    Text.utf8_ofList, String.toList_ofList]

theorem toArray_encode (cs : List Char) :
    (⟨(Text.encode cs).toArray⟩ : ByteArray) = cs.utf8Encode := by
  apply ByteArray.ext
  simp [List.utf8Encode, Text.encode]

/-- The text of an object is read with its fields in order, also before blanks. -/
theorem read_text {fields : List (String × Json)} (blanks : List Char)
    (htext : (Json.obj fields).text = Jcs.render (.obj fields))
    (hfields : Jcs.floatFreeFields fields = true) (hblanks : JsonText.skipBlanks blanks = []) :
    JsonReader.read (String.ofList ((Json.obj fields).text ++ blanks)) = some (.obj fields) := by
  rw [JsonReader.read, String.toList_ofList, htext, readValue_obj hfields blanks (by
    rw [List.length_append]
    omega)]
  exact if_pos hblanks

theorem loads_canonical {value : Json} {fields : List (String × Json)} (blanks : List Char)
    (hvalue : value.ordered = .obj fields)
    (htext : (Json.obj fields).text = Jcs.render (.obj fields))
    (hfields : Jcs.floatFreeFields fields = true) (hblanks : JsonText.skipBlanks blanks = []) :
    loads (canonicalBytes value ++ Text.encode blanks) = .ok (.obj fields) := by
  have hbytes : canonicalBytes value ++ Text.encode blanks =
      Text.encode ((Json.obj fields).text ++ blanks) := by
    rw [canonicalBytes_eq, hvalue, Text.encode, Text.encode, Text.encode, List.flatMap_append]
  rw [loads, hbytes, toArray_encode, List.utf8Decode?_utf8Encode]
  exact found_eq_ok.mpr (read_text blanks htext hfields hblanks)

/-- The header as it is read: its fields stand in the order of their keys. -/
def readHeader (cipher : ArtifactCipher) (baseNonce : List UInt8) (context : Json) :
    List (String × Json) :=
  [("aad_context_sha256", .str (Sha256.hexdigest (canonicalBytes context))),
    ("base_nonce_hex", .str (hex baseNonce)), ("chunk_bytes", .int cipher.chunkBytes),
    ("format", .str artifactEncryptionFormat), ("key_version", .str cipher.keyVersion)]

section Header

variable (cipher : ArtifactCipher) (baseNonce : List UInt8) (context : Json)

theorem ordered_header : (artifactHeader cipher baseNonce context).ordered =
    .obj (readHeader cipher baseNonce context) := by
  simp [artifactHeader, readHeader, Json.ordered, Json.orderedFields, Json.orderFields,
    Json.insertValue, Json.keyLe]

theorem canonical_readHeader : (Json.obj (readHeader cipher baseNonce context)).canonical =
    (artifactHeader cipher baseNonce context).canonical := by
  rw [← String.toList_inj, Json.toList_canonical, Json.toList_canonical, ordered_header]
  simp [readHeader, Json.ordered, Json.orderedFields, Json.orderFields, Json.insertValue,
    Json.keyLe]

theorem openHeader_header {reader : ArtifactCipher} {key : List UInt8}
    (hversion : cipher.keyVersion ≠ "")
    (hkey : reader.getKey cipher.keyVersion = .ok key) (hlength : key.length = 32) :
    openHeader reader context (canonicalBytes (artifactHeader cipher baseNonce context) ++ [10]) =
      .ok (.obj (readHeader cipher baseNonce context), baseNonce, key) := by
  have hloads := loads_canonical ['\n'] (ordered_header cipher baseNonce context) rfl rfl rfl
  rw [show Text.encode ['\n'] = [10] from rfl] at hloads
  rw [openHeader, hloads]
  simp only [bind_eq_ok, ensure_eq_ok, found_eq_ok, pure_eq_ok, exists_const]
  simp [readHeader, Json.get, Json.get?, Json.lookup, Json.str?, Json.isObj, hversion, hkey,
    hlength, fromHex_hex]

end Header

variable {aes : Aesgcm} {cipher reader : ArtifactCipher} {context header header' : Json}
  {key baseNonce : List UInt8}

theorem loads_footerPlain (size : ℕ) (digest : String) (count : ℕ) :
    loads (canonicalBytes (footerPlain size digest count)) = .ok (.obj [("byte_size", .int size),
      ("chunk_count", .int count), ("plaintext_sha256", .str digest)]) := by
  have hordered : (footerPlain size digest count).ordered = .obj [("byte_size", .int size),
      ("chunk_count", .int count), ("plaintext_sha256", .str digest)] := by
    simp [footerPlain, Json.ordered, Json.orderedFields, Json.orderFields, Json.insertValue,
      Json.keyLe]
  have hloads := loads_canonical [] hordered rfl rfl rfl
  simpa [Text.encode] using hloads

/-- The header that is read binds as the one that was written. -/
theorem aad_congr (h : header'.canonical = header.canonical) :
    chunkAad header' context = chunkAad header context ∧
      footerAad header' context = footerAad header context := by
  constructor
  · funext index
    simp only [chunkAad, canonicalBytes, Json.canonical, Json.canonicalFields, h]
  · simp only [footerAad, canonicalBytes, Json.canonical, Json.canonicalFields, h]

/-! ## Frames -/

theorem framed_eq_ok {bs written : List UInt8} :
    framed bs = .ok written ↔ bs.length < 4294967296 ∧ written = frame bs := by
  rw [framed, guard_eq_ok, not_le, Except.ok.injEq, eq_comm (a := written)]

theorem nonceAt_eq_ok {index : ℕ} {nonce : List UInt8} :
    nonceAt baseNonce index = .ok nonce ↔
      index < 4294967296 ∧ nonce = baseNonce ++ word index := by
  rw [nonceAt, guard_eq_ok, not_le, Except.ok.injEq, eq_comm (a := nonce)]

theorem mapError_eq_ok {α : Type} {f : PyError → PyError} {x : Except PyError α} {a : α} :
    x.mapError f = .ok a ↔ x = .ok a := by
  cases x with
  | error e => simp [Except.mapError]
  | ok b => rfl

section Frames

variable {fuel index total : ℕ} {target source : List UInt8} {r : List UInt8 × ℕ × String}

theorem openFooter_eq_ok :
    openFooter aes key baseNonce header context index total target source = .ok r ↔
      (source.take 4).length = 4 ∧
      ((source.drop 4).take (number (source.take 4))).length = number (source.take 4) ∧
      index < 4294967296 ∧ ∃ plain, aes.decrypt key (baseNonce ++ word index)
        ((source.drop 4).take (number (source.take 4))) (footerAad header context) = .ok plain ∧
      ∃ footer, loads plain = .ok footer ∧ footer.isObj = true ∧
        (countsAs (footer.get "byte_size") total = true ∧
          (footer.get "plaintext_sha256").str? = some (Sha256.hexdigest target) ∧
          countsAs (footer.get "chunk_count") index = true) ∧
        r = (target, total, Sha256.hexdigest target) := by
  simp only [openFooter, authenticated, bind_eq_ok, ensure_eq_ok, exists_const, nonceAt_eq_ok,
    mapError_eq_ok, pure_eq_ok]
  simp

/-- A frame is the end of the chunks or one more chunk. -/
theorem openChunks_eq_ok :
    openChunks aes key baseNonce header context (fuel + 1) index total target source = .ok r ↔
      (source.take 4).length = 4 ∧
      (number (source.take 4) = 0 ∧ openFooter aes key baseNonce header context index total target
          (source.drop 4) = .ok r ∨
        number (source.take 4) ≠ 0 ∧
        ((source.drop 4).take (number (source.take 4))).length = number (source.take 4) ∧
        index < 4294967296 ∧ ∃ plain, aes.decrypt key (baseNonce ++ word index)
          ((source.drop 4).take (number (source.take 4))) (chunkAad header context index) =
            .ok plain ∧
        openChunks aes key baseNonce header context fuel (index + 1) (total + plain.length)
          (target ++ plain) ((source.drop 4).drop (number (source.take 4))) = .ok r) := by
  rw [openChunks]
  simp only [bind_eq_ok, ensure_eq_ok, exists_const]
  refine and_congr_right fun _ => ?_
  by_cases hzero : number (source.take 4) = 0
  · simp [hzero]
  · simp [hzero, authenticated, bind_eq_ok, ensure_eq_ok, nonceAt_eq_ok, mapError_eq_ok]

end Frames

theorem take_word (n : ℕ) (rest : List UInt8) : (word n ++ rest).take 4 = word n :=
  List.take_left' rfl

theorem drop_word (n : ℕ) (rest : List UInt8) : (word n ++ rest).drop 4 = rest :=
  List.drop_left' rfl

/-- The chunks that were sealed are opened before what follows them. -/
theorem openChunks_sealed (hheader : header'.canonical = header.canonical)
    {chunks : List (List UInt8)} {index total : ℕ} {target body tail : List UInt8}
    {r : List UInt8 × ℕ × String}
    (h : sealChunks aes key baseNonce header context index chunks = .ok body)
    (htail : ∀ fuel, tail.length ≤ fuel → openChunks aes key baseNonce header' context fuel
      (index + chunks.length) (total + chunks.flatten.length) (target ++ chunks.flatten) tail =
        .ok r) {fuel : ℕ} (hfuel : (body ++ tail).length ≤ fuel) :
    openChunks aes key baseNonce header' context fuel index total target (body ++ tail) = .ok r := by
  induction chunks generalizing index total target body fuel with
  | nil =>
    cases h
    simpa using htail fuel hfuel
  | cons plain rest ih =>
    obtain ⟨nonce, hnonce, h⟩ := bind_eq_ok.mp h
    obtain ⟨sealed, hsealed, h⟩ := bind_eq_ok.mp h
    obtain ⟨written, hwritten, h⟩ := bind_eq_ok.mp h
    obtain ⟨more, hmore, h⟩ := bind_eq_ok.mp h
    cases h
    obtain ⟨hindex, rfl⟩ := nonceAt_eq_ok.mp hnonce
    obtain ⟨hlength, rfl⟩ := framed_eq_ok.mp hwritten
    have htag := aes.length_encrypt hsealed
    simp only [frame, List.length_append, length_word] at hfuel
    obtain ⟨fuel, rfl⟩ : ∃ n, fuel = n + 1 := ⟨fuel - 1, by omega⟩
    have hnext : openChunks aes key baseNonce header' context fuel (index + 1)
        (total + plain.length) (target ++ plain) (more ++ tail) = .ok r := by
      refine ih hmore (fun n hn => ?_) ?_
      · simpa [Nat.add_assoc, Nat.add_comm, Nat.add_left_comm] using htail n hn
      · rw [List.length_append]
        omega
    rw [openChunks_eq_ok, frame, List.append_assoc, List.append_assoc, take_word, drop_word,
      number_word hlength, List.take_left, List.drop_left, (aad_congr hheader).1]
    exact ⟨length_word _, .inr ⟨by omega, rfl, hindex, plain, aes.decrypt_encrypt hsealed, hnext⟩⟩

/-- A stream of sealed chunks is opened, whatever stands behind it. -/
theorem decryptStream_stored {chunks : List (List UInt8)} {body sealed : List UInt8}
    (trailing : List UInt8) (hversion : cipher.keyVersion ≠ "")
    (hkey : reader.getKey cipher.keyVersion = .ok key) (hlength : key.length = 32)
    (hstart : (canonicalBytes (artifactHeader cipher baseNonce context) ++ [10]).length < 4294967296)
    (hbody : sealChunks aes key baseNonce (artifactHeader cipher baseNonce context) context 0
      chunks = .ok body) (hindex : chunks.length < 4294967296)
    (hfooter : aes.encrypt key (baseNonce ++ word chunks.length) (canonicalBytes (footerPlain
        chunks.flatten.length (Sha256.hexdigest chunks.flatten) chunks.length))
      (footerAad (artifactHeader cipher baseNonce context) context) = .ok sealed)
    (hsealed : sealed.length < 4294967296) :
    decryptStream aes reader context (artifactMagic ++
        (frame (canonicalBytes (artifactHeader cipher baseNonce context) ++ [10]) ++
          (body ++ (word 0 ++ frame sealed))) ++ trailing) =
      .ok (chunks.flatten, chunks.flatten.length, Sha256.hexdigest chunks.flatten) := by
  have hcanonical := canonical_readHeader cipher baseNonce context
  -- the zero and the footer end the chunks
  have hend : ∀ fuel, (word 0 ++ (frame sealed ++ trailing)).length ≤ fuel →
      openChunks aes key baseNonce (.obj (readHeader cipher baseNonce context)) context fuel
        (0 + chunks.length) (0 + chunks.flatten.length) ([] ++ chunks.flatten)
        (word 0 ++ (frame sealed ++ trailing)) =
          .ok (chunks.flatten, chunks.flatten.length, Sha256.hexdigest chunks.flatten) := by
    intro fuel hfuel
    obtain ⟨fuel, rfl⟩ : ∃ n, fuel = n + 1 := ⟨fuel - 1, by
      rw [List.length_append, length_word] at hfuel
      omega⟩
    rw [Nat.zero_add, Nat.zero_add, List.nil_append]
    refine openChunks_eq_ok.mpr ⟨rfl, .inl ⟨rfl, openFooter_eq_ok.mpr ?_⟩⟩
    rw [drop_word, frame, List.append_assoc, take_word, drop_word, number_word hsealed,
      List.take_left, (aad_congr hcanonical).2]
    refine ⟨rfl, rfl, hindex, _, aes.decrypt_encrypt hfooter, _, loads_footerPlain _ _ _, rfl, ?_,
      rfl⟩
    simp [Json.get, Json.get?, Json.lookup, Json.str?, countsAs]
  have hopened := openHeader_header cipher baseNonce context hversion hkey hlength
  rw [decryptStream]
  simp only [frame, List.append_assoc, List.take_left, List.drop_left, take_word, drop_word,
    number_word hstart]
  rw [← List.append_assoc (canonicalBytes _) [10], List.take_left, List.drop_left, hopened]
  exact openChunks_sealed hcanonical hbody hend le_rfl

/-- What was sealed is opened, also where the configured key version and the chunk size have
changed since. -/
theorem decryptStream_encryptStream {source stored : List UInt8} {size count : ℕ}
    {digest : String} (trailing : List UInt8) (hversion : cipher.keyVersion ≠ "")
    (hkeys : reader.getKey cipher.keyVersion = cipher.getKey cipher.keyVersion)
    (h : encryptStream aes cipher baseNonce context source = .ok (stored, size, digest, count)) :
    decryptStream aes reader context (stored ++ trailing) = .ok (source, size, digest) ∧
      size = source.length ∧ digest = Sha256.hexdigest source := by
  obtain ⟨key, hkey, h⟩ := bind_eq_ok.mp h
  obtain ⟨⟨⟩, hlength, h⟩ := bind_eq_ok.mp h
  obtain ⟨start, hstart, h⟩ := bind_eq_ok.mp h
  obtain ⟨body, hbody, h⟩ := bind_eq_ok.mp h
  obtain ⟨nonce, hnonce, h⟩ := bind_eq_ok.mp h
  obtain ⟨sealed, hsealed, h⟩ := bind_eq_ok.mp h
  obtain ⟨footer, hfooter, h⟩ := bind_eq_ok.mp h
  obtain ⟨hstored, rfl⟩ := framed_eq_ok.mp hstart
  obtain ⟨hindex, rfl⟩ := nonceAt_eq_ok.mp hnonce
  obtain ⟨hseal, rfl⟩ := framed_eq_ok.mp hfooter
  have hopened := decryptStream_stored trailing hversion (hkeys.trans hkey)
    (ensure_eq_ok.mp hlength) hstored hbody hindex hsealed hseal
  have hchunks := flatten_pieces cipher.chunkBytes_pos (le_refl source.length)
  rw [hchunks] at h hopened
  cases h
  exact ⟨hopened, rfl, rfl⟩

/-! ## An artifact -/

def sampleKey : List UInt8 := List.replicate 32 7

def sampleNonce : List UInt8 := [0, 1, 2, 3, 4, 5, 6, 7]

def sampleContext : Json := .obj [("artifact_id", .str "a1")]

def sampleCipher : ArtifactCipher where
  getKey version := if version = "v1" then .ok sampleKey else .error ⟨.keyError, version⟩
  keyVersion := "v1"
  chunkBytes := 4
  chunkBytes_pos := by decide

/-- A reader that has turned to another key since. -/
def sampleReader : ArtifactCipher :=
  { sampleCipher with keyVersion := "v2", chunkBytes := 9, chunkBytes_pos := by decide }

def samplePlaintext : List UInt8 := [97, 98, 99]

def sampleFooter : List UInt8 :=
  canonicalBytes (footerPlain 3 (Sha256.hexdigest samplePlaintext) 1)

/-- So many bytes of a number. -/
def bytesOf (count n : ℕ) : List UInt8 :=
  (List.range count).map fun i => UInt8.ofNat (n >>> (8 * (count - 1 - i)))

/-- The chunk under AES-GCM. -/
def sampleChunkSealed : List UInt8 := bytesOf 19 0x7f8a482a4374f0b2e54e877edf768b9c979082

/-- The footer under AES-GCM. -/
def sampleFooterSealed : List UInt8 :=
  bytesOf 45 0x5ce33618cd143f0aa5c4e6610cbf093135ad1b32f5946dfc1ac2b33b5366359aefba2e09f0a1911a984570849d ++
  bytesOf 45 0xf67984c97321e06620ed52ca1c4aff6ec0a82952df85d77b760879f9705d5a8a83534131987377be54afed1fc1 ++
  bytesOf 43 0xf86044eafd94592967af3a5a99593eee369c46720526dcd6892cf6147cc3dc32913dda448e6763f28a2eb8

def sampleHeader : Json := artifactHeader sampleCipher sampleNonce sampleContext

/-- AES-GCM on what the artifact seals. -/
def sampleAes : Aesgcm where
  encrypt key nonce data aad :=
    if key = sampleKey ∧ nonce = sampleNonce ++ word 0 ∧ data = samplePlaintext ∧
        aad = chunkAad sampleHeader sampleContext 0 then .ok sampleChunkSealed
    else if key = sampleKey ∧ nonce = sampleNonce ++ word 1 ∧ data = sampleFooter ∧
        aad = footerAad sampleHeader sampleContext then .ok sampleFooterSealed
    else .error ⟨.valueError, ""⟩
  decrypt key nonce data aad :=
    if key = sampleKey ∧ nonce = sampleNonce ++ word 0 ∧ data = sampleChunkSealed ∧
        aad = chunkAad sampleHeader sampleContext 0 then .ok samplePlaintext
    else if key = sampleKey ∧ nonce = sampleNonce ++ word 1 ∧ data = sampleFooterSealed ∧
        aad = footerAad sampleHeader sampleContext then .ok sampleFooter
    else .error ⟨.other "InvalidTag", ""⟩
  decrypt_encrypt {key nonce data aad sealed} h := by
    split at h
    next hchunk =>
      obtain rfl := Except.ok.inj h
      exact (if_pos ⟨hchunk.1, hchunk.2.1, rfl, hchunk.2.2.2⟩).trans
        (congrArg Except.ok hchunk.2.2.1.symm)
    next =>
      split at h
      next hfooter =>
        obtain rfl := Except.ok.inj h
        rw [if_neg fun hchunk => absurd (hfooter.2.1.symm.trans hchunk.2.1) (by decide)]
        exact (if_pos ⟨hfooter.1, hfooter.2.1, rfl, hfooter.2.2.2⟩).trans
          (congrArg Except.ok hfooter.2.2.1.symm)
      next => cases h
  length_encrypt {key nonce data aad sealed} h := by
    split at h
    next hchunk =>
      rw [← Except.ok.inj h, hchunk.2.2.1]
      decide +kernel
    next =>
      split at h
      next hfooter =>
        rw [← Except.ok.inj h, hfooter.2.2.1]
        decide +kernel
      next => cases h

theorem decryptStream_encryptStream_sample : ∃ stored size digest count,
    encryptStream sampleAes sampleCipher sampleNonce sampleContext samplePlaintext =
      .ok (stored, size, digest, count) ∧
    decryptStream sampleAes sampleReader sampleContext (stored ++ [0, 0]) =
      .ok (samplePlaintext, size, digest) ∧
    size = samplePlaintext.length ∧ digest = Sha256.hexdigest samplePlaintext := by
  have hsome : (encryptStream sampleAes sampleCipher sampleNonce sampleContext
      samplePlaintext).toOption.isSome = true := by decide +kernel
  obtain ⟨⟨stored, size, digest, count⟩, hstored⟩ := Option.isSome_iff_exists.mp hsome
  have hsealed := toOption_eq_some.mp hstored
  exact ⟨stored, size, digest, count, hsealed,
    decryptStream_encryptStream [0, 0] (by decide)
      (congrFun (show sampleReader.getKey = sampleCipher.getKey from rfl) _) hsealed⟩

/-! ## What is opened was sealed -/

/-- The arguments of a call of `encrypt_stream`, with the key it was given. -/
structure SealedArtifact where
  cipher : ArtifactCipher
  key : List UInt8
  baseNonce : List UInt8
  context : Json
  plaintext : List UInt8

namespace SealedArtifact

variable (a : SealedArtifact)

def sealedHeader : Json := artifactHeader a.cipher a.baseNonce a.context

def chunks : List (List UInt8) := pieces a.cipher.chunkBytes a.plaintext.length a.plaintext

/-- What is sealed under a nonce and beside an associated text: a chunk in its place, or the
footer. -/
inductive Seals : (nonce data aad : List UInt8) → Prop where
  | chunk {index : ℕ} {plain : List UInt8} (h : a.chunks[index]? = some plain) :
    Seals (a.baseNonce ++ word index) plain (chunkAad a.sealedHeader a.context index)
  | footer : Seals (a.baseNonce ++ word a.chunks.length)
      (canonicalBytes (footerPlain a.plaintext.length (Sha256.hexdigest a.plaintext)
        a.chunks.length)) (footerAad a.sealedHeader a.context)

end SealedArtifact

section Congr

variable {aes' : Aesgcm}

/-- The chunks are sealed in their places. -/
theorem sealChunks_congr {chunks : List (List UInt8)} {index : ℕ}
    (h : ∀ i plain, chunks[i]? = some plain →
      aes.encrypt key (baseNonce ++ word (index + i)) plain (chunkAad header context (index + i)) =
        aes'.encrypt key (baseNonce ++ word (index + i)) plain
          (chunkAad header context (index + i))) :
    sealChunks aes key baseNonce header context index chunks =
      sealChunks aes' key baseNonce header context index chunks := by
  induction chunks generalizing index with
  | nil => rfl
  | cons plain rest ih =>
    have hrest := @ih (index + 1) fun i next hnext => by
      rw [Nat.add_right_comm]
      exact h (i + 1) next hnext
    rw [sealChunks, sealChunks, hrest]
    cases hnonce : nonceAt baseNonce index with
    | error e => rfl
    | ok nonce =>
      obtain ⟨-, rfl⟩ := nonceAt_eq_ok.mp hnonce
      have hplain := h 0 plain rfl
      rw [Nat.add_zero] at hplain
      change (aes.encrypt key _ plain _ >>= _) = (aes'.encrypt key _ plain _ >>= _)
      rw [hplain]

namespace SealedArtifact

/-- `encrypt_stream` asks for these calls and for no others. -/
theorem encryptStream_congr (a : SealedArtifact)
    (hkey : a.cipher.getKey a.cipher.keyVersion = .ok a.key)
    (h : ∀ {nonce data aad}, a.Seals nonce data aad →
      aes.encrypt a.key nonce data aad = aes'.encrypt a.key nonce data aad) :
    encryptStream aes a.cipher a.baseNonce a.context a.plaintext =
      encryptStream aes' a.cipher a.baseNonce a.context a.plaintext := by
  have hchunks : a.chunks.flatten = a.plaintext := flatten_pieces a.cipher.chunkBytes_pos le_rfl
  have hbody : sealChunks aes a.key a.baseNonce a.sealedHeader a.context 0 a.chunks =
      sealChunks aes' a.key a.baseNonce a.sealedHeader a.context 0 a.chunks := by
    refine sealChunks_congr fun i plain hplain => ?_
    rw [Nat.zero_add]
    exact h (.chunk hplain)
  have hfooter := h (@Seals.footer a)
  rw [← hchunks] at hfooter
  have hgiven : ∀ f : List UInt8 → Except PyError (List UInt8 × ℕ × String × ℕ),
      (Except.ok a.key >>= f) = f a.key := fun _ => rfl
  rw [encryptStream, encryptStream, hkey, hgiven, hgiven]
  refine bind_congr fun _ => bind_congr fun start => ?_
  change (sealChunks aes a.key a.baseNonce a.sealedHeader a.context 0 a.chunks >>= _) =
    (sealChunks aes' a.key a.baseNonce a.sealedHeader a.context 0 a.chunks >>= _)
  rw [hbody]
  refine bind_congr fun body => ?_
  rw [nonceAt]
  split
  · rfl
  · change (aes.encrypt a.key (a.baseNonce ++ word a.chunks.length) (canonicalBytes (footerPlain
      a.chunks.flatten.length (Sha256.hexdigest a.chunks.flatten) a.chunks.length))
      (footerAad a.sealedHeader a.context) >>= _) = _
    rw [hfooter]
    rfl

end SealedArtifact

end Congr

/-- No chunk is bound as a footer. -/
theorem chunkAad_ne_footerAad {other : Json} {index : ℕ} :
    chunkAad header context index ≠ footerAad header' other := by
  intro h
  have htext := congrArg String.toList (Text.utf8_injective h)
  rw [Json.toList_canonical, Json.toList_canonical] at htext
  simp [Json.ordered, Json.orderedFields, Json.orderFields, Json.insertValue, Json.keyLe,
    Json.text, Json.textFields, Json.escapeChar] at htext

/-- What a footer was bound to can be told from its associated text. -/
theorem context_of_footerAad {other : Json} (hcontext : context.FloatTexts)
    (hother : other.FloatTexts) (h : footerAad header context = footerAad header' other) :
    context.canonical = other.canonical := by
  have htext := congrArg String.toList (Text.utf8_injective h)
  rw [Json.toList_canonical, Json.toList_canonical] at htext
  simp [Json.ordered, Json.orderedFields, Json.orderFields, Json.insertValue, Json.keyLe,
    Json.text, Json.textFields] at htext
  -- the context stands first
  have hordered := Json.text_append_inj _ _ (Json.floatTexts_ordered hcontext)
    (Json.floatTexts_ordered hother) (Json.endsToken_cons _ rfl) (Json.endsToken_cons _ rfl) htext
  exact (Json.canonical_eq_iff hcontext hother).mpr hordered.1

/-- Only what was sealed under a key is opened with it, and no base nonce was taken twice. -/
structure Authentic (aes : Aesgcm) (artifacts : List SealedArtifact) : Prop where
  sealed : ∀ {key nonce data aad plain}, aes.decrypt key nonce data aad = .ok plain →
    ∃ a ∈ artifacts, a.key = key ∧ a.Seals nonce plain aad
  nonces : ∀ a ∈ artifacts, ∀ b ∈ artifacts, a.key = b.key → a.baseNonce = b.baseNonce → a = b
  count : ∀ a ∈ artifacts, a.chunks.length < 4294967296
  contexts : ∀ a ∈ artifacts, a.context.FloatTexts

variable {artifacts : List SealedArtifact} {index total : ℕ}

theorem append_word_inj {baseNonce other : List UInt8} {m n : ℕ} (hm : m < 4294967296)
    (hn : n < 4294967296) (h : baseNonce ++ word m = other ++ word n) :
    baseNonce = other ∧ m = n := by
  obtain ⟨hbase, hword⟩ := List.append_inj' h rfl
  exact ⟨hbase, word_injective hm hn hword⟩

theorem Authentic.of_chunk {sealed plain : List UInt8} (hauth : Authentic aes artifacts)
    (hindex : index < 4294967296) (h : aes.decrypt key (baseNonce ++ word index) sealed
      (chunkAad header context index) = .ok plain) :
    ∃ a ∈ artifacts, a.key = key ∧ a.baseNonce = baseNonce ∧ a.chunks[index]? = some plain := by
  obtain ⟨a, ha, hkey, hseals⟩ := hauth.sealed h
  generalize hnonce : baseNonce ++ word index = nonce at hseals
  generalize haad : chunkAad header context index = aad at hseals
  cases hseals with
  | @chunk i _ hchunk =>
    have hi := (List.getElem?_eq_some_iff.mp hchunk).1.trans (hauth.count a ha)
    obtain ⟨hbase, rfl⟩ := append_word_inj hindex hi hnonce
    exact ⟨a, ha, hkey, hbase.symm, hchunk⟩
  | footer => exact absurd haad chunkAad_ne_footerAad

theorem Authentic.of_footer {sealed plain : List UInt8} (hauth : Authentic aes artifacts)
    (hcontext : context.FloatTexts) (hindex : index < 4294967296)
    (h : aes.decrypt key (baseNonce ++ word index) sealed (footerAad header context) =
      .ok plain) :
    ∃ a ∈ artifacts, a.key = key ∧ a.baseNonce = baseNonce ∧
      a.context.canonical = context.canonical ∧ a.chunks.length = index := by
  obtain ⟨a, ha, hkey, hseals⟩ := hauth.sealed h
  generalize hnonce : baseNonce ++ word index = nonce at hseals
  generalize haad : footerAad header context = aad at hseals
  cases hseals with
  | chunk => exact absurd haad.symm chunkAad_ne_footerAad
  | footer =>
    obtain ⟨hbase, rfl⟩ := append_word_inj hindex (hauth.count a ha) hnonce
    have hsame := context_of_footerAad hcontext (hauth.contexts a ha) haad
    exact ⟨a, ha, hkey, hbase.symm, hsame.symm, rfl⟩

/-- What is opened from an index on are the chunks of an artifact from there on. -/
theorem Authentic.openChunks {fuel : ℕ} {target source : List UInt8} {r : List UInt8 × ℕ × String}
    (hauth : Authentic aes artifacts) (hcontext : context.FloatTexts)
    (h : openChunks aes key baseNonce header context fuel index total target source = .ok r) :
    ∃ a ∈ artifacts, a.key = key ∧ a.baseNonce = baseNonce ∧
      a.context.canonical = context.canonical ∧ r = (target ++ (a.chunks.drop index).flatten,
        total + (a.chunks.drop index).flatten.length,
        Sha256.hexdigest (target ++ (a.chunks.drop index).flatten)) := by
  induction fuel generalizing index total target source with
  | zero => cases h
  | succ fuel ih =>
    obtain ⟨-, ⟨-, hfooter⟩ | ⟨-, -, hindex, plain, hplain, hrest⟩⟩ := openChunks_eq_ok.mp h
    · obtain ⟨-, -, hindex, plain, hplain, footer, -, -, -, rfl⟩ := openFooter_eq_ok.mp hfooter
      obtain ⟨a, ha, hkey, hbase, hsame, rfl⟩ := hauth.of_footer hcontext hindex hplain
      exact ⟨a, ha, hkey, hbase, hsame, by simp⟩
    · obtain ⟨a, ha, hkey, hbase, hchunk⟩ := hauth.of_chunk hindex hplain
      obtain ⟨b, hb, hkey', hbase', hsame, rfl⟩ := ih hrest
      -- one base nonce, one artifact
      obtain rfl := hauth.nonces a ha b hb (hkey.trans hkey'.symm) (hbase.trans hbase'.symm)
      obtain ⟨hlt, rfl⟩ := List.getElem?_eq_some_iff.mp hchunk
      have hdrop : (a.chunks.drop index).flatten =
          a.chunks[index] ++ (a.chunks.drop (index + 1)).flatten := by
        rw [List.drop_eq_getElem_cons hlt, List.flatten_cons]
      refine ⟨a, ha, hkey, hbase, hsame, ?_⟩
      rw [hdrop, List.length_append, List.append_assoc, Nat.add_assoc]

/-- What is opened was sealed in that context: nothing is cut off, left out, moved or put in. -/
theorem decryptStream_authentic {source opened : List UInt8} {size : ℕ} {digest : String}
    (hauth : Authentic aes artifacts) (hcontext : context.FloatTexts)
    (h : decryptStream aes reader context source = .ok (opened, size, digest)) :
    ∃ a ∈ artifacts, a.context.canonical = context.canonical ∧ opened = a.plaintext ∧
      size = a.plaintext.length ∧ digest = Sha256.hexdigest a.plaintext := by
  obtain ⟨-, -, h⟩ := bind_eq_ok.mp h
  obtain ⟨-, -, h⟩ := bind_eq_ok.mp h
  obtain ⟨⟨header, baseNonce, key⟩, -, h⟩ := bind_eq_ok.mp h
  obtain ⟨a, ha, -, -, hsame, hr⟩ := hauth.openChunks hcontext h
  have hflatten : a.chunks.flatten = a.plaintext :=
    flatten_pieces a.cipher.chunkBytes_pos le_rfl
  rw [List.drop_zero, List.nil_append, Nat.zero_add, hflatten] at hr
  cases hr
  exact ⟨a, ha, hsame, rfl, rfl, rfl⟩

def sampleArtifact : SealedArtifact :=
  ⟨sampleCipher, sampleKey, sampleNonce, sampleContext, samplePlaintext⟩

theorem authentic_sample : Authentic sampleAes [sampleArtifact] where
  sealed {key nonce data aad plain} h := by
    refine ⟨sampleArtifact, List.mem_singleton_self _, ?_⟩
    simp only [sampleAes] at h
    split at h
    next hchunk =>
      obtain ⟨hkey, hnonce, -, haad⟩ := hchunk
      rw [← Except.ok.inj h, hkey, hnonce, haad]
      exact ⟨rfl, .chunk rfl⟩
    next =>
      split at h
      next hfooter =>
        obtain ⟨hkey, hnonce, -, haad⟩ := hfooter
        rw [← Except.ok.inj h, hkey, hnonce, haad]
        exact ⟨rfl, .footer⟩
      next => cases h
  nonces a ha b hb _ _ := (List.mem_singleton.mp ha).trans (List.mem_singleton.mp hb).symm
  count a ha := by
    rw [List.mem_singleton.mp ha]
    decide
  contexts a ha := by
    rw [List.mem_singleton.mp ha]
    exact ⟨trivial, trivial⟩

theorem decryptStream_authentic_sample : ∃ source opened size digest,
    decryptStream sampleAes sampleReader sampleContext source = .ok (opened, size, digest) ∧
    ∃ a ∈ [sampleArtifact], a.context.canonical = sampleContext.canonical ∧
      opened = a.plaintext ∧ size = a.plaintext.length ∧
      digest = Sha256.hexdigest a.plaintext := by
  have hchunk : sampleAes.encrypt sampleKey (sampleNonce ++ word 0) samplePlaintext
      (chunkAad sampleHeader sampleContext 0) = .ok sampleChunkSealed := by
    simp only [sampleAes, and_self, if_true]
  have hfooter : sampleAes.encrypt sampleKey (sampleNonce ++ word 1) sampleFooter
      (footerAad sampleHeader sampleContext) = .ok sampleFooterSealed := by
    simp only [sampleAes, and_self, if_true]
    exact if_neg fun h => absurd h.2.1 (by decide)
  have hbody : sealChunks sampleAes sampleKey sampleNonce sampleHeader sampleContext 0
      [samplePlaintext] = .ok (frame sampleChunkSealed ++ []) :=
    bind_eq_ok.mpr ⟨_, rfl, bind_eq_ok.mpr ⟨_, hchunk,
      bind_eq_ok.mpr ⟨_, framed_eq_ok.mpr ⟨by decide, rfl⟩, rfl⟩⟩⟩
  have hopened := decryptStream_stored [] (show sampleCipher.keyVersion ≠ "" by decide)
    (show sampleReader.getKey sampleCipher.keyVersion = .ok sampleKey from rfl) rfl
    (by decide +kernel) hbody (by decide) hfooter (by decide +kernel)
  exact ⟨_, _, _, _, hopened, decryptStream_authentic authentic_sample ⟨trivial, trivial⟩ hopened⟩

end Wbcz.Reports
