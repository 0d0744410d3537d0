import Wbcz.Audit.Sanitizer
import Wbcz.Lib.Fallible
import Wbcz.Lib.Redaction

/-!
# What the sanitizer of the audit hides

What stands under the keys of secrets has no influence on a sanitized value, and under the keys of
marking codes it has pseudonyms only. A sanitized value may be sanitized again; then the pseudonyms
get pseudonyms of their own.
-/

namespace Wbcz.Audit

open Fallible (bind_eq_ok map_eq_ok exists_mapM guard_eq_ok mapM_length mapM_mem)

/-- What stands under the keys of secrets. -/
def secretPolicy : Redaction.Policy where
  secret := secretKey
  associated _ := false
  telling _ := false
  names _ := false
  placeholder := .str "[REDACTED]"
  visible _ h := nomatch h

/-- What stands under the keys of marking codes. -/
def markingPolicy : Redaction.Policy where
  secret key := markingKey key && !secretKey key
  associated _ := false
  telling _ := false
  names _ := false
  placeholder := redactedMarking
  visible _ h := nomatch h

theorem secretPolicy_hides (told : Bool) (key : String) :
    secretPolicy.hides told key = secretKey key := by
  simp [Redaction.Policy.hides, secretPolicy]

theorem markingPolicy_hides (told : Bool) (key : String) :
    markingPolicy.hides told key = (markingKey key && !secretKey key) := by
  simp [Redaction.Policy.hides, markingPolicy]

section Sanitizer

variable {p : AuditPseudonymizer} {digests : Digests} {organisationId : Option String}

/-! ## Fields -/

/-- What becomes of the value of a field. -/
def sanitizeField (p : AuditPseudonymizer) (digests : Digests) (organisationId : Option String)
    (depth : ℕ) (key : String) (item : Json) : Except PyError Json :=
  if key.length > 128 then .error (auditSanitizationError "audit metadata key exceeds limit")
  else if secretKey key then .ok (.str "[REDACTED]")
  else if markingKey key then sanitizeMarking p digests organisationId item
  else sanitize p digests organisationId (depth + 1) item

theorem sanitizeFields_cons (depth : ℕ) (key : String) (item : Json)
    (fields : List (String × Json)) :
    sanitizeFields p digests organisationId depth ((key, item) :: fields) = (do
      let item ← sanitizeField p digests organisationId depth key item
      let fields ← sanitizeFields p digests organisationId depth fields
      .ok ((key, item) :: fields)) := by
  rw [sanitizeFields, sanitizeField]
  split_ifs <;> rfl

theorem sanitizeFields_cons_eq_ok {depth : ℕ} {key : String} {item : Json}
    {fields out : List (String × Json)} :
    sanitizeFields p digests organisationId depth ((key, item) :: fields) = .ok out ↔
      ∃ given rest, sanitizeField p digests organisationId depth key item = .ok given ∧
        sanitizeFields p digests organisationId depth fields = .ok rest ∧
          out = (key, given) :: rest := by
  rw [sanitizeFields_cons]
  constructor
  · intro h
    obtain ⟨given, hgiven, h⟩ := bind_eq_ok.mp h
    obtain ⟨rest, hrest, h⟩ := bind_eq_ok.mp h
    exact ⟨given, rest, hgiven, hrest, (Except.ok.inj h).symm⟩
  · rintro ⟨given, rest, hgiven, hrest, rfl⟩
    exact bind_eq_ok.mpr ⟨given, hgiven, bind_eq_ok.mpr ⟨rest, hrest, rfl⟩⟩

/-- The branches of `sanitizeField`. -/
inductive FieldCase (p : AuditPseudonymizer) (digests : Digests) (organisationId : Option String)
    (depth : ℕ) (key : String) (item given : Json) : Prop
  | secret (hsecret : secretKey key = true) (heq : given = .str "[REDACTED]")
  | marking (hsecret : secretKey key = false) (hmarking : markingKey key = true)
    (h : sanitizeMarking p digests organisationId item = .ok given)
  | other (hsecret : secretKey key = false) (hmarking : markingKey key = false)
    (h : sanitize p digests organisationId (depth + 1) item = .ok given)

theorem sanitizeField_cases {depth : ℕ} {key : String} {item given : Json}
    (h : sanitizeField p digests organisationId depth key item = .ok given) :
    key.length ≤ 128 ∧ FieldCase p digests organisationId depth key item given := by
  unfold sanitizeField at h
  split_ifs at h with hlength hsecret hmarking
  · exact ⟨not_lt.mp hlength, .secret hsecret (Except.ok.inj h).symm⟩
  · exact ⟨not_lt.mp hlength, .marking (Bool.eq_false_iff.mpr hsecret) hmarking h⟩
  · exact ⟨not_lt.mp hlength,
      .other (Bool.eq_false_iff.mpr hsecret) (Bool.eq_false_iff.mpr hmarking) h⟩

theorem sanitizeItems_cons_eq_ok {depth : ℕ} {item : Json} {items out : List Json} :
    sanitizeItems p digests organisationId depth (item :: items) = .ok out ↔
      ∃ given rest, sanitize p digests organisationId (depth + 1) item = .ok given ∧
        sanitizeItems p digests organisationId depth items = .ok rest ∧ out = given :: rest := by
  rw [sanitizeItems]
  constructor
  · intro h
    obtain ⟨given, hgiven, h⟩ := bind_eq_ok.mp h
    obtain ⟨rest, hrest, h⟩ := bind_eq_ok.mp h
    exact ⟨given, rest, hgiven, hrest, (Except.ok.inj h).symm⟩
  · rintro ⟨given, rest, hgiven, hrest, rfl⟩
    exact bind_eq_ok.mpr ⟨given, hgiven, bind_eq_ok.mpr ⟨rest, hrest, rfl⟩⟩

/-! ## Secrets have no influence -/

theorem sanitizeMarkingItem_congr {told : Bool} {item other : Json} {organisation : String}
    (h : secretPolicy.Alike told item other) :
    sanitizeMarkingItem p digests organisation item =
      sanitizeMarkingItem p digests organisation other := by
  cases h with
  | same => rfl
  | arr => rfl
  | obj => rfl

theorem mapM_sanitizeMarkingItem_congr {told : Bool} {items others : List Json}
    {organisation : String} (h : secretPolicy.AlikeItems told items others) :
    items.mapM (sanitizeMarkingItem p digests organisation) =
      others.mapM (sanitizeMarkingItem p digests organisation) := by
  match h with
  | .nil => rfl
  | .cons hitem hrest =>
    rw [List.mapM_cons, List.mapM_cons, sanitizeMarkingItem_congr hitem,
      mapM_sanitizeMarkingItem_congr hrest]

/-- Objects within marking codes are not looked into. -/
theorem sanitizeMarking_congr {told : Bool} {item other : Json}
    (h : secretPolicy.Alike told item other) :
    sanitizeMarking p digests organisationId item =
      sanitizeMarking p digests organisationId other := by
  cases organisationId with
  | none => rfl
  | some organisation =>
    cases h with
    | same => rfl
    | obj => rfl
    | arr hitems =>
      simp only [sanitizeMarking, hitems.length_eq, mapM_sanitizeMarkingItem_congr hitems]

mutual

/-- Secrets have no influence. -/
theorem sanitize_congr {told : Bool} {value other : Json} (depth : ℕ) :
    secretPolicy.Alike told value other →
      sanitize p digests organisationId depth value = sanitize p digests organisationId depth other
  | .same _ => rfl
  | .arr h => by rw [sanitize, sanitize, h.length_eq, sanitizeItems_congr depth h]
  | .obj h => by rw [sanitize, sanitize, h.length_eq, sanitizeFields_congr depth h]

theorem sanitizeItems_congr {told : Bool} {items others : List Json} (depth : ℕ) :
    secretPolicy.AlikeItems told items others →
      sanitizeItems p digests organisationId depth items =
        sanitizeItems p digests organisationId depth others
  | .nil => rfl
  | .cons h hrest => by
    rw [sanitizeItems, sanitizeItems, sanitize_congr (depth + 1) h, sanitizeItems_congr depth hrest]

theorem sanitizeFields_congr {told : Bool} {fields others : List (String × Json)} (depth : ℕ) :
    secretPolicy.AlikeFields told fields others →
      sanitizeFields p digests organisationId depth fields =
        sanitizeFields p digests organisationId depth others
  | .nil => rfl
  | .hidden h hrest => by
    rw [secretPolicy_hides] at h
    rw [sanitizeFields_cons, sanitizeFields_cons, sanitizeField, sanitizeField, if_pos h, if_pos h,
      sanitizeFields_congr depth hrest]
  | .shown h hrest => by
    rw [sanitizeFields_cons, sanitizeFields_cons, sanitizeField, sanitizeField,
      sanitizeMarking_congr h, sanitize_congr (depth + 1) h, sanitizeFields_congr depth hrest]

end

/-! ## What replaces marking codes -/

/-- A pseudonym of a text, or what stands for one. -/
def IsPseudonym (p : AuditPseudonymizer) (digests : Digests) (organisationId : Option String)
    (item : Json) : Prop :=
  item = redactedMarking ∨ ∃ organisation exact text, organisationId = some organisation ∧
    p.marking digests organisation exact = .ok text ∧ item = .str text

/-- What stands under the key of marking codes. -/
def IsMarking (p : AuditPseudonymizer) (digests : Digests) (organisationId : Option String)
    (item : Json) : Prop :=
  IsPseudonym p digests organisationId item ∨
    ∃ items, item = .arr items ∧ ∀ inner ∈ items, IsPseudonym p digests organisationId inner

mutual

/-- Under the keys of secrets and of marking codes stands what replaces them. -/
def Veiled (p : AuditPseudonymizer) (digests : Digests) (organisationId : Option String) :
    Json → Prop
  | .arr items => VeiledItems p digests organisationId items
  | .obj fields => VeiledFields p digests organisationId fields
  | _ => True

def VeiledItems (p : AuditPseudonymizer) (digests : Digests) (organisationId : Option String) :
    List Json → Prop
  | [] => True
  | item :: items =>
    Veiled p digests organisationId item ∧ VeiledItems p digests organisationId items

def VeiledFields (p : AuditPseudonymizer) (digests : Digests) (organisationId : Option String) :
    List (String × Json) → Prop
  | [] => True
  | (key, item) :: fields =>
    ((secretKey key = true → item = .str "[REDACTED]") ∧
      (secretKey key = false → markingKey key = true → IsMarking p digests organisationId item) ∧
      (secretKey key = false → markingKey key = false →
        Veiled p digests organisationId item)) ∧
    VeiledFields p digests organisationId fields

end

theorem veiledItems_cons {item : Json} {items : List Json} :
    VeiledItems p digests organisationId (item :: items) ↔
      Veiled p digests organisationId item ∧ VeiledItems p digests organisationId items := by
  rw [VeiledItems]

theorem isPseudonym_of_item {organisation : String} {item out : Json}
    (h : sanitizeMarkingItem p digests organisation item = .ok out) :
    IsPseudonym p digests (some organisation) out := by
  unfold sanitizeMarkingItem at h
  split at h
  · obtain ⟨text, htext, rfl⟩ := map_eq_ok.mp h
    exact .inr ⟨organisation, _, text, rfl, htext, rfl⟩
  · exact .inl (Except.ok.inj h).symm

theorem isMarking_of_sanitizeMarking {item out : Json}
    (h : sanitizeMarking p digests organisationId item = .ok out) :
    IsMarking p digests organisationId out := by
  cases organisationId with
  | none => exact .inl (.inl (Except.ok.inj h).symm)
  | some organisation =>
    unfold sanitizeMarking at h
    dsimp only at h
    split at h
    · obtain ⟨text, htext, rfl⟩ := map_eq_ok.mp h
      exact .inl (.inr ⟨organisation, _, text, rfl, htext, rfl⟩)
    · obtain ⟨-, hmap⟩ := guard_eq_ok.mp h
      obtain ⟨items, hitems, rfl⟩ := map_eq_ok.mp hmap
      refine .inr ⟨items, rfl, fun inner hinner => ?_⟩
      obtain ⟨given, -, hgiven⟩ := mapM_mem hitems inner hinner
      exact isPseudonym_of_item hgiven
    · exact .inl (.inl (Except.ok.inj h).symm)

theorem FieldCase.veiledFields {depth : ℕ} {key : String} {item given : Json}
    {fields : List (String × Json)} (h : FieldCase p digests organisationId depth key item given)
    (hveiled : sanitize p digests organisationId (depth + 1) item = .ok given →
      Veiled p digests organisationId given) (hrest : VeiledFields p digests organisationId fields) :
    VeiledFields p digests organisationId ((key, given) :: fields) := by
  rw [VeiledFields]
  refine ⟨?_, hrest⟩
  cases h with
  | secret hsecret heq => simp [hsecret, heq]
  | marking hsecret hmarking h => simp [hsecret, hmarking, isMarking_of_sanitizeMarking h]
  | other hsecret hmarking h => simp [hsecret, hmarking, hveiled h]

theorem checkDepth_bind {α : Type} {depth : ℕ} {x : Except PyError α} {a : α} :
    (checkDepth depth >>= fun _ => x) = .ok a ↔ depth ≤ maxSanitizerDepth ∧ x = .ok a := by
  unfold checkDepth
  split_ifs with h
  · constructor
    · intro hbind
      cases hbind
    · rintro ⟨hle, -⟩
      omega
  · exact (and_iff_right (not_lt.mp h)).symm

/-- The branches of `sanitize` for values without values in them. -/
inductive Scalar : Json → Json → Prop
  | null : Scalar .null .null
  | bool (b : Bool) : Scalar (.bool b) (.bool b)
  | int {i : ℤ} (h : ¬i.natAbs > Jcs.safeIntegerMax.natAbs) : Scalar (.int i) (.int i)
  | bigInt {i : ℤ} {text : String} (h : IntText.str? i = some text) : Scalar (.int i) (.str text)
  | float {text : String} (h : (Jcs.floatText text).isNone = false) :
    Scalar (.float text) (.float text)
  | str {text : String} (h : text.length ≤ maxStringChars) : Scalar (.str text) (.str text)

/-- What is known of a sanitized value. -/
theorem sanitize_cases {depth : ℕ} {value out : Json}
    (h : sanitize p digests organisationId depth value = .ok out) :
    depth ≤ maxSanitizerDepth ∧ (Scalar value out ∨
      (∃ items rest, value = .arr items ∧ out = .arr rest ∧ items.length ≤ maxArrayElements ∧
        sanitizeItems p digests organisationId depth items = .ok rest) ∨
      ∃ fields rest, value = .obj fields ∧ out = .obj rest ∧ fields.length ≤ maxMetadataKeys ∧
        sanitizeFields p digests organisationId depth fields = .ok rest) := by
  cases value with
  | null =>
    rw [sanitize] at h
    obtain ⟨hdepth, h⟩ := checkDepth_bind.mp h
    exact ⟨hdepth, .inl (Except.ok.inj h ▸ .null)⟩
  | bool b =>
    rw [sanitize] at h
    obtain ⟨hdepth, h⟩ := checkDepth_bind.mp h
    exact ⟨hdepth, .inl (Except.ok.inj h ▸ .bool b)⟩
  | int i =>
    rw [sanitize] at h
    obtain ⟨hdepth, h⟩ := checkDepth_bind.mp h
    refine ⟨hdepth, .inl ?_⟩
    split_ifs at h with hbig
    · split at h
      · rename_i text htext
        exact Except.ok.inj h ▸ .bigInt htext
      · cases h
    · exact Except.ok.inj h ▸ .int hbig
  | float text =>
    rw [sanitize] at h
    obtain ⟨hdepth, h⟩ := checkDepth_bind.mp h
    obtain ⟨hfinite, h⟩ := guard_eq_ok.mp h
    exact ⟨hdepth, .inl (Except.ok.inj h ▸ .float (Bool.eq_false_iff.mpr hfinite))⟩
  | str text =>
    rw [sanitize] at h
    obtain ⟨hdepth, h⟩ := checkDepth_bind.mp h
    obtain ⟨hlength, h⟩ := guard_eq_ok.mp h
    exact ⟨hdepth, .inl (Except.ok.inj h ▸ .str (not_lt.mp hlength))⟩
  | arr items =>
    rw [sanitize] at h
    obtain ⟨hdepth, h⟩ := checkDepth_bind.mp h
    obtain ⟨hlength, h⟩ := guard_eq_ok.mp h
    obtain ⟨rest, hrest, rfl⟩ := map_eq_ok.mp h
    exact ⟨hdepth, .inr (.inl ⟨items, rest, rfl, rfl, not_lt.mp hlength, hrest⟩)⟩
  | obj fields =>
    rw [sanitize] at h
    obtain ⟨hdepth, h⟩ := checkDepth_bind.mp h
    obtain ⟨hlength, h⟩ := guard_eq_ok.mp h
    obtain ⟨rest, hrest, rfl⟩ := map_eq_ok.mp h
    exact ⟨hdepth, .inr (.inr ⟨fields, rest, rfl, rfl, not_lt.mp hlength, hrest⟩)⟩

theorem Scalar.veiled {value out : Json} (h : Scalar value out) :
    Veiled p digests organisationId out := by
  cases h <;> simp [Veiled]

mutual

/-- A sanitized value is veiled. -/
theorem veiled_of_sanitize : ∀ (value : Json) {out : Json} {depth : ℕ},
    sanitize p digests organisationId depth value = .ok out → Veiled p digests organisationId out
  | .arr items, out, depth, h => by
    obtain ⟨-, hscalar | ⟨_, rest, ⟨⟩, rfl, -, hrest⟩ | ⟨_, _, ⟨⟩, -⟩⟩ := sanitize_cases h
    · cases hscalar
    · rw [Veiled]
      exact veiledItems_of_sanitize items hrest
  | .obj fields, out, depth, h => by
    obtain ⟨-, hscalar | ⟨_, _, ⟨⟩, -⟩ | ⟨_, rest, ⟨⟩, rfl, -, hrest⟩⟩ := sanitize_cases h
    · cases hscalar
    · rw [Veiled]
      exact veiledFields_of_sanitize fields hrest
  | .null, _, _, h | .bool _, _, _, h | .int _, _, _, h | .float _, _, _, h | .str _, _, _, h => by
    obtain ⟨-, hscalar | ⟨_, _, ⟨⟩, -⟩ | ⟨_, _, ⟨⟩, -⟩⟩ := sanitize_cases h
    exact hscalar.veiled

theorem veiledItems_of_sanitize : ∀ (items : List Json) {out : List Json} {depth : ℕ},
    sanitizeItems p digests organisationId depth items = .ok out →
      VeiledItems p digests organisationId out
  | [], out, depth, h => by
    rw [sanitizeItems] at h
    rw [← Except.ok.inj h]
    simp [VeiledItems]
  | item :: items, out, depth, h => by
    obtain ⟨given, rest, hgiven, hrest, rfl⟩ := sanitizeItems_cons_eq_ok.mp h
    exact veiledItems_cons.mpr
      ⟨veiled_of_sanitize item hgiven, veiledItems_of_sanitize items hrest⟩

theorem veiledFields_of_sanitize : ∀ (fields : List (String × Json)) {out : List (String × Json)}
    {depth : ℕ}, sanitizeFields p digests organisationId depth fields = .ok out →
      VeiledFields p digests organisationId out
  | [], out, depth, h => by
    rw [sanitizeFields] at h
    rw [← Except.ok.inj h]
    simp [VeiledFields]
  | (key, item) :: fields, out, depth, h => by
    obtain ⟨given, rest, hgiven, hrest, rfl⟩ := sanitizeFields_cons_eq_ok.mp h
    exact (sanitizeField_cases hgiven).2.veiledFields (veiled_of_sanitize item)
      (veiledFields_of_sanitize fields hrest)

end

/-! ## Sanitizing again -/

mutual

/-- No integer that is shown has a text that is too long. -/
def shortInts : Json → Bool
  | .int i => (toString i).length ≤ maxStringChars
  | .arr items => shortIntsItems items
  | .obj fields => shortIntsFields fields
  | _ => true

def shortIntsItems : List Json → Bool
  | [] => true
  | item :: items => shortInts item && shortIntsItems items

def shortIntsFields : List (String × Json) → Bool
  | [] => true
  | (key, item) :: fields =>
    (secretKey key || markingKey key || shortInts item) && shortIntsFields fields

end

/-- A pseudonym can be made of every text, or none is made. -/
def Pseudonymizes (p : AuditPseudonymizer) (organisationId : Option String) : Prop :=
  organisationId = none ∨ p.key.isSome = true

theorem exists_marking (digests : Digests) {organisation exact : String} (hkey : p.key.isSome = true) :
    ∃ text, p.marking digests organisation exact = .ok text := by
  obtain ⟨key, hkey⟩ := Option.isSome_iff_exists.mp hkey
  exact ⟨_, by rw [AuditPseudonymizer.marking, AuditPseudonymizer.hmac, hkey]⟩

theorem exists_sanitizeMarkingItem (digests : Digests) (organisation : String) (item : Json)
    (hkey : p.key.isSome = true) :
    ∃ out, sanitizeMarkingItem p digests organisation item = .ok out := by
  unfold sanitizeMarkingItem
  split
  · obtain ⟨text, htext⟩ := exists_marking digests hkey
    exact ⟨.str text, map_eq_ok.mpr ⟨text, htext, rfl⟩⟩
  · exact ⟨redactedMarking, rfl⟩

/-- What stands under the key of marking codes can be sanitized again, and is the same where there
is no organisation. -/
theorem sanitizeMarking_again (hkey : Pseudonymizes p organisationId) {item out : Json}
    (h : sanitizeMarking p digests organisationId item = .ok out) :
    ∃ again, sanitizeMarking p digests organisationId out = .ok again ∧
      (organisationId = none → again = out) := by
  cases organisationId with
  | none =>
    obtain rfl := Except.ok.inj h
    exact ⟨redactedMarking, rfl, fun _ => rfl⟩
  | some organisation =>
    have hsome : p.key.isSome = true := hkey.resolve_left (by simp)
    suffices hagain : ∃ again, sanitizeMarking p digests (some organisation) out = .ok again by
      obtain ⟨again, hagain⟩ := hagain
      exact ⟨again, hagain, nofun⟩
    unfold sanitizeMarking at h ⊢
    dsimp only at h ⊢
    split
    · obtain ⟨text, htext⟩ := exists_marking digests hsome
      exact ⟨.str text, map_eq_ok.mpr ⟨text, htext, rfl⟩⟩
    · rename_i items
      have hlength : items.length ≤ maxArrayElements := by
        split at h
        · obtain ⟨text, -, htext⟩ := map_eq_ok.mp h
          cases htext
        · obtain ⟨hlength, hmap⟩ := guard_eq_ok.mp h
          obtain ⟨others, hothers, heq⟩ := map_eq_ok.mp hmap
          obtain rfl := Json.arr.inj heq
          rw [← mapM_length hothers] at hlength
          exact not_lt.mp hlength
        · cases Except.ok.inj h
      obtain ⟨again, hagain⟩ := exists_mapM.mpr fun inner _ =>
        exists_sanitizeMarkingItem digests organisation inner hsome
      exact ⟨.arr again, guard_eq_ok.mpr
        ⟨not_lt.mpr hlength, map_eq_ok.mpr ⟨again, hagain, rfl⟩⟩⟩
    · exact ⟨redactedMarking, rfl⟩

theorem sanitize_checked {depth : ℕ} {value : Json} {x : Except PyError Json}
    (hdepth : depth ≤ maxSanitizerDepth)
    (h : sanitize p digests organisationId depth value = (checkDepth depth >>= fun _ => x)) :
    sanitize p digests organisationId depth value = x := by
  rw [h, checkDepth, if_neg (not_lt.mpr hdepth)]
  rfl

/-- A sanitized scalar stays as it is. -/
theorem Scalar.again {depth : ℕ} {value out : Json} (h : Scalar value out)
    (hshort : shortInts value = true) (hdepth : depth ≤ maxSanitizerDepth) :
    sanitize p digests organisationId depth out = .ok out := by
  cases h with
  | null => exact sanitize_checked hdepth (by rw [sanitize])
  | bool b => exact sanitize_checked hdepth (by rw [sanitize])
  | int h =>
    refine sanitize_checked hdepth ?_
    rw [sanitize, if_neg h]
  | bigInt h =>
    rename_i i text
    have htext : toString i = text := by
      unfold IntText.str? at h
      split_ifs at h
      exact Option.some.inj h
    have hlength : text.length ≤ maxStringChars := by
      rw [← htext]
      simpa [shortInts] using hshort
    refine sanitize_checked hdepth ?_
    rw [sanitize, if_neg (not_lt.mpr hlength)]
  | float h =>
    refine sanitize_checked hdepth ?_
    rw [sanitize, if_neg (Bool.eq_false_iff.mp h)]
  | str h =>
    refine sanitize_checked hdepth ?_
    rw [sanitize, if_neg (not_lt.mpr h)]

theorem sanitize_arr {depth : ℕ} {items rest : List Json} (hdepth : depth ≤ maxSanitizerDepth)
    (hlength : items.length ≤ maxArrayElements)
    (h : sanitizeItems p digests organisationId depth items = .ok rest) :
    sanitize p digests organisationId depth (.arr items) = .ok (.arr rest) := by
  refine sanitize_checked hdepth ?_
  rw [sanitize, if_neg (not_lt.mpr hlength), h]
  rfl

theorem sanitize_obj {depth : ℕ} {fields rest : List (String × Json)}
    (hdepth : depth ≤ maxSanitizerDepth) (hlength : fields.length ≤ maxMetadataKeys)
    (h : sanitizeFields p digests organisationId depth fields = .ok rest) :
    sanitize p digests organisationId depth (.obj fields) = .ok (.obj rest) := by
  refine sanitize_checked hdepth ?_
  rw [sanitize, if_neg (not_lt.mpr hlength), h]
  rfl

theorem sanitizeItems_length {depth : ℕ} : ∀ {items out : List Json},
    sanitizeItems p digests organisationId depth items = .ok out → out.length = items.length
  | [], out, h => by
    rw [sanitizeItems] at h
    rw [← Except.ok.inj h]
  | item :: items, out, h => by
    obtain ⟨given, rest, -, hrest, rfl⟩ := sanitizeItems_cons_eq_ok.mp h
    rw [List.length_cons, List.length_cons, sanitizeItems_length hrest]

theorem sanitizeFields_length {depth : ℕ} : ∀ {fields out : List (String × Json)},
    sanitizeFields p digests organisationId depth fields = .ok out → out.length = fields.length
  | [], out, h => by
    rw [sanitizeFields] at h
    rw [← Except.ok.inj h]
  | (key, item) :: fields, out, h => by
    obtain ⟨given, rest, -, hrest, rfl⟩ := sanitizeFields_cons_eq_ok.mp h
    rw [List.length_cons, List.length_cons, sanitizeFields_length hrest]

theorem markingPolicy_tells (told : Bool) (fields : List (String × Json)) :
    (told || markingPolicy.tells fields) = told := by
  simp [Redaction.Policy.tells, markingPolicy]

/-- One field is sanitized again. -/
theorem FieldCase.again {told : Bool} {depth : ℕ} {key : String} {item given : Json}
    (hkey : Pseudonymizes p organisationId) (hlength : key.length ≤ 128)
    (h : FieldCase p digests organisationId depth key item given)
    (hitem : sanitize p digests organisationId (depth + 1) item = .ok given →
      secretKey key = false → markingKey key = false →
      ∃ again, sanitize p digests organisationId (depth + 1) given = .ok again ∧
        markingPolicy.Alike told given again ∧ (organisationId = none → again = given)) :
    ∃ again, sanitizeField p digests organisationId depth key given = .ok again ∧
      (markingPolicy.hides told key = true ∨ markingPolicy.Alike told given again) ∧
      (organisationId = none → again = given) := by
  rw [sanitizeField, if_neg (not_lt.mpr hlength), markingPolicy_hides]
  cases h with
  | secret hsecret heq =>
    rw [if_pos hsecret]
    exact ⟨_, rfl, .inr (heq ▸ .same _), fun _ => heq.symm⟩
  | marking hsecret hmarking h =>
    obtain ⟨again, hagain, hsame⟩ := sanitizeMarking_again hkey h
    rw [if_neg (Bool.eq_false_iff.mp hsecret), if_pos hmarking]
    exact ⟨again, hagain, .inl (by simp [hsecret, hmarking]), hsame⟩
  | other hsecret hmarking h =>
    obtain ⟨again, hagain, halike, hsame⟩ := hitem h hsecret hmarking
    rw [if_neg (Bool.eq_false_iff.mp hsecret), if_neg (Bool.eq_false_iff.mp hmarking)]
    exact ⟨again, hagain, .inr halike, hsame⟩

mutual

/-- What was sanitized may be sanitized again: only what stands under the keys of marking codes
changes, and nothing where there is no organisation. -/
theorem sanitize_again (hkey : Pseudonymizes p organisationId) (told : Bool) :
    ∀ (value : Json) {out : Json} {depth : ℕ}, shortInts value = true →
      sanitize p digests organisationId depth value = .ok out →
      ∃ again, sanitize p digests organisationId depth out = .ok again ∧
        markingPolicy.Alike told out again ∧ (organisationId = none → again = out)
  | .arr items, out, depth, hshort, h => by
    obtain ⟨hdepth, hscalar | ⟨_, rest, ⟨⟩, rfl, hlength, hrest⟩ | ⟨_, _, ⟨⟩, -⟩⟩ :=
      sanitize_cases h
    · cases hscalar
    · rw [shortInts] at hshort
      obtain ⟨again, hagain, halike, hsame⟩ := sanitizeItems_again hkey told items hshort hrest
      rw [← sanitizeItems_length hrest] at hlength
      exact ⟨_, sanitize_arr hdepth hlength hagain, .arr halike, fun hnone => by rw [hsame hnone]⟩
  | .obj fields, out, depth, hshort, h => by
    obtain ⟨hdepth, hscalar | ⟨_, _, ⟨⟩, -⟩ | ⟨_, rest, ⟨⟩, rfl, hlength, hrest⟩⟩ :=
      sanitize_cases h
    · cases hscalar
    · rw [shortInts] at hshort
      obtain ⟨again, hagain, halike, hsame⟩ := sanitizeFields_again hkey told fields hshort hrest
      rw [← sanitizeFields_length hrest] at hlength
      rw [← markingPolicy_tells told rest] at halike
      exact ⟨_, sanitize_obj hdepth hlength hagain, .obj halike, fun hnone => by rw [hsame hnone]⟩
  | .null, out, _, hshort, h | .bool _, out, _, hshort, h | .int _, out, _, hshort, h
  | .float _, out, _, hshort, h | .str _, out, _, hshort, h => by
    obtain ⟨hdepth, hscalar | ⟨_, _, ⟨⟩, -⟩ | ⟨_, _, ⟨⟩, -⟩⟩ := sanitize_cases h
    exact ⟨out, hscalar.again hshort hdepth, .same out, fun _ => rfl⟩

theorem sanitizeItems_again (hkey : Pseudonymizes p organisationId) (told : Bool) :
    ∀ (items : List Json) {out : List Json} {depth : ℕ}, shortIntsItems items = true →
      sanitizeItems p digests organisationId depth items = .ok out →
      ∃ again, sanitizeItems p digests organisationId depth out = .ok again ∧
        markingPolicy.AlikeItems told out again ∧ (organisationId = none → again = out)
  | [], out, depth, _, h => by
    rw [sanitizeItems] at h
    obtain rfl := Except.ok.inj h
    exact ⟨[], by rw [sanitizeItems], .nil, fun _ => rfl⟩
  | item :: items, out, depth, hshort, h => by
    obtain ⟨given, rest, hgiven, hrest, rfl⟩ := sanitizeItems_cons_eq_ok.mp h
    rw [shortIntsItems, Bool.and_eq_true] at hshort
    obtain ⟨again, hagain, halike, hsame⟩ := sanitize_again hkey told item hshort.1 hgiven
    obtain ⟨others, hothers, hlike, heq⟩ := sanitizeItems_again hkey told items hshort.2 hrest
    exact ⟨again :: others, sanitizeItems_cons_eq_ok.mpr ⟨again, others, hagain, hothers, rfl⟩,
      .cons halike hlike, fun hnone => by rw [hsame hnone, heq hnone]⟩

theorem sanitizeFields_again (hkey : Pseudonymizes p organisationId) (told : Bool) :
    ∀ (fields : List (String × Json)) {out : List (String × Json)} {depth : ℕ},
      shortIntsFields fields = true →
      sanitizeFields p digests organisationId depth fields = .ok out →
      ∃ again, sanitizeFields p digests organisationId depth out = .ok again ∧
        markingPolicy.AlikeFields told out again ∧ (organisationId = none → again = out)
  | [] => by
    intro _ h
    rw [sanitizeFields] at h
    obtain rfl := Except.ok.inj h
    exact ⟨[], by rw [sanitizeFields], .nil, fun _ => rfl⟩
  | (key, item) :: fields => by
    intro hshort h
    obtain ⟨given, rest, hgiven, hrest, rfl⟩ := sanitizeFields_cons_eq_ok.mp h
    rw [shortIntsFields, Bool.and_eq_true] at hshort
    obtain ⟨hlength, hcase⟩ := sanitizeField_cases hgiven
    obtain ⟨again, hagain, halike, hsame⟩ := hcase.again hkey hlength
      fun hitem hsecret hmarking => sanitize_again hkey told item
        (by simpa [hsecret, hmarking] using hshort.1) hitem
    obtain ⟨others, hothers, hlike, heq⟩ := sanitizeFields_again hkey told fields hshort.2 hrest
    refine ⟨(key, again) :: others,
      sanitizeFields_cons_eq_ok.mpr ⟨again, others, hagain, hothers, rfl⟩, ?_,
      fun hnone => by rw [hsame hnone, heq hnone]⟩
    cases halike with
    | inl hhides => exact .hidden hhides hlike
    | inr halike => exact .shown halike hlike

end

/-! ## The law -/

/-- Metadata that differ only in secrets are sanitized to the same. -/
theorem sanitizeMetadata_congr {metadata others : List (String × Json)}
    (h : secretPolicy.Alike false (.obj metadata) (.obj others)) :
    sanitizeMetadata p digests organisationId metadata =
      sanitizeMetadata p digests organisationId others := by
  rw [sanitizeMetadata, sanitizeMetadata, sanitize_congr 0 h]

end Sanitizer

/-- Secrets have no influence on what is made of a value. Under the keys of marking codes stand
only pseudonyms, or what replaces them. Sanitizing again succeeds where pseudonyms can be made and
no integer has a text that is too long; it changes only what stands under the keys of marking
codes, and nothing without an organisation. -/
theorem audit_sanitizer_law (p : AuditPseudonymizer) (digests : Digests)
    (organisationId : Option String) :
    (∀ (depth : ℕ) (value other : Json), secretPolicy.Alike false value other →
      sanitize p digests organisationId depth value =
        sanitize p digests organisationId depth other) ∧
    (∀ metadata others : List (String × Json),
      secretPolicy.Alike false (.obj metadata) (.obj others) →
      sanitizeMetadata p digests organisationId metadata =
        sanitizeMetadata p digests organisationId others) ∧
    ∀ (depth : ℕ) (value out : Json), sanitize p digests organisationId depth value = .ok out →
      Veiled p digests organisationId out ∧
      (Pseudonymizes p organisationId → shortInts value = true →
        ∃ again, sanitize p digests organisationId depth out = .ok again ∧
          markingPolicy.Alike false out again ∧ (organisationId = none → again = out)) := by
  refine ⟨fun depth value other h => sanitize_congr depth h,
    fun metadata others h => sanitizeMetadata_congr h, fun depth value out h => ?_⟩
  exact ⟨veiled_of_sanitize value h, fun hkey hshort => sanitize_again hkey false value hshort h⟩

/-- A pseudonymizer with a key, or without one. -/
def keyedPseudonymizer (key : Option (List UInt8)) (h : key.all (32 ≤ ·.length) = true) :
    AuditPseudonymizer where
  key := key
  keyId := "k"
  key_size k hk := by simpa [hk] using h

theorem audit_sanitizer_law_sample :
    ∃ again, sanitize (keyedPseudonymizer (some (List.replicate 32 0)) (by decide))
        ⟨fun _ => "", fun _ _ => "00"⟩ (some "1") 0 (.obj [("cis", .str "hmac-sha256:k:00")]) =
      .ok again ∧
      markingPolicy.Alike false (.obj [("cis", .str "hmac-sha256:k:00")]) again ∧
      (some "1" = none → again = .obj [("cis", .str "hmac-sha256:k:00")]) :=
  ((audit_sanitizer_law (keyedPseudonymizer (some (List.replicate 32 0)) (by decide))
    ⟨fun _ => "", fun _ _ => "00"⟩ (some "1")).2.2 0 (.obj [("cis", .str "01040")]) _ rfl).2
    (.inr rfl) rfl

/-- What replaces a number under the key of a marking code is made a pseudonym; without a key it
is refused. -/
theorem sanitize_again_redacted :
    sanitize (keyedPseudonymizer (some (List.replicate 32 0)) (by decide))
        ⟨fun _ => "", fun _ _ => "00"⟩ (some "1") 0 (.obj [("cis", .int 5)]) =
      .ok (.obj [("cis", .str "[REDACTED_MARKING]")]) ∧
    sanitize (keyedPseudonymizer (some (List.replicate 32 0)) (by decide))
        ⟨fun _ => "", fun _ _ => "00"⟩ (some "1") 0
        (.obj [("cis", .str "[REDACTED_MARKING]")]) =
      .ok (.obj [("cis", .str "hmac-sha256:k:00")]) ∧
    sanitize (keyedPseudonymizer none rfl) ⟨fun _ => "", fun _ _ => "00"⟩ (some "1") 0
        (.obj [("cis", .int 5)]) = .ok (.obj [("cis", .str "[REDACTED_MARKING]")]) ∧
    sanitize (keyedPseudonymizer none rfl) ⟨fun _ => "", fun _ _ => "00"⟩ (some "1") 0
        (.obj [("cis", .str "[REDACTED_MARKING]")]) =
      .error (auditError "audit pseudonym key is required for sensitive pseudonymization") := by
  exact ⟨rfl, rfl, rfl, rfl⟩

end Wbcz.Audit
