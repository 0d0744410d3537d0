import Mathlib.Logic.Function.Basic
import Wbcz.Errors
import Wbcz.Lib.Fallible

/-!
# The versioned secret provider

`EncryptedVersionedFilesystemSecretProvider` keeps one file for each version of a secret, and for
each reference a pointer to its active version. A secret is staged under a new reference and a new
version; `activate` points the reference to it, `revoke` and `destroy_staged` remove files. Every
operation takes place as a whole or raises.

The files of a reference stand in a directory that is named by its digest. The seal of a file is
not modelled: what is written under a reference and a version is what is read under them.
-/

namespace Wbcz.Integrations

open Fallible (bind_eq_ok found found_eq_ok)

/-- What a version file holds, once opened. -/
structure VersionRecord where
  scope : String
  purpose : String
  value : String
  deriving DecidableEq, Repr

/-- `SecretValue`. -/
structure SecretValue where
  value : String
  version : String
  deriving DecidableEq, Repr

/-- `StagedSecret`, and `SecretVersion`. -/
structure SecretVersion where
  ref : String
  version : String
  deriving DecidableEq, Repr

/-- The directory of the provider: `<version>.json` and `active.json` of every reference. -/
structure SecretProvider where
  records : String × String → Option VersionRecord
  pointers : String → Option String

def secretProviderError (message : String) : PyError := ⟨.other "SecretProviderError", message⟩

namespace SecretProvider

open Function (update)

/-- A provider without a file. -/
def empty : SecretProvider := ⟨fun _ => none, fun _ => none⟩

/-- `stage`, with the reference and the version that the random tokens gave. -/
def stage (p : SecretProvider) (staged : SecretVersion) (scope purpose value : String) :
    SecretProvider :=
  { p with records := update p.records (staged.ref, staged.version) (some ⟨scope, purpose, value⟩) }

/-- `get_version`. -/
def getVersion (p : SecretProvider) (ref version : String) : Except PyError SecretValue := do
  let record ← found (p.records (ref, version)) (secretProviderError "SECRET_MISSING")
  return ⟨record.value, version⟩

/-- `active_version`. -/
def activeVersion (p : SecretProvider) (ref : String) : Except PyError String :=
  found (p.pointers ref) (secretProviderError "SECRET_MISSING")

/-- `get`. -/
def get (p : SecretProvider) (ref : String) : Except PyError SecretValue := do
  p.getVersion ref (← p.activeVersion ref)

/-- `activate`. -/
def activate (p : SecretProvider) (staged : SecretVersion) :
    Except PyError (SecretProvider × SecretVersion) := do
  -- the staged file is opened before it is published
  let _ ← p.getVersion staged.ref staged.version
  return ({ p with pointers := update p.pointers staged.ref (some staged.version) }, staged)

/-- `revoke`. -/
def revoke (p : SecretProvider) (ref version : String) : SecretProvider where
  records := update p.records (ref, version) none
  pointers := if p.pointers ref = some version then update p.pointers ref none else p.pointers

/-- `destroy_staged`. -/
def destroyStaged (p : SecretProvider) (staged : SecretVersion) : SecretProvider :=
  if p.pointers staged.ref = some staged.version then p
  else { p with records := update p.records (staged.ref, staged.version) none }

/-! ## What is usable -/

variable {p p' : SecretProvider} {ref version scope purpose value : String}
  {staged active : SecretVersion} {result : SecretValue}

theorem get_eq_ok : p.get ref = .ok result ↔
    ∃ record, p.pointers ref = some result.version ∧
      p.records (ref, result.version) = some record ∧ record.value = result.value := by
  constructor
  · intro h
    obtain ⟨version, hversion, h⟩ := bind_eq_ok.mp h
    obtain ⟨record, hrecord, h⟩ := bind_eq_ok.mp h
    cases h
    exact ⟨record, found_eq_ok.mp hversion, found_eq_ok.mp hrecord, rfl⟩
  · rintro ⟨record, hpointer, hrecord, hvalue⟩
    apply bind_eq_ok.mpr
    refine ⟨result.version, found_eq_ok.mpr hpointer, ?_⟩
    apply bind_eq_ok.mpr
    refine ⟨record, found_eq_ok.mpr hrecord, ?_⟩
    rw [hvalue]
    rfl

/-- Staging under another reference leaves a secret as it was. -/
theorem get_stage_of_ne (hne : ref ≠ staged.ref) :
    (p.stage staged scope purpose value).get ref = p.get ref := by
  have hrecords (v : String) : (p.stage staged scope purpose value).records (ref, v) =
      p.records (ref, v) :=
    Function.update_of_ne (fun h => hne (congrArg Prod.fst h)) _ _
  simp only [get, getVersion, hrecords]
  rfl

theorem activate_eq_ok (h : p.activate staged = .ok (p', active)) :
    active = staged ∧ p'.records = p.records ∧
      p'.pointers = update p.pointers staged.ref (some staged.version) ∧
      ∃ record, p.records (staged.ref, staged.version) = some record := by
  obtain ⟨_, hopened, h⟩ := bind_eq_ok.mp h
  obtain ⟨record, hrecord, -⟩ := bind_eq_ok.mp hopened
  cases h
  exact ⟨rfl, rfl, rfl, record, found_eq_ok.mp hrecord⟩

/-- A version that is activated is the one the reference gives. -/
theorem get_activate (h : p.activate staged = .ok (p', active)) :
    ∃ result, p'.get active.ref = .ok result ∧ result.version = active.version := by
  obtain ⟨rfl, hrecords, hpointers, record, hrecord⟩ := activate_eq_ok h
  refine ⟨⟨record.value, active.version⟩, get_eq_ok.mpr ⟨record, ?_, ?_, rfl⟩, rfl⟩
  · rw [hpointers]
    exact Function.update_self _ _ _
  · rw [hrecords]
    exact hrecord

/-- Activating another reference, or the version that is active, leaves a secret as it was. -/
theorem get_activate_of_ne (h : p.activate staged = .ok (p', active)) (hget : p.get ref = .ok result)
    (hsame : ref = staged.ref → result.version = staged.version) : p'.get ref = .ok result := by
  obtain ⟨rfl, hrecords, hpointers, -⟩ := activate_eq_ok h
  obtain ⟨record, hpointer, hrecord, hvalue⟩ := get_eq_ok.mp hget
  refine get_eq_ok.mpr ⟨record, ?_, ?_, hvalue⟩
  · by_cases href : ref = active.ref
    · rw [hpointers, href, Function.update_self, hsame href]
    · rw [hpointers, Function.update_of_ne href, hpointer]
  · rw [hrecords]
    exact hrecord

/-- What is staged and was not activated is removed; what is active is not. -/
theorem get_destroyStaged (hget : p.get ref = .ok result) :
    (p.destroyStaged staged).get ref = .ok result := by
  by_cases hactive : p.pointers staged.ref = some staged.version
  · rw [destroyStaged, if_pos hactive]
    exact hget
  · obtain ⟨record, hpointer, hrecord, hvalue⟩ := get_eq_ok.mp hget
    rw [destroyStaged, if_neg hactive]
    refine get_eq_ok.mpr ⟨record, hpointer, ?_, hvalue⟩
    have hne : (ref, result.version) ≠ (staged.ref, staged.version) := by
      intro h
      obtain ⟨href, hversion⟩ := Prod.mk.inj h
      rw [href, hversion] at hpointer
      exact hactive hpointer
    exact (Function.update_of_ne hne _ _).trans hrecord

theorem records_destroyStaged {key : String × String} (h : p.records key = none) :
    (p.destroyStaged staged).records key = none := by
  by_cases hactive : p.pointers staged.ref = some staged.version
  · rwa [destroyStaged, if_pos hactive]
  · rw [destroyStaged, if_neg hactive]
    by_cases hkey : key = (staged.ref, staged.version)
    · rw [hkey]
      exact Function.update_self _ _ _
    · exact (Function.update_of_ne hkey _ _).trans h

theorem pointers_destroyStaged : (p.destroyStaged staged).pointers = p.pointers := by
  unfold destroyStaged
  split
  · rfl
  · rfl

theorem pointers_revoke : (p.revoke ref version).pointers =
    if p.pointers ref = some version then update p.pointers ref none else p.pointers := rfl

/-- Revoking makes no version active. -/
theorem pointers_of_revoke {other current : String}
    (h : (p.revoke ref version).pointers other = some current) :
    p.pointers other = some current := by
  rw [pointers_revoke] at h
  by_cases hpointer : p.pointers ref = some version
  · rw [if_pos hpointer] at h
    by_cases hother : other = ref
    · rw [hother, Function.update_self] at h
      cases h
    · rwa [Function.update_of_ne hother] at h
  · rwa [if_neg hpointer] at h

end SecretProvider

end Wbcz.Integrations
