import Mathlib.Data.Rat.Defs
import Wbcz.Errors
import Wbcz.Lib.Fallible
import Wbcz.Lib.Text

/-!
# What an agent observes of a printer

`PrinterObservation` of `wbcz/printer_profiles.py`: what the agent reports of one printer, and the
checks that make it valid. The hash of the capabilities and the reading of a time are parameters:
of the hash only that it is a function matters here.
-/

namespace Wbcz.PrinterProfiles

open Fallible (ensure bind_eq_ok ensure_eq_ok)

inductive AvailabilityState where
  | available
  | unavailable
  | error
  deriving DecidableEq, Repr

inductive Orientation where
  | portrait
  | landscape
  deriving DecidableEq, Repr

/-- The fields of which `capability_hash` is taken, but for the availability. -/
structure Capabilities where
  driverNameSanitized : Option String
  dpiX : ℤ
  dpiY : ℤ
  mediaWidthMm : ℚ
  mediaHeightMm : ℚ
  orientation : Orientation
  physicalWidthPx : ℤ
  physicalHeightPx : ℤ
  printableWidthPx : ℤ
  printableHeightPx : ℤ
  offsetXPx : ℤ
  offsetYPx : ℤ
  deriving DecidableEq

/-- What an approval takes over from an observation. -/
structure Evidence where
  localPrinterFingerprint : String
  displayNameSanitized : String
  capabilities : Capabilities
  capabilityHash : String
  deriving DecidableEq

/-- `PrinterObservation`. -/
structure PrinterObservation where
  agentPrinterId : String
  evidence : Evidence
  observedAt : ℤ
  availabilityState : AvailabilityState
  safeErrorCode : Option String
  deriving DecidableEq

/-- A text that `_ID` matches. -/
def isOpaqueId (text : String) : Bool :=
  0 < text.length && text.length ≤ 160 &&
    text.toList.all fun c => Text.isAsciiDigit c || c.isAlpha || c = '.' || c = '_' || c = ':' || c = '-'

/-- A text that `_SHA` matches. -/
def isSha (text : String) : Bool :=
  text.length = 64 && text.toList.all fun c => Text.isAsciiDigit c || ('a' ≤ c && c ≤ 'f')

def contractError (message : String) : PyError := ⟨.other "PrinterProfileContractError", message⟩

namespace PrinterObservation

variable (capabilityHash : Capabilities → AvailabilityState → String)

/-- The checks of an available printer. -/
def validateAvailable (state : AvailabilityState) (c : Capabilities) : Except PyError Unit :=
  if state ≠ .available then .ok ()
  else do
    ensure (0 < c.dpiX ∧ 0 < c.dpiY) (contractError "available printer must report positive DPI")
    ensure (0 < c.mediaWidthMm ∧ 0 < c.mediaHeightMm)
      (contractError "available printer must report media dimensions")
    ensure (0 < c.printableWidthPx ∧ 0 < c.printableHeightPx)
      (contractError "available printer must report printable area")
    ensure (c.offsetXPx + c.printableWidthPx ≤ c.physicalWidthPx)
      (contractError "printable width exceeds physical media")
    ensure (c.offsetYPx + c.printableHeightPx ≤ c.physicalHeightPx)
      (contractError "printable height exceeds physical media")

/-- `validate`. The names of the states and orientations and the form of the time are right by
their types. -/
def validate (o : PrinterObservation) : Except PyError Unit := do
  let c := o.evidence.capabilities
  ensure (isOpaqueId o.agentPrinterId) (contractError "invalid opaque agent_printer_id")
  ensure (isSha o.evidence.localPrinterFingerprint)
    (contractError "invalid local printer fingerprint")
  ensure (0 ≤ c.dpiX) (contractError "dpi_x is invalid")
  ensure (0 ≤ c.dpiY) (contractError "dpi_y is invalid")
  ensure (0 ≤ c.physicalWidthPx) (contractError "physical_width_px is invalid")
  ensure (0 ≤ c.physicalHeightPx) (contractError "physical_height_px is invalid")
  ensure (0 ≤ c.printableWidthPx) (contractError "printable_width_px is invalid")
  ensure (0 ≤ c.printableHeightPx) (contractError "printable_height_px is invalid")
  ensure (0 ≤ c.offsetXPx ∧ 0 ≤ c.offsetYPx)
    (contractError "printer physical offsets must be non-negative")
  validateAvailable o.availabilityState c
  ensure (capabilityHash c o.availabilityState = o.evidence.capabilityHash)
    (contractError "capability hash mismatch")

/-- `from_mapping`, of the mapping that `safe_dict` makes: its names are sanitized and its texts cut
to their lengths. -/
def fromMapping (o : PrinterObservation) : Except PyError PrinterObservation := do
  ensure (0 ≤ o.evidence.capabilities.mediaWidthMm) (contractError "media_width_mm is invalid")
  ensure (0 ≤ o.evidence.capabilities.mediaHeightMm) (contractError "media_height_mm is invalid")
  o.validate capabilityHash
  return o

/-- `_basic_observation_compatible`. -/
def basicCompatible (o : PrinterObservation) : Bool :=
  let c := o.evidence.capabilities
  o.availabilityState = .available && c.dpiX = c.dpiY && 150 ≤ c.dpiX && c.dpiX ≤ 1200 &&
    0 < c.printableWidthPx && 0 < c.printableHeightPx &&
    c.offsetXPx + c.printableWidthPx ≤ c.physicalWidthPx &&
    c.offsetYPx + c.printableHeightPx ≤ c.physicalHeightPx

variable {capabilityHash}

theorem hash_of_validate {o : PrinterObservation} (h : o.validate capabilityHash = .ok ()) :
    capabilityHash o.evidence.capabilities o.availabilityState = o.evidence.capabilityHash := by
  obtain ⟨_, -, h⟩ := bind_eq_ok.mp h
  obtain ⟨_, -, h⟩ := bind_eq_ok.mp h
  obtain ⟨_, -, h⟩ := bind_eq_ok.mp h
  obtain ⟨_, -, h⟩ := bind_eq_ok.mp h
  obtain ⟨_, -, h⟩ := bind_eq_ok.mp h
  obtain ⟨_, -, h⟩ := bind_eq_ok.mp h
  obtain ⟨_, -, h⟩ := bind_eq_ok.mp h
  obtain ⟨_, -, h⟩ := bind_eq_ok.mp h
  obtain ⟨_, -, h⟩ := bind_eq_ok.mp h
  obtain ⟨_, -, h⟩ := bind_eq_ok.mp h
  exact ensure_eq_ok.mp h

theorem fromMapping_eq_ok {o o' : PrinterObservation} (h : o.fromMapping capabilityHash = .ok o') :
    o' = o ∧ o.validate capabilityHash = .ok () := by
  obtain ⟨_, -, h⟩ := bind_eq_ok.mp h
  obtain ⟨_, -, h⟩ := bind_eq_ok.mp h
  obtain ⟨_, hvalid, h⟩ := bind_eq_ok.mp h
  cases h
  exact ⟨rfl, hvalid⟩

end PrinterObservation

end Wbcz.PrinterProfiles
