import Wbcz.Lib.Contract
import Wbcz.WindowsAgent.Job

/-!
# Checks of read payloads

What the contracts of the read jobs have in common: objects with known keys, and arrays whose items
are checked one by one. The class of the errors is that of the contract.

The text of a list of keys in an error is that of Python, but for the characters beyond Latin-1
that Python does not print.
-/

namespace Wbcz

open Fallible (bind_eq_ok ensure)
open Json (Check)

/-- How a contract raises. -/
abbrev ContractError := String → PyError

/-! ## Keys -/

/-- The single quotation mark. -/
def apostrophe : Char := Char.ofNat 39

/-- A character in the `repr` of a text. -/
def reprChar (mark c : Char) : List Char :=
  let n := c.toNat
  if c = mark ∨ c = '\\' then ['\\', c]
  else if c = '\n' then ['\\', 'n']
  else if c = '\r' then ['\\', 'r']
  else if c = '\t' then ['\\', 't']
  else if n < 32 ∨ 127 ≤ n ∧ n ≤ 160 ∨ n = 173 then
    ['\\', 'x', Json.hexDigit (n / 16), Json.hexDigit (n % 16)]
  else [c]

/-- `repr` of a text. -/
def reprText (text : String) : String :=
  let mark := if apostrophe ∈ text.toList ∧ '"' ∉ text.toList then '"' else apostrophe
  String.ofList (mark :: text.toList.flatMap (reprChar mark) ++ [mark])

/-- `repr` of a list of texts. -/
def reprTexts (texts : List String) : String := "[" ++ ", ".intercalate (texts.map reprText) ++ "]"

/-- `_expect_object`. -/
def expectObject (error : ContractError) (value : Json) (label : String) :
    Except PyError (List (String × Json)) :=
  match value with
  | .obj fields => .ok fields
  | _ => .error (error (label ++ " must be an object"))

/-- `sorted(set(root) - allowed)`. -/
def unknownKeys (root : List (String × Json)) (allowed : List String) : List String :=
  ((root.map Prod.fst).filter fun key => decide (key ∉ allowed)).mergeSort fun a b =>
    Json.keyLe a.toList b.toList

/-- Raise where an object has a key that is not allowed. -/
def ensureKnown (error : ContractError) (root : List (String × Json)) (allowed : List String)
    (text : String) : Except PyError Unit :=
  ensure (unknownKeys root allowed = []) (error (text ++ ": " ++ reprTexts (unknownKeys root allowed)))

/-- `set(root) == keys`. -/
def hasExactly (root : List (String × Json)) (keys : List String) : Bool :=
  (root.all fun field => decide (field.1 ∈ keys)) &&
    keys.all fun key => (Json.lookup root key).isSome

/-- `key in root`. -/
def hasKey (root : List (String × Json)) (key : String) : Bool := (Json.lookup root key).isSome

/-- `==` of two values: they have one canonical text. Numbers of different kinds are told apart. -/
def sameJson (v w : Json) : Bool := decide (v.canonical = w.canonical)

/-- The value is `["lp"]`. -/
def isLpOnly : Json → Bool
  | .arr [.str text] => text = "lp"
  | _ => false

/-- The items of an array. -/
def itemsOf : Json → List Json
  | .arr items => items
  | _ => []

/-! ## Items -/

/-- The check of every item, under its index. -/
def checkItems (check : String → Check PyError) (label : String) (items : List Json) :
    Except PyError (List Json) :=
  items.zipIdx.mapM fun item => check (label ++ "[" ++ toString item.2 ++ "]") item.1

/-- The check of every field. -/
def checkFields (check : String → Check PyError) (root : List (String × Json)) :
    Except PyError (List (String × Json)) :=
  root.mapM fun field => do
    let value ← check field.1 field.2
    pure (field.1, value)

/-- `type(value) is bool`. -/
def isBool : Json → Bool
  | .bool _ => true
  | _ => false

/-- An integer within bounds; `type(value) is int` leaves out the truth values. -/
def isInt (within : ℤ → Bool) : Json → Bool
  | .int i => within i
  | _ => false

/-- A check that gives the value itself. -/
def checkThat (accepts : Json → Bool) (e : PyError) : Check PyError := fun value =>
  if accepts value then .ok value else .error e

theorem checkThat_eq_ok {accepts : Json → Bool} {e : PyError} {v w : Json} :
    checkThat accepts e v = .ok w ↔ accepts v = true ∧ w = v := by
  unfold checkThat
  by_cases h : accepts v = true
  · simp [h, eq_comm]
  · simp [h]

theorem checkThat_tests (accepts : Json → Bool) (e : PyError) :
    (checkThat accepts e).Tests fun v => accepts v = true := by
  intro v w
  rw [checkThat_eq_ok, and_comm]

theorem checkThat_stable {accepts : Json → Bool} {e : PyError} (h : accepts .null = false) :
    (checkThat accepts e).Stable := by
  intro v w hw
  obtain ⟨haccepts, rfl⟩ := checkThat_eq_ok.mp hw
  refine ⟨checkThat_eq_ok.mpr ⟨haccepts, rfl⟩, ?_⟩
  rintro rfl
  rw [h] at haccepts
  cases haccepts

theorem checkItems_stable {check : String → Check PyError} (hstable : ∀ label, (check label).Stable)
    {label : String} {items out : List Json} (h : checkItems check label items = .ok out) :
    checkItems check label out = .ok out := by
  unfold checkItems at h ⊢
  generalize 0 = start at h ⊢
  induction items generalizing out start with
  | nil =>
    cases h
    rfl
  | cons item items ih =>
    rw [List.zipIdx_cons, List.mapM_cons] at h
    obtain ⟨first, hfirst, h⟩ := bind_eq_ok.mp h
    obtain ⟨rest, hrest, h⟩ := bind_eq_ok.mp h
    obtain rfl := Except.ok.inj h
    rw [List.zipIdx_cons, List.mapM_cons]
    refine bind_eq_ok.mpr ⟨first, (hstable _ _ _ hfirst).1, ?_⟩
    exact bind_eq_ok.mpr ⟨rest, ih _ hrest, rfl⟩

/-- Items that are given as they are. -/
theorem checkItems_eq_ok {check : String → Check PyError} {accepts : Json → Prop}
    (htests : ∀ label, (check label).Tests accepts) {label : String} {items out : List Json} :
    checkItems check label items = .ok out ↔ out = items ∧ ∀ item ∈ items, accepts item := by
  unfold checkItems
  generalize 0 = start
  induction items generalizing out start with
  | nil => simp [List.zipIdx_nil, List.mapM_nil, pure, Except.pure, eq_comm]
  | cons item items ih =>
    rw [List.zipIdx_cons, List.mapM_cons, List.forall_mem_cons]
    constructor
    · intro h
      obtain ⟨first, hfirst, h⟩ := bind_eq_ok.mp h
      obtain ⟨rest, hrest, h⟩ := bind_eq_ok.mp h
      obtain rfl := Except.ok.inj h
      obtain ⟨rfl, hitem⟩ := (htests _ _ _).mp hfirst
      obtain ⟨rfl, hitems⟩ := (ih _).mp hrest
      exact ⟨rfl, hitem, hitems⟩
    · rintro ⟨rfl, hitem, hitems⟩
      refine bind_eq_ok.mpr ⟨item, (htests _ _ _).mpr ⟨rfl, hitem⟩, ?_⟩
      exact bind_eq_ok.mpr ⟨items, (ih _).mpr ⟨rfl, hitems⟩, rfl⟩

theorem checkItems_length {check : String → Check PyError} {label : String} {items out : List Json}
    (h : checkItems check label items = .ok out) : out.length = items.length := by
  rw [Fallible.mapM_length h, List.length_zipIdx]

/-! ## Texts and numbers -/

/-- A text that is not empty. -/
def isText : Json → Bool
  | .str text => text ≠ ""
  | _ => false

/-- One of some texts. -/
def isOneOf (texts : List String) : Json → Bool
  | .str text => text ∈ texts
  | _ => false

/-- A text of ten or twelve digits. -/
def isInn : Json → Bool
  | .str text => Text.isdigit text && (text.length = 10 || text.length = 12)
  | _ => false

/-- `_expect_string`, of the contracts that ask for a text that is not empty. -/
def expectText (error : ContractError) (label : String) : Check PyError :=
  checkThat isText (error (label ++ " must be a non-empty string"))

/-- `_expect_string(value, label).upper()`, which is to be one of some ASCII texts. -/
def expectUpper (error : ContractError) (label : String) (allowed : List String) (message : String) :
    Check PyError := fun value => do
  let text ← expectText error label value
  let upper := text.str?.bind Text.upperAscii?
  if upper.all (· ∉ allowed) then .error (error message) else .ok (.str (upper.getD ""))

/-- The check of every item of an array that was checked before. -/
def eachItem (check : String → Check PyError) (label : String) : Check PyError := fun value =>
  match value with
  | .arr items => do
    let items ← checkItems check label items
    pure (.arr items)
  | _ => .ok value

theorem isText_eq_true {v : Json} : isText v = true ↔ ∃ text, v = .str text ∧ text ≠ "" := by
  cases v with
  | str text => simp [isText]
  | _ => simp [isText]

theorem isOneOf_eq_true {texts : List String} {v : Json} :
    isOneOf texts v = true ↔ ∃ text ∈ texts, v = .str text := by
  cases v with
  | str text => simp [isOneOf]
  | _ => simp [isOneOf]

theorem isInt_eq_true {within : ℤ → Bool} {v : Json} :
    isInt within v = true ↔ ∃ i, v = .int i ∧ within i = true := by
  cases v with
  | int i => simp [isInt]
  | _ => simp [isInt]

theorem expectText_tests (error : ContractError) (label : String) :
    (expectText error label).Tests fun v => isText v = true :=
  checkThat_tests _ _

theorem eachItem_tests {check : String → Check PyError} {accepts : Json → Prop}
    (htests : ∀ label, (check label).Tests accepts) (label : String) :
    (eachItem check label).Tests fun v => ∀ items, v = .arr items → ∀ item ∈ items, accepts item := by
  intro v w
  unfold eachItem
  split
  · rename_i items
    constructor
    · intro h
      obtain ⟨out, hout, hlast⟩ := bind_eq_ok.mp h
      obtain rfl := Except.ok.inj hlast
      obtain ⟨rfl, hitems⟩ := (checkItems_eq_ok htests).mp hout
      refine ⟨rfl, ?_⟩
      rintro _ ⟨⟩
      exact hitems
    · rintro ⟨rfl, hitems⟩
      exact bind_eq_ok.mpr ⟨items, (checkItems_eq_ok htests).mpr ⟨rfl, hitems items rfl⟩, rfl⟩
  · rename_i hnot
    constructor
    · intro h
      obtain rfl := Except.ok.inj h
      exact ⟨rfl, fun items heq => absurd heq (hnot items)⟩
    · rintro ⟨rfl, -⟩
      rfl

/-- A text in upper case is one of those allowed; of such a one the same is made. -/
theorem expectUpper_stable {error : ContractError} {label : String} {allowed : List String}
    {message : String}
    (hallowed : ∀ text ∈ allowed, text ≠ "" ∧ Text.upperAscii? text = some text) :
    (expectUpper error label allowed message).Stable := by
  intro v w h
  obtain ⟨text, -, h⟩ := bind_eq_ok.mp h
  dsimp only at h
  split at h
  · cases h
  · rename_i hsome
    cases hupper : text.str?.bind Text.upperAscii? with
    | none =>
      rw [hupper] at hsome
      exact absurd rfl hsome
    | some upper =>
      rw [hupper] at hsome h
      have hmem : upper ∈ allowed := by simpa using hsome
      obtain ⟨hempty, hsame⟩ := hallowed upper hmem
      obtain rfl := Except.ok.inj h
      refine ⟨bind_eq_ok.mpr ⟨.str upper, ?_, ?_⟩, by simp⟩
      · exact checkThat_eq_ok.mpr ⟨isText_eq_true.mpr ⟨upper, rfl, hempty⟩, rfl⟩
      · simp [Json.str?, hsame, hmem]

section Fields

variable {check : String → Check PyError} {root out : List (String × Json)}

theorem checkFields_cons {field : String × Json} (h : checkFields check (field :: root) = .ok out) :
    ∃ value rest, check field.1 field.2 = .ok value ∧ checkFields check root = .ok rest ∧
      out = (field.1, value) :: rest := by
  unfold checkFields at h
  rw [List.mapM_cons] at h
  obtain ⟨first, hfirst, h⟩ := bind_eq_ok.mp h
  obtain ⟨value, hvalue, hpair⟩ := bind_eq_ok.mp hfirst
  obtain rfl := Except.ok.inj hpair
  obtain ⟨rest, hrest, h⟩ := bind_eq_ok.mp h
  exact ⟨value, rest, hvalue, hrest, (Except.ok.inj h).symm⟩

theorem checkFields_stable (hstable : ∀ key, (check key).Stable)
    (h : checkFields check root = .ok out) : checkFields check out = .ok out := by
  induction root generalizing out with
  | nil =>
    cases h
    rfl
  | cons field root ih =>
    obtain ⟨value, rest, hvalue, hrest, rfl⟩ := checkFields_cons h
    unfold checkFields
    rw [List.mapM_cons]
    refine bind_eq_ok.mpr ⟨(field.1, value), ?_, bind_eq_ok.mpr ⟨rest, ih hrest, rfl⟩⟩
    exact bind_eq_ok.mpr ⟨value, (hstable _ _ _ hvalue).1, rfl⟩

/-- The keys stay, and under each stands what the check has made of its value. -/
theorem checkFields_keys (h : checkFields check root = .ok out) :
    out.map Prod.fst = root.map Prod.fst := by
  induction root generalizing out with
  | nil =>
    cases h
    rfl
  | cons field root ih =>
    obtain ⟨value, rest, -, hrest, rfl⟩ := checkFields_cons h
    rw [List.map_cons, List.map_cons, ih hrest]

theorem lookup_checkFields (h : checkFields check root = .ok out) {key : String} {v : Json}
    (hv : Json.lookup root key = some v) :
    ∃ w, check key v = .ok w ∧ Json.lookup out key = some w := by
  induction root generalizing out with
  | nil => cases hv
  | cons field root ih =>
    obtain ⟨value, rest, hvalue, hrest, rfl⟩ := checkFields_cons h
    rw [Json.lookup_cons] at hv
    by_cases hkey : field.1 = key
    · rw [if_pos hkey] at hv
      cases hv
      rw [← hkey, Json.lookup_cons, if_pos rfl]
      exact ⟨value, hvalue, rfl⟩
    · rw [if_neg hkey] at hv
      rw [Json.lookup_cons, if_neg hkey]
      exact ih hrest hv

/-- Whether keys are known depends on the keys. -/
theorem unknownKeys_eq_nil {allowed : List String} :
    unknownKeys root allowed = [] ↔ ∀ field ∈ root, field.1 ∈ allowed := by
  have hperm := List.mergeSort_perm
    ((root.map Prod.fst).filter fun key => decide (key ∉ allowed))
    fun a b => Json.keyLe a.toList b.toList
  rw [unknownKeys, ← List.length_eq_zero_iff, hperm.length_eq, List.length_eq_zero_iff,
    List.filter_eq_nil_iff]
  simp

theorem ensureKnown_eq_ok {error : ContractError} {allowed : List String} {text : String} :
    ensureKnown error root allowed text = .ok () ↔ ∀ field ∈ root, field.1 ∈ allowed := by
  rw [ensureKnown, Fallible.ensure_eq_ok, unknownKeys_eq_nil]

theorem ensureKnown_of_keys {error : ContractError} {allowed : List String} {text : String}
    (hkeys : out.map Prod.fst = root.map Prod.fst)
    (h : ensureKnown error root allowed text = .ok ()) :
    ensureKnown error out allowed text = .ok () := by
  rw [ensureKnown_eq_ok] at h ⊢
  intro field hfield
  have hmem := List.mem_map_of_mem (f := Prod.fst) hfield
  rw [hkeys] at hmem
  obtain ⟨other, hother, heq⟩ := List.mem_map.mp hmem
  rw [← heq]
  exact h other hother

end Fields

/-! ## Contracts of objects -/

/-- A contract of an object: what is asked of the object, the rules of its fields, and what is asked
of their values together. -/
structure ObjectContract where
  error : ContractError
  label : String
  before : List (String × Json) → Except PyError Unit := fun _ => .ok ()
  rules : List (Json.FieldRule PyError)
  after : List (String × Json) → Except PyError Unit := fun _ => .ok ()

/-- The object that a contract makes of a value. -/
def ObjectContract.check (contract : ObjectContract) : Check PyError := fun value => do
  let root ← expectObject contract.error value contract.label
  contract.before root
  let out ← Json.normalize contract.rules root
  contract.after out
  pure (.obj out)

theorem expectObject_eq_ok {error : ContractError} {value : Json} {label : String}
    {root : List (String × Json)} : expectObject error value label = .ok root ↔ value = .obj root := by
  unfold expectObject
  split
  · simp [eq_comm]
  · rename_i hnot
    constructor
    · intro h
      cases h
    · rintro rfl
      exact absurd rfl (hnot root)

section Contracts

variable {contract : ObjectContract} {value result : Json}

theorem ObjectContract.check_eq_ok : contract.check value = .ok result ↔ ∃ root out,
    value = .obj root ∧ contract.before root = .ok () ∧
      Json.normalize contract.rules root = .ok out ∧ contract.after out = .ok () ∧
      result = .obj out := by
  unfold ObjectContract.check
  constructor
  · intro h
    obtain ⟨root, hroot, h⟩ := bind_eq_ok.mp h
    obtain ⟨⟨⟩, hbefore, h⟩ := bind_eq_ok.mp h
    obtain ⟨out, hout, h⟩ := bind_eq_ok.mp h
    obtain ⟨⟨⟩, hafter, h⟩ := bind_eq_ok.mp h
    exact ⟨root, out, expectObject_eq_ok.mp hroot, hbefore, hout, hafter, (Except.ok.inj h).symm⟩
  · rintro ⟨root, out, rfl, hbefore, hout, hafter, rfl⟩
    exact bind_eq_ok.mpr ⟨root, rfl, bind_eq_ok.mpr ⟨(), hbefore,
      bind_eq_ok.mpr ⟨out, hout, bind_eq_ok.mpr ⟨(), hafter, rfl⟩⟩⟩⟩

/-- A contract gives its own object again, where its rules are stable and the object that it makes
is as is asked of the given one. -/
theorem ObjectContract.check_stable (hkeys : (contract.rules.map Json.FieldRule.key).Nodup)
    (hstable : ∀ rule ∈ contract.rules, rule.StableIn (contract.rules.map Json.FieldRule.key))
    (hbefore : ∀ root out, contract.before root = .ok () →
      Json.normalize contract.rules root = .ok out → contract.before out = .ok ()) :
    contract.check.Stable := by
  intro value result h
  obtain ⟨root, out, rfl, hroot, hout, hafter, rfl⟩ := check_eq_ok.mp h
  refine ⟨check_eq_ok.mpr ⟨out, out, rfl, hbefore root out hroot hout, ?_, hafter, rfl⟩, by simp⟩
  exact Json.normalize_stable hkeys hstable hout

/-- A required field that is given as it is. -/
theorem ObjectContract.required_get (hkeys : (contract.rules.map Json.FieldRule.key).Nodup)
    (h : contract.check value = .ok result) {key : String} {check : Check PyError}
    {accepts : Json → Prop} (hrule : Json.FieldRule.required key check ∈ contract.rules)
    (htests : check.Tests accepts) :
    result.get key = value.get key ∧ accepts (value.get key) := by
  obtain ⟨root, out, rfl, -, hout, -, rfl⟩ := check_eq_ok.mp h
  obtain ⟨read, hread, hvalue⟩ := (Json.normalize_lookup hkeys hout).1 _ hrule
  obtain ⟨v, rfl, hgiven, haccepts⟩ := Json.FieldRule.required_get htests hread
  change (Json.lookup out key).getD .null = (Json.lookup root key).getD .null ∧
    accepts ((Json.lookup root key).getD .null)
  rw [show Json.lookup out key = some v from hvalue, hgiven]
  exact ⟨rfl, haccepts⟩

/-- A field with a default that is given as it is. -/
theorem ObjectContract.defaulted_get (hkeys : (contract.rules.map Json.FieldRule.key).Nodup)
    (h : contract.check value = .ok result) {key : String} {default : Json} {check : Check PyError}
    {accepts : Json → Prop} (hrule : Json.FieldRule.defaulted key default check ∈ contract.rules)
    (htests : check.Tests accepts) :
    result.get key = (value.get? key).getD default ∧ accepts (result.get key) := by
  obtain ⟨root, out, rfl, -, hout, -, rfl⟩ := check_eq_ok.mp h
  obtain ⟨read, hread, hvalue⟩ := (Json.normalize_lookup hkeys hout).1 _ hrule
  obtain ⟨v, rfl, hgiven, haccepts⟩ := Json.FieldRule.defaulted_get htests hread
  change (Json.lookup out key).getD .null = (Json.lookup root key).getD default ∧
    accepts ((Json.lookup out key).getD .null)
  rw [show Json.lookup out key = some v from hvalue, hgiven]
  exact ⟨rfl, haccepts⟩

variable {rules : List (Json.FieldRule PyError)} {root out : List (String × Json)}
  {error : ContractError} {allowed : List String} {text : String}

/-- What is made has only known keys. -/
theorem ensureKnown_normalize (hkeys : (rules.map Json.FieldRule.key).Nodup)
    (hallowed : ∀ key ∈ rules.map Json.FieldRule.key, key ∈ allowed)
    (h : Json.normalize rules root = .ok out) : ensureKnown error out allowed text = .ok () :=
  ensureKnown_eq_ok.mpr fun field hfield => hallowed _ (Json.normalize_keys hkeys h field hfield)

/-- A field that is never left out is there. -/
theorem hasKey_normalize (hkeys : (rules.map Json.FieldRule.key).Nodup)
    (h : Json.normalize rules root = .ok out) {rule : Json.FieldRule PyError} (hrule : rule ∈ rules)
    (halways : rule.Always) : hasKey out rule.key = true := by
  obtain ⟨value, hread, hvalue⟩ := (Json.normalize_lookup hkeys h).1 rule hrule
  rw [hasKey, hvalue]
  exact halways root value hread

/-- Where no field is left out, what is made has exactly the keys of the rules. -/
theorem hasExactly_normalize (hkeys : (rules.map Json.FieldRule.key).Nodup)
    (halways : ∀ rule ∈ rules, rule.Always) (h : Json.normalize rules root = .ok out) :
    hasExactly out (rules.map Json.FieldRule.key) = true := by
  rw [hasExactly, Bool.and_eq_true, List.all_eq_true, List.all_eq_true]
  constructor
  · intro field hfield
    exact decide_eq_true (Json.normalize_keys hkeys h field hfield)
  · intro key hkey
    obtain ⟨rule, hrule, rfl⟩ := List.mem_map.mp hkey
    exact hasKey_normalize hkeys h hrule (halways rule hrule)

end Contracts

end Wbcz
