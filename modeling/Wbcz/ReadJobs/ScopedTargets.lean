import Wbcz.ReadJobs.Targets

/-!
# The targets that are let through

A target of a read job is built of a payload, or stands in a request that the check of its family
lets through; it goes into the request line as it is. The check of reference data builds the target
once more. That of documents looks for a text anywhere in the target, and that of EDO Lite at the
path as `urlsplit` gives it, which leaves tabulators out and takes a host away from the front, also
an empty one.
-/

namespace Wbcz.Targets

open Fallible (bind_eq_ok)
open PathSegments

/-- Where the target of a read job comes from. -/
inductive Source where
  | referencePayload (type : AgentJobType) (payload : Json)
  | documentPayload (type : AgentJobType) (payload : Json)
  | edoPayload (type : AgentJobType) (fields : List (String × Json))
  | dispenserPayload (type : AgentJobType) (payload : Json)
  | referenceSpec (spec : CisInventory.TrueApiReadSpec)
  | documentSpec (spec : DocumentLifecycle.DocumentReadSpec)
  | edoSpec (spec : EdoLite.EdoReadSpec)

/-- The type and the target of a request, where it is built or let through. -/
def Source.target? : Source → Option (AgentJobType × String)
  | referencePayload type payload =>
    (ReferenceProducts.buildReferenceReadSpec type payload).toOption.map fun spec =>
      (type, spec.target)
  | documentPayload type payload =>
    (DocumentLifecycle.buildDocumentReadSpec type payload).toOption.map fun spec =>
      (type, spec.target)
  | edoPayload type fields =>
    (EdoLite.buildEdoReadSpec type fields).toOption.map fun spec => (type, spec.target)
  | dispenserPayload type payload =>
    (ReportPayloads.buildDispenserSpec type payload).toOption.map fun spec => (type, spec.target)
  | referenceSpec spec =>
    if (ReferenceProducts.isAllowedReferenceTarget spec).toOption = some true then
      some (spec.jobType, spec.target)
    else none
  | documentSpec spec =>
    if DocumentLifecycle.isAllowedDocumentTarget spec then some (spec.jobType, spec.target) else none
  | edoSpec spec =>
    if (EdoLite.isAllowedEdoReadTarget spec).toOption = some true then
      some (spec.jobType, spec.target)
    else none

/-- No identifier in the path is a dot segment. -/
def PlainIdentifiers (type : AgentJobType) (payload : Json) : Prop :=
  ∀ field ∈ pathFields type, ¬IsDot (strText (payload.get field)).toList

/-- No segment of the path is a dot segment. -/
def PlainPath (target : List Char) : Prop := ∀ s ∈ segments (pathOf target), ¬IsDot s

/-- One part between the ampersands of the query is the pair, and no other part has its name. -/
def IsOwnParameter (pair : Url.Pair) (target : List Char) : Prop :=
  ∃ before part after, (queryOf target).splitOn '&' = before ++ part :: after ∧
    Url.valuesOf (Url.parseQsl part) pair.1 = [pair.2] ∧
    ∀ other ∈ before ++ after, Url.valuesOf (Url.parseQsl other) pair.1 = []

/-- The characters that `urlsplit` does not leave out. -/
def isRead (c : Char) : Bool := decide (c ∉ ['\t', '\r', '\n'])

/-- For `urlsplit` the target begins with a host. -/
def HasHost (target : List Char) : Prop := (target.filter isRead).take 2 = ['/', '/']

/-- Nothing in the source leads elsewhere. -/
def Source.IsPlain : Source → Prop
  | referencePayload type payload | documentPayload type payload | dispenserPayload type payload =>
    PlainIdentifiers type payload
  | edoPayload type fields => PlainIdentifiers type (.obj fields)
  | referenceSpec _ => True
  | documentSpec spec => PlainPath spec.target.toList ∧
      ∀ pair ∈ scopeOf spec.jobType, IsOwnParameter pair spec.target.toList
  | edoSpec spec => ¬HasHost spec.target.toList ∧
      List.Forall₂ (Part.Keeps isRead) (parts (endpoint spec.jobType))
        (segments (pathOf spec.target.toList)) ∧ PlainPath spec.target.toList

/-! ## Payloads -/

section Payloads

variable {type : AgentJobType} {payload : Json}

/-- What is written leads to its endpoint within its scope when the identifiers are plain. -/
theorem scoped_iff_of_written {target : List Char} (hfamily : type.family ∈ readFamilies)
    (h : Written type payload target ∧ InScope type target) :
    Scoped type target ↔ PlainIdentifiers type payload := by
  rw [Scoped, h.1.leadsTo_iff hfamily]
  exact and_iff_left h.2

theorem reference_family {spec : CisInventory.TrueApiReadSpec}
    (h : ReferenceProducts.buildReferenceReadSpec type payload = .ok spec) : type.family = .m2 := by
  obtain ⟨normalized, hvalid, -⟩ := bind_eq_ok.mp h
  cases type with
  | participants | modsList | tnVedSearch | productGtinList | rdList => rfl
  | _ => cases hvalid

theorem document_family {spec : DocumentLifecycle.DocumentReadSpec}
    (h : DocumentLifecycle.buildDocumentReadSpec type payload = .ok spec) : type.family = .m4 := by
  obtain ⟨normalized, hvalid, -⟩ := bind_eq_ok.mp h
  cases type with
  | documentList | documentInfo | documentCises => rfl
  | _ => cases hvalid

theorem edo_family {fields : List (String × Json)} {spec : EdoLite.EdoReadSpec}
    (h : EdoLite.buildEdoReadSpec type fields = .ok spec) : type.family = .m7 := by
  obtain ⟨canonical, hvalid, -⟩ := bind_eq_ok.mp h
  by_contra hfamily
  cases type <;> first | cases hvalid | exact hfamily rfl

theorem dispenser_family {spec : ReportPayloads.DispenserRequestSpec}
    (h : ReportPayloads.buildDispenserSpec type payload = .ok spec) : type.family = .m11 := by
  obtain ⟨p, hvalid, -⟩ := bind_eq_ok.mp h
  by_contra hfamily
  cases type <;> first | cases hvalid | exact hfamily rfl

end Payloads

/-! ## Parameters -/

/-- A part between ampersands is read by itself. -/
theorem parseQsl_eq_flatMap (query : List Char) :
    Url.parseQsl query = (query.splitOn '&').flatMap Url.parseQsl := by
  have hparts : ∀ part ∈ query.splitOn '&', Url.parseQsl part =
      ([part].filter fun part => decide (part ≠ [])).map fun part =>
        (String.ofList (Url.unquotePlus (part.takeWhile fun c => decide (c ≠ '='))),
          String.ofList (Url.unquotePlus (part.dropWhile fun c => decide (c ≠ '=')).tail)) := by
    intro part hpart
    have hsingle : part.splitOn '&' = [part] := by
      have := List.splitOn_intercalate '&' (List.forall_mem_singleton.mpr (not_mem_splitOn part hpart))
        (List.cons_ne_nil part [])
      simpa [List.intercalate] using this
    rw [Url.parseQsl, hsingle]
  rw [List.flatMap_congr hparts, Url.parseQsl]
  induction query.splitOn '&' with
  | nil => rfl
  | cons part parts ih =>
    rw [List.flatMap_cons, ← ih, ← List.map_append, ← List.filter_append, List.singleton_append]

theorem valuesOf_flatMap (texts : List (List Char)) (name : String) :
    Url.valuesOf (texts.flatMap Url.parseQsl) name =
      texts.flatMap fun text => Url.valuesOf (Url.parseQsl text) name := by
  induction texts with
  | nil => rfl
  | cons text texts ih => rw [List.flatMap_cons, List.flatMap_cons, Url.valuesOf_append, ih]

/-- One of the lists is the one value, and the others are empty. -/
theorem flatMap_eq_singleton {α β : Type} {f : α → List β} {values : List α} {b : β} :
    values.flatMap f = [b] ↔ ∃ before a after, values = before ++ a :: after ∧ f a = [b] ∧
      ∀ other ∈ before ++ after, f other = [] := by
  constructor
  · intro h
    induction values with
    | nil => cases h
    | cons a values ih =>
      rw [List.flatMap_cons] at h
      rcases List.append_eq_singleton_iff.mp h with ⟨hnil, hrest⟩ | ⟨ha, hrest⟩
      · obtain ⟨before, c, after, rfl, hc, hothers⟩ := ih hrest
        exact ⟨a :: before, c, after, rfl, hc, List.forall_mem_cons.mpr ⟨hnil, hothers⟩⟩
      · exact ⟨[], a, values, rfl, ha, List.flatMap_eq_nil_iff.mp hrest⟩
  · rintro ⟨before, a, after, rfl, ha, hothers⟩
    obtain ⟨hbefore, hafter⟩ := List.forall_mem_append.mp hothers
    rw [List.flatMap_append, List.flatMap_cons, List.flatMap_eq_nil_iff.mpr hbefore,
      List.flatMap_eq_nil_iff.mpr hafter, ha]
    rfl

theorem inScope_iff {type : AgentJobType} {target : List Char} :
    InScope type target ↔ ∀ pair ∈ scopeOf type, IsOwnParameter pair target := by
  refine forall₂_congr fun pair _ => ?_
  rw [parseQsl_eq_flatMap, valuesOf_flatMap, flatMap_eq_singleton]
  rfl

/-! ## Requests that are let through -/

/-- The check of reference data builds the request once more. -/
theorem reference_admitted {spec : CisInventory.TrueApiReadSpec}
    (h : ReferenceProducts.isAllowedReferenceTarget spec = .ok true) :
    ∃ payload rebuilt, ReferenceProducts.buildReferenceReadSpec spec.jobType payload = .ok rebuilt ∧
      rebuilt.target = spec.target := by
  unfold ReferenceProducts.isAllowedReferenceTarget at h
  split at h
  · cases h
  · dsimp only at h
    split at h
    · rename_i rebuilt hrebuilt
      obtain ⟨payload, -, hbuild⟩ := bind_eq_ok.mp hrebuilt
      have hsame := Except.ok.inj h
      simp only [Bool.and_eq_true, decide_eq_true_eq] at hsame
      exact ⟨payload, rebuilt, hbuild, hsame.1.2⟩
    · split at h
      · cases h
      · cases h

/-- No target of reference data has an identifier in its path. -/
theorem pathFields_of_m2 {type : AgentJobType} (h : type.family = .m2) : pathFields type = [] := by
  cases type <;> first | rfl | cases h

theorem reference_scoped {spec : CisInventory.TrueApiReadSpec}
    (h : ReferenceProducts.isAllowedReferenceTarget spec = .ok true) :
    Scoped spec.jobType spec.target.toList := by
  obtain ⟨payload, rebuilt, hbuild, htarget⟩ := reference_admitted h
  have hfamily := reference_family hbuild
  rw [← htarget, scoped_iff_of_written (by rw [hfamily]; decide) (reference_written hbuild),
    PlainIdentifiers, pathFields_of_m2 hfamily]
  exact List.forall_mem_nil _

/-- A target that the template of its endpoint accepts as it stands. -/
theorem scoped_iff_of_accepts {type : AgentJobType} {target : List Char}
    (hhead : target.head? = some '/')
    (h : List.Forall₂ Part.Accepts (parts (endpoint type)) (segments (pathOf target))) :
    Scoped type target ↔
      PlainPath target ∧ ∀ pair ∈ scopeOf type, IsOwnParameter pair target := by
  rw [Scoped, leadsTo_iff_of_accepts (plain_endpoint type) hhead h, inScope_iff]
  rfl

/-- A target that was made from the template of its endpoint. -/
theorem accepts_fill_append {type : AgentJobType} {ids : List Segment} {rest : List Char}
    (hfamily : type.family ∈ readFamilies) (hlength : ids.length = (pathFields type).length)
    (hids : ∀ id ∈ ids, id ≠ [] ∧ '/' ∉ id ∧ id.all isPathChar)
    (hrest : ∀ c, rest.head? = some c → isPathChar c = false) :
    (joined (fill (parts (endpoint type)) ids) ++ rest).head? = some '/' ∧
      List.Forall₂ Part.Accepts (parts (endpoint type))
        (segments (pathOf (joined (fill (parts (endpoint type)) ids) ++ rest))) := by
  have hcount := hlength.trans (count_endpoint type).symm
  refine ⟨head?_joined_fill (parts_endpoint_ne_nil hfamily) ids rest, ?_⟩
  rw [segments_pathOf_fill (plain_endpoint type) hcount hids hrest]
  exact accepts_fill hcount fun id hid => (hids id hid).1

/-- A target that begins with the path of an endpoint without identifiers. -/
theorem accepts_of_prefix {type : AgentJobType} {path : String} {target : List Char}
    (hfamily : type.family ∈ readFamilies) (hfields : pathFields type = [])
    (hpath : path = endpoint type) (h : (path ++ "?").toList.isPrefixOf target = true) :
    target.head? = some '/' ∧
      List.Forall₂ Part.Accepts (parts (endpoint type)) (segments (pathOf target)) := by
  subst hpath
  obtain ⟨rest, rfl⟩ := List.isPrefixOf_iff_prefix.mp h
  rw [String.toList_append, endpoint_eq_fill hfields, List.append_assoc]
  refine accepts_fill_append hfamily (by rw [hfields]; rfl) (List.forall_mem_nil _) ?_
  rintro c ⟨⟩
  decide

/-- What follows the identifier of a document ends with the path or goes on with a query. -/
theorem exists_of_isInfoRest {rest : List Char} (h : DocumentLifecycle.isInfoRest rest = true) :
    ∃ tail, rest = "/info".toList ++ tail ∧ ∀ c, tail.head? = some c → isPathChar c = false := by
  obtain ⟨hstart, htail⟩ := Bool.and_eq_true_iff.mp h
  obtain ⟨tail, rfl⟩ := List.isPrefixOf_iff_prefix.mp hstart
  refine ⟨tail, rfl, ?_⟩
  have hdrop : ("/info".toList ++ tail).drop "/info".length = tail := List.drop_left' rfl
  rw [hdrop] at htail
  cases tail with
  | nil => simp
  | cons c query =>
    obtain ⟨hmark, -⟩ := Bool.and_eq_true_iff.mp htail
    rintro _ ⟨⟩
    rw [of_decide_eq_true hmark]
    decide

theorem accepts_of_matchesDocumentInfo {target : List Char}
    (h : DocumentLifecycle.matchesDocumentInfo target = true) :
    target.head? = some '/' ∧ List.Forall₂ Part.Accepts (parts (endpoint .documentInfo))
      (segments (pathOf target)) := by
  obtain ⟨hstart, hrest⟩ := Bool.and_eq_true_iff.mp h
  obtain ⟨tail, rfl⟩ := List.isPrefixOf_iff_prefix.mp hstart
  rw [List.drop_left' rfl, List.span_eq_takeWhile_dropWhile] at hrest
  obtain ⟨htoken, hinfo⟩ := Bool.and_eq_true_iff.mp hrest
  have hsplit : tail.takeWhile (fun c => decide (c ≠ '/')) ++
      tail.dropWhile (fun c => decide (c ≠ '/')) = tail := List.takeWhile_append_dropWhile
  generalize tail.takeWhile (fun c => decide (c ≠ '/')) = id at htoken hsplit
  obtain ⟨query, hquery, hmark⟩ := exists_of_isInfoRest hinfo
  have hvalue : (Json.str (String.ofList id)).str?.any (isToken 256) = true := htoken
  have hid := (identifies_token hvalue).1
  simp only [strText, Json.str?, Option.getD_some, String.toList_ofList] at hid
  rw [← hsplit, hquery, ← List.append_assoc, ← List.append_assoc, documentInfo_path]
  exact accepts_fill_append (by decide) rfl (List.forall_mem_singleton.mpr hid) hmark

theorem document_accepts {spec : DocumentLifecycle.DocumentReadSpec}
    (h : DocumentLifecycle.isAllowedDocumentTarget spec = true) :
    spec.target.toList.head? = some '/' ∧ List.Forall₂ Part.Accepts
      (parts (endpoint spec.jobType)) (segments (pathOf spec.target.toList)) := by
  unfold DocumentLifecycle.isAllowedDocumentTarget at h
  split at h
  · cases h
  · split at h
    · rename_i htype
      rw [htype]
      exact accepts_of_prefix (by decide) rfl rfl (Bool.and_eq_true_iff.mp h).1
    · rename_i htype
      rw [htype]
      exact accepts_of_matchesDocumentInfo h
    · rename_i htype
      rw [htype]
      exact accepts_of_prefix (by decide) rfl rfl (Bool.and_eq_true_iff.mp h).1
    · cases h

/-! ## Targets of EDO Lite -/

theorem splitBefore_eq_pathOf (url : List Char) :
    (Url.splitBefore ['?'] (Url.splitBefore ['#'] url).1).1 = pathOf url := by
  simp only [Url.splitBefore, List.span_eq_takeWhile_dropWhile, List.takeWhile_takeWhile, pathOf]
  congr 1
  funext c
  simp [isPathChar]

/-- The path that `urlsplit` gives: of what it reads, or of that behind the two slashes of a host
that is empty. -/
theorem urlsplit_path {target : List Char} (hhead : target.head? = some '/')
    (hhost : (Url.urlsplit target).netloc = []) :
    (¬HasHost target ∧ (Url.urlsplit target).path = pathOf (target.filter isRead)) ∨
      ∃ rest, target.filter isRead = '/' :: '/' :: rest ∧
        (Url.urlsplit target).path = pathOf rest := by
  cases target with
  | nil => cases hhead
  | cons c target =>
    cases hhead
    have hread : ('/' :: target).filter isRead = '/' :: target.filter isRead :=
      List.filter_cons_of_pos (by decide)
    have hclean : (('/' :: target).dropWhile fun c => decide (c.toNat ≤ 32)).filter (fun c =>
        decide (c ∉ ['\t', '\r', '\n'])) = '/' :: target.filter isRead := by
      rw [List.dropWhile_cons_of_neg (by decide)]
      exact hread
    unfold Url.urlsplit at hhost ⊢
    simp only [hclean, Url.splitScheme_slash] at hhost ⊢
    rw [HasHost, hread]
    split at hhost
    · rename_i hslashes
      cases hfilter : target.filter isRead with
      | nil =>
        rw [hfilter] at hslashes
        cases hslashes
      | cons c rest =>
        rw [hfilter] at hslashes hhost
        obtain rfl : c = '/' := by simpa using hslashes
        refine .inr ⟨rest, rfl, ?_⟩
        have hempty : (Url.splitBefore ['/', '?', '#'] rest).1 = [] := hhost
        have hsplit : (Url.splitBefore ['/', '?', '#'] rest).1 ++
            (Url.splitBefore ['/', '?', '#'] rest).2 = rest := by
          rw [Url.splitBefore, List.span_eq_takeWhile_dropWhile]
          exact List.takeWhile_append_dropWhile
        rw [hempty, List.nil_append] at hsplit
        rw [if_pos hslashes, List.drop_succ_cons, List.drop_succ_cons, List.drop_zero, hsplit]
        exact splitBefore_eq_pathOf rest
    · rename_i hslashes
      rw [if_neg hslashes]
      exact .inl ⟨hslashes, splitBefore_eq_pathOf _⟩

theorem parts_ofList_congr {path other : List Char}
    (h : (segments path).map partOf = (segments other).map partOf) :
    parts (String.ofList path) = parts (String.ofList other) := by
  rw [parts, parts, String.toList_ofList, String.toList_ofList, h]

/-- The patterns of the check are the endpoints. -/
theorem parts_exactPattern {type : AgentJobType} {pattern : String}
    (h : EdoLite.exactPattern type = some pattern) : parts pattern = parts (endpoint type) := by
  cases type <;> first
    | cases h; done
    | (obtain rfl := Option.some.inj h; exact parts_ofList_congr (by decide +kernel))

theorem accepts_of_isParticipantPath {path : List Char} (h : EdoLite.isParticipantPath path = true) :
    path.head? = some '/' ∧
      List.Forall₂ Part.Accepts (parts (endpoint .edoParticipant)) (segments path) := by
  obtain ⟨hstart, hdigits⟩ := Bool.and_eq_true_iff.mp h
  obtain ⟨digits, rfl⟩ := List.isPrefixOf_iff_prefix.mp hstart
  rw [List.drop_left' rfl] at hdigits
  obtain ⟨hall, hlength⟩ := Bool.and_eq_true_iff.mp hdigits
  have hslash : '/' ∉ digits := fun hmem =>
    absurd (List.all_eq_true.mp hall _ hmem) (by decide)
  have hempty : digits ≠ [] := by
    rintro rfl
    simp at hlength
  have hcount : [digits].length = (parts (endpoint .edoParticipant)).count .identifier :=
    (count_endpoint .edoParticipant).symm
  have hne : parts (endpoint .edoParticipant) ≠ [] := parts_endpoint_ne_nil (by decide)
  rw [participant_path]
  refine ⟨?_, ?_⟩
  · have hhead := head?_joined_fill hne [digits] []
    rwa [List.append_nil] at hhead
  · rw [segments_fill (plain_endpoint _) hcount (List.forall_mem_singleton.mpr hslash)]
    exact accepts_fill hcount (List.forall_mem_singleton.mpr hempty)

/-- The path as it was split is that of the endpoint. -/
theorem accepts_of_isAllowedPath {type : AgentJobType} {path : List Char} {query : List Url.Pair}
    (hfamily : type.family = .m7) (h : EdoLite.isAllowedPath type path query = .ok true) :
    path.head? = some '/' ∧
      List.Forall₂ Part.Accepts (parts (endpoint type)) (segments path) := by
  have hpattern : ∀ ok : Bool,
      (Except.ok ((EdoLite.exactPattern type).any (EdoLite.fullmatch · path) && ok) :
        Except PyError Bool) = .ok true → path.head? = some '/' ∧
          List.Forall₂ Part.Accepts (parts (endpoint type)) (segments path) := by
    intro ok hok
    obtain ⟨hany, -⟩ := Bool.and_eq_true_iff.mp (Except.ok.inj hok)
    obtain ⟨pattern, hpattern, hmatch⟩ := (Option.any_eq_true _ _).mp hany
    obtain ⟨hhead, haccepts⟩ := Bool.and_eq_true_iff.mp hmatch
    rw [← parts_exactPattern hpattern]
    exact ⟨of_decide_eq_true hhead, of_decide_eq_true haccepts⟩
  cases type with
  | edoParticipant => exact accepts_of_isParticipantPath (Bool.and_eq_true_iff.mp (Except.ok.inj h)).1
  | edoOutgoingList =>
    change (if path = (EdoLite.listPath .edoOutgoingList).toList then EdoLite.isAllowedListQuery query
      else .ok false) = .ok true at h
    split at h
    · rename_i hpath
      rw [hpath]
      decide +kernel
    · cases h
  | edoIncomingList =>
    change (if path = (EdoLite.listPath .edoIncomingList).toList then EdoLite.isAllowedListQuery query
      else .ok false) = .ok true at h
    split at h
    · rename_i hpath
      rw [hpath]
      decide +kernel
    · cases h
  | edoGisProcessing =>
    have hpath := Except.ok.inj h
    simp only [Bool.and_eq_true, decide_eq_true_eq] at hpath
    rw [hpath.1.1.1]
    decide +kernel
  | edoOutgoingContent | edoIncomingContent | edoOutgoingPrint | edoIncomingPrint
  | edoOutgoingLegalZip | edoIncomingLegalZip | edoOutgoingUnsignedEvents
  | edoIncomingUnsignedEvents | edoEventContent | edoOutgoingReceipt | edoIncomingReceipt
  | edoOutgoingMchd | edoIncomingMchd => exact hpattern _ h
  | _ => cases hfamily

theorem scopeOf_of_m7 {type : AgentJobType} (h : type.family = .m7) : scopeOf type = [] := by
  cases type <;> first | rfl | cases h

/-- What `urlsplit` leaves out does not end a path. -/
theorem isPathChar_of_not_isRead (c : Char) (h : isRead c = false) : isPathChar c = true := by
  have hmem : c ∈ ['\t', '\r', '\n'] := not_not.mp (of_decide_eq_false h)
  simp only [List.mem_cons, List.not_mem_nil, or_false] at hmem
  rcases hmem with rfl | rfl | rfl
  · rfl
  · rfl
  · rfl

/-- Behind an empty host the path has two more segments in front of that of the endpoint. -/
theorem segments_of_host {target rest : List Char} (hfilter : target.filter isRead = '/' :: '/' :: rest)
    (hhead : (pathOf rest).head? = some '/') :
    (segments (pathOf target)).map (List.filter isRead) = [] :: [] :: segments (pathOf rest) := by
  have hpath : pathOf ('/' :: '/' :: rest) = '/' :: '/' :: pathOf rest := by
    rw [pathOf, List.takeWhile_cons_of_pos rfl, List.takeWhile_cons_of_pos rfl]
    rfl
  rw [← segments_filter (by decide), ← pathOf_filter isPathChar_of_not_isRead, hfilter, hpath]
  cases hrest : pathOf rest with
  | nil =>
    rw [hrest] at hhead
    cases hhead
  | cons c path =>
    rw [hrest] at hhead
    cases hhead
    simp [segments, splitOn_cons]

theorem edo_scoped_iff {spec : EdoLite.EdoReadSpec}
    (h : EdoLite.isAllowedEdoReadTarget spec = .ok true) :
    Scoped spec.jobType spec.target.toList ↔ (Source.edoSpec spec).IsPlain := by
  unfold EdoLite.isAllowedEdoReadTarget at h
  split at h
  · cases h
  rename_i hspec
  dsimp only at h
  split at h
  · cases h
  rename_i hparsed
  push Not at hspec hparsed
  obtain ⟨hfamily, -, hwire⟩ := hspec
  obtain ⟨-, hhost, -⟩ := hparsed
  have hhead : spec.target.toList.head? = some '/' := by
    simp only [EdoLite.isWireText, Bool.and_eq_true, ne_eq, Bool.not_eq_false] at hwire
    exact of_decide_eq_true hwire.2
  have hread : spec.jobType.family ∈ readFamilies := by
    rw [hfamily]
    decide
  obtain ⟨hpathHead, haccepts⟩ := accepts_of_isAllowedPath hfamily h
  have hplain := plain_endpoint spec.jobType
  rcases urlsplit_path hhead hhost with ⟨hnone, hpath⟩ | ⟨rest, hfilter, hpath⟩
  · rw [hpath, pathOf_filter isPathChar_of_not_isRead, segments_filter (by decide)] at haccepts
    rw [Scoped, leadsTo_iff_of_filter hplain hhead haccepts,
      and_iff_left (inScope_of_nil (scopeOf_of_m7 hfamily))]
    exact (and_iff_right hnone).symm
  · rw [hpath] at hpathHead haccepts
    obtain ⟨a, behind, hsegments, ha, hbehind⟩ :=
      List.map_eq_cons_iff.mp (segments_of_host hfilter hpathHead)
    obtain ⟨b, segs, rfl, hb, hsegs⟩ := List.map_eq_cons_iff.mp hbehind
    rw [← hsegs] at haccepts
    refine iff_of_false (fun hscoped => ?_) fun hplain => hplain.1 ?_
    · exact not_leadsTo_of_blank (parts_endpoint_ne_nil hread) (by decide) hplain
        (isChain_endpoint _) (head?_endpoint _) hsegments ha hb haccepts hscoped.1
    · rw [HasHost, hfilter]
      rfl

variable {source : Source} {type : AgentJobType} {target : String}

/-- A target of a read job leads to the endpoint of its type within its scope when nothing in its
source leads elsewhere. -/
theorem read_target_scoped_iff (h : source.target? = some (type, target)) :
    Scoped type target.toList ↔ source.IsPlain := by
  cases source with
  | referencePayload job payload =>
    obtain ⟨spec, hspec, heq⟩ := Option.map_eq_some_iff.mp h
    cases heq
    have hbuilt := Fallible.toOption_eq_some.mp hspec
    exact scoped_iff_of_written (by rw [reference_family hbuilt]; decide) (reference_written hbuilt)
  | documentPayload job payload =>
    obtain ⟨spec, hspec, heq⟩ := Option.map_eq_some_iff.mp h
    cases heq
    have hbuilt := Fallible.toOption_eq_some.mp hspec
    exact scoped_iff_of_written (by rw [document_family hbuilt]; decide) (document_written hbuilt)
  | edoPayload job fields =>
    obtain ⟨spec, hspec, heq⟩ := Option.map_eq_some_iff.mp h
    cases heq
    have hbuilt := Fallible.toOption_eq_some.mp hspec
    exact scoped_iff_of_written (by rw [edo_family hbuilt]; decide) (edo_written hbuilt)
  | dispenserPayload job payload =>
    obtain ⟨spec, hspec, heq⟩ := Option.map_eq_some_iff.mp h
    cases heq
    have hbuilt := Fallible.toOption_eq_some.mp hspec
    exact scoped_iff_of_written (by rw [dispenser_family hbuilt]; decide) (dispenser_written hbuilt)
  | referenceSpec spec =>
    obtain ⟨hadmitted, heq⟩ := Option.ite_none_right_eq_some.mp h
    cases heq
    exact iff_of_true (reference_scoped (Fallible.toOption_eq_some.mp hadmitted)) trivial
  | documentSpec spec =>
    obtain ⟨hadmitted, heq⟩ := Option.ite_none_right_eq_some.mp h
    cases heq
    obtain ⟨hhead, haccepts⟩ := document_accepts hadmitted
    exact scoped_iff_of_accepts hhead haccepts
  | edoSpec spec =>
    obtain ⟨hadmitted, heq⟩ := Option.ite_none_right_eq_some.mp h
    cases heq
    exact edo_scoped_iff (Fallible.toOption_eq_some.mp hadmitted)

theorem read_target_scoped_sample :
    Scoped .documentInfo "/api/v4/true-api/doc/a.b/info?body=false&content=true".toList := by
  have h : (Source.documentPayload .documentInfo (.obj [("document_id", .str "a.b"),
      ("content", .bool true)])).target? = some (.documentInfo,
        "/api/v4/true-api/doc/a.b/info?body=false&content=true") := by decide +kernel
  refine (read_target_scoped_iff h).mpr ?_
  change ∀ field ∈ ["document_id"], _
  decide +kernel

/-- The information on the document `..`. -/
def upwardTarget : String := "/api/v4/true-api/doc/../info?body=false&content=false"

/-- The documents of the number `pg=lp`. -/
def numberTarget : String := "/api/v4/true-api/doc/list?number=pg=lp"

/-- Two dots as the identifier of a document take the path to another endpoint, and the text of the
product group as a number of documents leaves the list without its product group. -/
theorem dots_lead_elsewhere :
    ((Source.documentPayload .documentInfo (.obj [("document_id", .str "..")])).target? =
        some (.documentInfo, upwardTarget) ∧
      (Source.documentSpec ⟨.documentInfo, "GET", upwardTarget, ""⟩).target? =
        some (.documentInfo, upwardTarget) ∧ ¬Scoped .documentInfo upwardTarget.toList) ∧
    (Source.documentSpec ⟨.documentList, "GET", numberTarget, ""⟩).target? =
      some (.documentList, numberTarget) ∧ ¬Scoped .documentList numberTarget.toList := by
  refine ⟨⟨by decide +kernel, by decide +kernel, fun h => ?_⟩, by decide +kernel, fun h => ?_⟩
  · exact absurd h.1.2 (by decide +kernel)
  · exact absurd (h.2 _ List.mem_cons_self) (by decide +kernel)

end Wbcz.Targets
