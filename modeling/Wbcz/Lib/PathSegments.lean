import Mathlib.Data.List.Chain
import Mathlib.Data.List.TakeWhile
import Wbcz.Lib.Text

/-!
# The segments of a path

The path of a request target, and the removal of dot segments of RFC 3986, section 5.2.4. A path
begins with a slash; it is read as the list of what stands after each of its slashes, and the
removal goes through this list once: a single dot is left out, two dots take the segment before
with them, and at the end of the path both leave an empty segment.

## Main results

* `not_isDot_of_length` — what has kept its length had no dot segment
* `prefix_kept` — dot segments apart from each other do not reach far back
* `accepts_removeDotSegments_iff` — when a path of the length of a template is one after the removal
* `leadsTo_fill_iff` — so is a template with identifiers in place of the names
-/

namespace PathSegments

/-- What stands between two slashes. -/
abbrev Segment := List Char

variable {kept segs : List Segment} {s : Segment}

/-! ## Targets -/

/-- A character that does not end a path. -/
def isPathChar (c : Char) : Bool := decide (c ≠ '?' ∧ c ≠ '#')

/-- The path of a request target. -/
def pathOf (target : List Char) : List Char := target.takeWhile isPathChar

/-- The query of a request target. -/
def queryOf (target : List Char) : List Char :=
  ((target.takeWhile fun c => decide (c ≠ '#')).dropWhile fun c => decide (c ≠ '?')).tail

theorem pathOf_append {path rest : List Char} (hpath : ∀ c ∈ path, isPathChar c = true)
    (hrest : ∀ c, rest.head? = some c → isPathChar c = false) : pathOf (path ++ rest) = path := by
  rw [pathOf, List.takeWhile_append_of_pos hpath]
  cases rest with
  | nil => rw [List.takeWhile_nil, List.append_nil]
  | cons c rest =>
    rw [List.takeWhile_cons_of_neg (by rw [hrest c rfl]; exact Bool.false_ne_true),
      List.append_nil]

theorem queryOf_append {path query : List Char} (hpath : ∀ c ∈ path, isPathChar c = true)
    (hquery : '#' ∉ query) : queryOf (path ++ '?' :: query) = query := by
  have hhash : ∀ c ∈ path ++ '?' :: query, decide (c ≠ '#') = true := by
    intro c hc
    refine decide_eq_true ?_
    rintro rfl
    rcases List.mem_append.mp hc with hc | hc
    · exact absurd (hpath _ hc) (by decide)
    · rcases List.mem_cons.mp hc with hc | hc
      · exact absurd hc (by decide)
      · exact hquery hc
  have hmark : ∀ c ∈ path, decide (c ≠ '?') = true := by
    intro c hc
    refine decide_eq_true ?_
    rintro rfl
    exact absurd (hpath _ hc) (by decide)
  rw [queryOf, List.takeWhile_eq_self_iff.mpr hhash, List.dropWhile_append_of_pos hmark]
  simp

/-! ## Segments -/

/-- The segments of a path that begins with a slash. -/
def segments (path : List Char) : List Segment := (path.splitOn '/').tail

/-- A path of its segments. -/
def joined : List Segment → List Char
  | [] => []
  | s :: segs => '/' :: s ++ joined segs

theorem intercalate_cons (s : Segment) (segs : List Segment) :
    ['/'].intercalate (s :: segs) = s ++ joined segs := by
  induction segs generalizing s with
  | nil => simp [List.intercalate, joined]
  | cons t segs ih =>
    have ih := ih t
    simp only [List.intercalate, List.intersperse_cons_cons, List.flatten_cons] at ih ⊢
    rw [ih, joined]
    rfl

theorem mem_joined {c : Char} : c ∈ joined segs → c = '/' ∨ ∃ s ∈ segs, c ∈ s := by
  induction segs with
  | nil => exact fun h => absurd h List.not_mem_nil
  | cons s segs ih =>
    intro h
    rcases List.mem_append.mp h with h | h
    · rcases List.mem_cons.mp h with h | h
      · exact .inl h
      · exact .inr ⟨s, List.mem_cons_self, h⟩
    · exact (ih h).imp_right fun ⟨t, ht, hc⟩ => ⟨t, List.mem_cons_of_mem _ ht, hc⟩

theorem segments_joined (h : ∀ s ∈ segs, '/' ∉ s) : segments (joined segs) = segs := by
  have hall : ∀ s ∈ [] :: segs, '/' ∉ s := List.forall_mem_cons.mpr ⟨List.not_mem_nil, h⟩
  have hsplit := List.splitOn_intercalate '/' hall (List.cons_ne_nil _ _)
  rw [intercalate_cons, List.nil_append] at hsplit
  rw [segments, hsplit, List.tail_cons]

theorem splitOn_cons (mark c : Char) (text : List Char) : (c :: text).splitOn mark =
    if c = mark then [] :: text.splitOn mark else (text.splitOn mark).modifyHead (List.cons c) := by
  rw [List.splitOn, List.splitOnP_cons_eq_if_modifyHead]
  simp only [beq_iff_eq]
  rfl

theorem not_mem_splitOn {mark : Char} {text : List Char} : ∀ s ∈ text.splitOn mark, mark ∉ s := by
  induction text with
  | nil => simp
  | cons c text ih =>
    intro s hs
    rw [splitOn_cons] at hs
    by_cases hc : c = mark
    · rw [if_pos hc, List.mem_cons] at hs
      rcases hs with rfl | hs
      · exact List.not_mem_nil
      · exact ih s hs
    · rw [if_neg hc] at hs
      cases hparts : text.splitOn mark with
      | nil =>
        rw [hparts] at hs
        cases hs
      | cons first rest =>
        rw [hparts] at hs ih
        rcases List.mem_cons.mp hs with rfl | hs
        · rw [List.mem_cons, not_or]
          exact ⟨Ne.symm hc, ih first List.mem_cons_self⟩
        · exact ih s (List.mem_cons_of_mem _ hs)

/-! ## Characters that are left out

A reader that leaves some characters out before it looks for the path, as readers of addresses do
with tabulators, sees the same segments without these characters. -/

section Filter

variable {keep : Char → Bool}

theorem pathOf_filter (hkeep : ∀ c, keep c = false → isPathChar c = true) (target : List Char) :
    pathOf (target.filter keep) = (pathOf target).filter keep := by
  induction target with
  | nil => rfl
  | cons c target ih =>
    unfold pathOf at ih ⊢
    cases hc : keep c with
    | false =>
      rw [List.filter_cons_of_neg (by simp [hc]), List.takeWhile_cons_of_pos (hkeep c hc),
        List.filter_cons_of_neg (by simp [hc]), ih]
    | true =>
      rw [List.filter_cons_of_pos hc]
      cases hpath : isPathChar c with
      | false =>
        rw [List.takeWhile_cons_of_neg (by simp [hpath]), List.takeWhile_cons_of_neg (by simp [hpath]),
          List.filter_nil]
      | true =>
        rw [List.takeWhile_cons_of_pos hpath, List.takeWhile_cons_of_pos hpath,
          List.filter_cons_of_pos hc, ih]

theorem splitOn_filter (hslash : keep '/' = true) (path : List Char) :
    (path.filter keep).splitOn '/' = (path.splitOn '/').map (List.filter keep) := by
  induction path with
  | nil => rfl
  | cons c path ih =>
    rw [splitOn_cons]
    by_cases hc : c = '/'
    · rw [hc, List.filter_cons_of_pos hslash, splitOn_cons, if_pos rfl, if_pos rfl, ih]
      rfl
    · rw [if_neg hc]
      cases hparts : path.splitOn '/' with
      | nil => exact absurd hparts (List.splitOn_ne_nil _ _)
      | cons first rest =>
        rw [hparts] at ih
        cases hkeep : keep c with
        | false => simp [hkeep, ih]
        | true => simp [hkeep, splitOn_cons, hc, ih]

theorem segments_filter (hslash : keep '/' = true) (path : List Char) :
    segments (path.filter keep) = (segments path).map (List.filter keep) := by
  rw [segments, splitOn_filter hslash, segments, List.map_tail]

end Filter

/-! ## Dot segments -/

/-- A dot segment. -/
def IsDot (s : Segment) : Prop := s = ['.'] ∨ s = ['.', '.']

instance (s : Segment) : Decidable (IsDot s) :=
  inferInstanceAs (Decidable (s = ['.'] ∨ s = ['.', '.']))

/-- The removal of dot segments, with the segments kept so far. -/
def removeDotSegments : List Segment → List Segment → List Segment
  | kept, [] => kept
  | kept, [s] =>
    if s = ['.'] then kept ++ [[]]
    else if s = ['.', '.'] then kept.dropLast ++ [[]]
    else kept ++ [s]
  | kept, s :: t :: rest =>
    if s = ['.'] then removeDotSegments kept (t :: rest)
    else if s = ['.', '.'] then removeDotSegments kept.dropLast (t :: rest)
    else removeDotSegments (kept ++ [s]) (t :: rest)

/-- A segment that is no dot segment is kept. -/
theorem removeDotSegments_cons (h : ¬IsDot s) (kept segs : List Segment) :
    removeDotSegments kept (s :: segs) = removeDotSegments (kept ++ [s]) segs := by
  have hone : s ≠ ['.'] := fun heq => h (.inl heq)
  have htwo : s ≠ ['.', '.'] := fun heq => h (.inr heq)
  cases segs with
  | nil => simp only [removeDotSegments, if_neg hone, if_neg htwo]
  | cons t rest => rw [removeDotSegments, if_neg hone, if_neg htwo]

/-- A path without dot segments is left as it is. -/
theorem removeDotSegments_of_not_isDot (h : ∀ s ∈ segs, ¬IsDot s) :
    removeDotSegments kept segs = kept ++ segs := by
  induction segs generalizing kept with
  | nil => simp [removeDotSegments]
  | cons s segs ih =>
    obtain ⟨hs, hsegs⟩ := List.forall_mem_cons.mp h
    rw [removeDotSegments_cons hs, ih hsegs, List.append_assoc, List.singleton_append]

theorem length_removeDotSegments_le (kept segs : List Segment) :
    (removeDotSegments kept segs).length ≤ kept.length + segs.length := by
  induction segs generalizing kept with
  | nil => simp [removeDotSegments]
  | cons s segs ih =>
    by_cases hdot : IsDot s
    · cases segs with
      | nil =>
        rcases hdot with rfl | rfl
        · simp [removeDotSegments]
        · simp [removeDotSegments]
      | cons t rest =>
        rcases hdot with rfl | rfl
        · have := ih kept
          rw [removeDotSegments, if_pos rfl, List.length_cons]
          omega
        · have := ih kept.dropLast
          rw [List.length_dropLast] at this
          rw [removeDotSegments, if_neg (by decide), if_pos rfl, List.length_cons]
          omega
    · have := ih (kept ++ [s])
      rw [List.length_append, List.length_singleton] at this
      rw [removeDotSegments_cons hdot, List.length_cons]
      omega

/-- A removal that leaves as many segments, and none of them empty, has found no dot segment: each
one in the middle costs a segment, and one at the end leaves an empty segment. -/
theorem not_isDot_of_length (hempty : [] ∉ removeDotSegments kept segs)
    (hlength : (removeDotSegments kept segs).length = kept.length + segs.length) :
    ∀ s ∈ segs, ¬IsDot s := by
  induction segs generalizing kept with
  | nil => simp
  | cons s segs ih =>
    by_cases hdot : IsDot s
    · exfalso
      cases segs with
      | nil => rcases hdot with rfl | rfl <;> simp [removeDotSegments] at hempty
      | cons t rest =>
        rcases hdot with rfl | rfl
        · rw [removeDotSegments, if_pos rfl] at hlength
          have := length_removeDotSegments_le kept (t :: rest)
          simp only [List.length_cons] at this hlength
          omega
        · rw [removeDotSegments, if_neg (by decide), if_pos rfl] at hlength
          have := length_removeDotSegments_le kept.dropLast (t :: rest)
          simp only [List.length_cons, List.length_dropLast] at this hlength
          omega
    · rw [removeDotSegments_cons hdot] at hempty hlength
      refine List.forall_mem_cons.mpr ⟨hdot, ih hempty ?_⟩
      rw [hlength, List.length_append, List.length_singleton, List.length_cons]
      omega

/-- Dot segments that do not follow one another take at most the last of the segments that were
kept before. -/
theorem prefix_kept {segs : List Segment} (hapart : segs.IsChain fun s t => IsDot s → ¬IsDot t)
    (kept : List Segment) (s : Segment) : kept <+: removeDotSegments (kept ++ [s]) segs := by
  match segs with
  | [] => exact List.prefix_append _ _
  | [t] =>
    by_cases hdot : IsDot t
    · rcases hdot with rfl | rfl
      · simp [removeDotSegments]
      · simp [removeDotSegments]
    · rw [removeDotSegments_cons hdot, removeDotSegments, List.append_assoc]
      exact List.prefix_append _ _
  | t :: u :: rest =>
    have hrest : (u :: rest).IsChain fun s t => IsDot s → ¬IsDot t := List.IsChain.tail hapart
    by_cases hdot : IsDot t
    · rcases hdot with rfl | rfl
      · rw [removeDotSegments, if_pos rfl]
        exact prefix_kept hrest kept s
      · -- two dots take `s`, and what follows them is kept in its place
        have hu : ¬IsDot u := (List.isChain_cons_cons.mp hapart).1 (.inr rfl)
        rw [removeDotSegments, if_neg (by decide), if_pos rfl, List.dropLast_concat,
          removeDotSegments_cons hu]
        exact prefix_kept hrest.tail kept u
    · rw [removeDotSegments_cons hdot]
      exact (List.prefix_append kept [s]).trans (prefix_kept hrest (kept ++ [s]) t)

/-! ## Templates -/

/-- A segment of a template. -/
inductive Part where
  | fixed (text : Segment)
  | identifier
  deriving DecidableEq

/-- The segments that a segment of a template stands for. -/
def Part.Accepts : Part → Segment → Prop
  | fixed text, s => s = text
  | identifier, s => s ≠ []

instance (part : Part) (s : Segment) : Decidable (part.Accepts s) :=
  match part with
  | .fixed text => inferInstanceAs (Decidable (s = text))
  | .identifier => inferInstanceAs (Decidable (s ≠ []))

/-- A segment of a template: a name in braces stands for an identifier. -/
def partOf (s : Segment) : Part := if s.head? = some '\x7b' then .identifier else .fixed s

/-- The segments of a template. -/
def parts (template : String) : List Part := (segments template.toList).map partOf

/-- The path of the target is that of the template after the removal of dot segments, with one
segment that is not empty for each identifier. -/
def LeadsTo (template : String) (target : List Char) : Prop :=
  target.head? = some '/' ∧
    List.Forall₂ Part.Accepts (parts template) (removeDotSegments [] (segments (pathOf target)))

/-- A fixed segment is not empty, and no dot segment. -/
def Part.Plain : Part → Prop
  | fixed text => text ≠ [] ∧ ¬IsDot text ∧ '/' ∉ text ∧ text.all isPathChar
  | identifier => True

instance (part : Part) : Decidable part.Plain :=
  match part with
  | .fixed text =>
    inferInstanceAs (Decidable (text ≠ [] ∧ ¬IsDot text ∧ '/' ∉ text ∧ text.all isPathChar))
  | .identifier => inferInstanceAs (Decidable True)

/-- A template with identifiers in place of the names. -/
def fill : List Part → List Segment → List Segment
  | [], _ => []
  | .fixed text :: template, ids => text :: fill template ids
  | .identifier :: template, ids => ids.headD [] :: fill template ids.tail

section Templates

variable {template : List Part} {ids : List Segment}

theorem nil_not_mem_of_accepts (hplain : ∀ part ∈ template, part.Plain)
    (h : List.Forall₂ Part.Accepts template segs) : [] ∉ segs := by
  induction h with
  | nil => exact List.not_mem_nil
  | @cons part s template segs haccepts _ ih =>
    obtain ⟨hpart, hplain⟩ := List.forall_mem_cons.mp hplain
    rw [List.mem_cons, not_or]
    refine ⟨?_, ih hplain⟩
    cases part with
    | fixed text =>
      cases haccepts
      exact hpart.1.symm
    | identifier => exact Ne.symm haccepts

/-- When a path of the length of a template is one after the removal. -/
theorem accepts_removeDotSegments_iff (hplain : ∀ part ∈ template, part.Plain)
    (hlength : segs.length = template.length) :
    List.Forall₂ Part.Accepts template (removeDotSegments [] segs) ↔
      List.Forall₂ Part.Accepts template segs ∧ ∀ s ∈ segs, ¬IsDot s := by
  constructor
  · intro h
    have hdots := not_isDot_of_length (nil_not_mem_of_accepts hplain h)
      (by rw [← h.length_eq, hlength, List.length_nil, Nat.zero_add])
    rw [removeDotSegments_of_not_isDot hdots, List.nil_append] at h
    exact ⟨h, hdots⟩
  · rintro ⟨h, hdots⟩
    rw [removeDotSegments_of_not_isDot hdots]
    exact h

/-- A target with a path that a template accepts leads to it when no segment is a dot segment. -/
theorem leadsTo_iff_of_accepts {template : String} {target : List Char}
    (hplain : ∀ part ∈ parts template, part.Plain) (hhead : target.head? = some '/')
    (h : List.Forall₂ Part.Accepts (parts template) (segments (pathOf target))) :
    LeadsTo template target ↔ ∀ s ∈ segments (pathOf target), ¬IsDot s := by
  rw [LeadsTo, accepts_removeDotSegments_iff hplain h.length_eq.symm]
  exact ⟨fun hleads => hleads.2.2, fun hdots => ⟨hhead, h, hdots⟩⟩

/-- As many identifiers as the template has names make a path of it. -/
theorem accepts_fill (hcount : ids.length = template.count .identifier)
    (hids : ∀ id ∈ ids, id ≠ []) : List.Forall₂ Part.Accepts template (fill template ids) := by
  induction template generalizing ids with
  | nil => exact .nil
  | cons part template ih =>
    cases part with
    | fixed text => exact .cons rfl (ih (by simpa using hcount) hids)
    | identifier =>
      cases ids with
      | nil => simp at hcount
      | cons id ids =>
        obtain ⟨hid, hids⟩ := List.forall_mem_cons.mp hids
        exact .cons hid (ih (by simpa using hcount) hids)

/-- What holds of the fixed segments holds of the path when it does of the identifiers. -/
theorem forall_mem_fill_iff {P : Segment → Prop} (hfixed : ∀ text, .fixed text ∈ template → P text)
    (hcount : ids.length = template.count .identifier) :
    (∀ s ∈ fill template ids, P s) ↔ ∀ id ∈ ids, P id := by
  induction template generalizing ids with
  | nil =>
    rw [List.count_nil, List.length_eq_zero_iff] at hcount
    subst hcount
    exact Iff.rfl
  | cons part template ih =>
    have hrest : ∀ text, .fixed text ∈ template → P text := fun text ht =>
      hfixed text (List.mem_cons_of_mem _ ht)
    cases part with
    | fixed text =>
      rw [fill, List.forall_mem_cons, ih hrest (by simpa using hcount)]
      exact and_iff_right (hfixed text List.mem_cons_self)
    | identifier =>
      cases ids with
      | nil => simp at hcount
      | cons id ids =>
        rw [fill, List.forall_mem_cons, List.tail_cons, ih hrest (by simpa using hcount),
          List.headD_cons, List.forall_mem_cons]

/-- A target that was made from a template begins with a slash. -/
theorem head?_joined_fill (hne : template ≠ []) (ids : List Segment) (rest : List Char) :
    (joined (fill template ids) ++ rest).head? = some '/' := by
  cases template with
  | nil => exact absurd rfl hne
  | cons part template =>
    cases part with
    | fixed text => rfl
    | identifier => rfl

theorem segments_fill (hplain : ∀ part ∈ template, part.Plain)
    (hcount : ids.length = template.count .identifier) (hids : ∀ id ∈ ids, '/' ∉ id) :
    segments (joined (fill template ids)) = fill template ids := by
  refine segments_joined ((forall_mem_fill_iff (fun text ht => ?_) hcount).mpr hids)
  exact (hplain _ ht).2.2.1

theorem isPathChar_of_mem_fill (hplain : ∀ part ∈ template, part.Plain)
    (hcount : ids.length = template.count .identifier) (hids : ∀ id ∈ ids, id.all isPathChar) :
    ∀ c ∈ joined (fill template ids), isPathChar c = true := by
  have hsegs : ∀ s ∈ fill template ids, s.all isPathChar :=
    (forall_mem_fill_iff (fun text ht => (hplain _ ht).2.2.2) hcount).mpr hids
  intro c hc
  rcases mem_joined hc with rfl | ⟨s, hs, hc⟩
  · rfl
  · exact List.all_eq_true.mp (hsegs s hs) c hc

/-- The path of a target that was made from a template. -/
theorem segments_pathOf_fill {rest : List Char} (hplain : ∀ part ∈ template, part.Plain)
    (hcount : ids.length = template.count .identifier)
    (hids : ∀ id ∈ ids, id ≠ [] ∧ '/' ∉ id ∧ id.all isPathChar)
    (hrest : ∀ c, rest.head? = some c → isPathChar c = false) :
    segments (pathOf (joined (fill template ids) ++ rest)) = fill template ids := by
  have hpath := isPathChar_of_mem_fill hplain hcount fun id hid => (hids id hid).2.2
  rw [pathOf_append hpath hrest, segments_fill hplain hcount fun id hid => (hids id hid).2.1]

/-- A target that was made from a template leads to it when no identifier is a dot segment. -/
theorem leadsTo_fill_iff {template : String} {ids : List Segment} {rest : List Char}
    (hplain : ∀ part ∈ parts template, part.Plain)
    (hcount : ids.length = (parts template).count .identifier) (hparts : parts template ≠ [])
    (hids : ∀ id ∈ ids, id ≠ [] ∧ '/' ∉ id ∧ id.all isPathChar)
    (hrest : ∀ c, rest.head? = some c → isPathChar c = false) :
    LeadsTo template (joined (fill (parts template) ids) ++ rest) ↔ ∀ id ∈ ids, ¬IsDot id := by
  have haccepts := accepts_fill hcount fun id hid => (hids id hid).1
  have hsegments := segments_pathOf_fill hplain hcount hids hrest
  rw [leadsTo_iff_of_accepts hplain (head?_joined_fill hparts ids rest) (by rwa [hsegments]),
    hsegments]
  exact forall_mem_fill_iff (fun text ht => (hplain _ ht).2.1) hcount

end Templates

/-! ## Templates and characters that are left out -/

section Filter

variable {keep : Char → Bool}

/-- In the segment of a fixed text nothing is left out. -/
def Part.Keeps (keep : Char → Bool) (part : Part) (s : Segment) : Prop :=
  part ≠ .identifier → ∀ c ∈ s, keep c = true

theorem Part.accepts_iff_keeps {part : Part} (h : part.Accepts (s.filter keep)) :
    part.Accepts s ↔ part.Keeps keep s := by
  cases part with
  | fixed text =>
    change s.filter keep = text at h
    change s = text ↔ _
    rw [Part.Keeps, ← h, eq_comm, List.filter_eq_self]
    exact ⟨fun hkeep _ => hkeep, fun hkeep => hkeep nofun⟩
  | identifier =>
    refine iff_of_true ?_ fun hne => absurd rfl hne
    rintro rfl
    exact h rfl

theorem accepts_iff_keeps {template : List Part}
    (h : List.Forall₂ Part.Accepts template (segs.map (List.filter keep))) :
    List.Forall₂ Part.Accepts template segs ↔ List.Forall₂ (Part.Keeps keep) template segs := by
  rw [List.forall₂_map_right_iff] at h
  induction h with
  | nil => exact iff_of_true .nil .nil
  | cons hpart _ ih =>
    rw [List.forall₂_cons, List.forall₂_cons, Part.accepts_iff_keeps hpart, ih]

/-- A dot segment stands for an identifier. -/
theorem eq_identifier_of_isDot {part : Part} (hdot : keep '.' = true) (hplain : part.Plain)
    (h : part.Accepts (s.filter keep)) (hs : IsDot s) : part = .identifier := by
  have hsame : s.filter keep = s := by
    rcases hs with rfl | rfl
    · simp [hdot]
    · simp [hdot]
  cases part with
  | fixed text =>
    change s.filter keep = text at h
    rw [hsame] at h
    exact absurd (h ▸ hs) hplain.2.1
  | identifier => rfl

/-- Where no two identifiers stand next to each other, no two dot segments do. -/
theorem isChain_of_accepts {template : List Part} (hdot : keep '.' = true)
    (hplain : ∀ part ∈ template, part.Plain)
    (hapart : template.IsChain fun p q => p = .identifier → q ≠ .identifier)
    (h : List.Forall₂ Part.Accepts template (segs.map (List.filter keep))) :
    segs.IsChain fun s t => IsDot s → ¬IsDot t := by
  rw [List.forall₂_map_right_iff] at h
  induction h with
  | nil => exact .nil
  | cons hfirst hrest ih =>
    cases hrest with
    | nil => exact .singleton _
    | cons hsecond hrest =>
      obtain ⟨hp, hq, -⟩ := by simpa only [List.forall_mem_cons] using hplain
      refine List.isChain_cons_cons.mpr ⟨fun hs ht => ?_, ih (fun part hpart => ?_) hapart.tail⟩
      · exact (List.isChain_cons_cons.mp hapart).1 (eq_identifier_of_isDot hdot hp hfirst hs)
          (eq_identifier_of_isDot hdot hq hsecond ht)
      · exact hplain part (List.mem_cons_of_mem _ hpart)

/-- What a reader that leaves characters out takes for the path of a template is one when nothing
was left out in a fixed text, and no segment is a dot segment. -/
theorem leadsTo_iff_of_filter {template : String} {target : List Char}
    (hplain : ∀ part ∈ parts template, part.Plain) (hhead : target.head? = some '/')
    (h : List.Forall₂ Part.Accepts (parts template)
      ((segments (pathOf target)).map (List.filter keep))) :
    LeadsTo template target ↔
      List.Forall₂ (Part.Keeps keep) (parts template) (segments (pathOf target)) ∧
        ∀ s ∈ segments (pathOf target), ¬IsDot s := by
  have hlength := h.length_eq
  rw [List.length_map] at hlength
  rw [LeadsTo, accepts_removeDotSegments_iff hplain hlength.symm, accepts_iff_keeps h]
  exact and_iff_right hhead

/-- Two segments of which all was left out are too many in front of a path: dot segments take at
most the second of them. -/
theorem not_leadsTo_of_blank {template : String} {target : List Char} {a b : Segment}
    (hne : parts template ≠ []) (hdot : keep '.' = true) (hplain : ∀ part ∈ parts template, part.Plain)
    (hapart : (parts template).IsChain fun p q => p = .identifier → q ≠ .identifier)
    (hfirst : (parts template).head? ≠ some .identifier)
    (hsegments : segments (pathOf target) = a :: b :: segs) (ha : a.filter keep = [])
    (hb : b.filter keep = [])
    (h : List.Forall₂ Part.Accepts (parts template) (segs.map (List.filter keep))) :
    ¬LeadsTo template target := by
  have hblank : ∀ s : Segment, s.filter keep = [] → ¬IsDot s := by
    intro s hs
    rintro (rfl | rfl)
    · simp [hdot] at hs
    · simp [hdot] at hs
  have hprefix := prefix_kept (isChain_of_accepts hdot hplain hapart h) [a] b
  rw [← removeDotSegments_cons (hblank b hb), ← List.nil_append [a],
    ← removeDotSegments_cons (hblank a ha), ← hsegments] at hprefix
  obtain ⟨rest, hrest⟩ := hprefix
  rintro ⟨-, hleads⟩
  rw [← hrest] at hleads
  cases hparts : parts template with
  | nil => exact hne hparts
  | cons part template =>
    rw [hparts] at hleads h hfirst hplain
    obtain ⟨s, kept, hs, -, hmap⟩ := List.forall₂_cons_left_iff.mp h
    cases part with
    | identifier => exact hfirst rfl
    | fixed text =>
      -- the text is what was kept of a segment, so nothing is left out of it
      obtain ⟨t, -, rfl⟩ := List.mem_map.mp (hmap ▸ List.mem_cons_self)
      have hsame : text.filter keep = text := by
        rw [← show t.filter keep = text from hs, List.filter_filter]
        simp
      have htext : a = text := (List.forall₂_cons.mp hleads).1
      rw [htext, hsame] at ha
      exact (hplain _ List.mem_cons_self).1 ha

end Filter

end PathSegments
