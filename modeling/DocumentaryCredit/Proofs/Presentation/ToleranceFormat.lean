/-
The tolerance of a credit has two readers: the format `2n/2n` of its field, and the reader of the comparison, which
knows nothing of formats and passes over what it cannot read. Main statement: they accept the same texts, and the
percentages are the numbers in the two segments of the match (`parseTolerance?_eq_some_iff_segments`).
-/
import DocumentaryCredit.Proofs.Format.SingleLine
import DocumentaryCredit.Proofs.Presentation.CreditAmount

namespace DocumentaryCredit

open Text

/-- Two components that are always there, with a slash between them, cut a value around the slash. -/
theorem walk_slash_iff {value : List Char} {c d : Component} {spans : List (Option Span)} {q : Nat}
    (hc : c.group = none ∧ c.separator = .none) (hd : d.group = none ∧ d.separator = .slash) :
    Walk value 0 [c, d] spans q ↔ ∃ cut, spans = [some ⟨0, cut⟩, some ⟨cut + 1, q⟩] ∧ c.IsSegment value 0 cut ∧
      value[cut]? = some '/' ∧ d.IsSegment value (cut + 1) q := by
  constructor
  · intro h
    cases h with
    | absent hopt _ => simp [Component.isOptional, hc.1] at hopt
    | present hsep hseg h =>
    cases h with
    | absent hopt _ => simp [Component.isOptional, hd.1] at hopt
    | present hsep' hseg' h =>
    cases h with
    | done =>
    rw [hc.2] at hsep
    rw [hd.2] at hsep'
    cases hsep
    cases hsep' with
    | slash hslash => exact ⟨_, rfl, hseg, hslash, hseg'⟩
  · rintro ⟨cut, rfl, hseg, hslash, hseg'⟩
    exact .present (hc.2 ▸ .none 0) hseg (.present (hd.2 ▸ .slash hslash) hseg' (.done q))

/-- The characters from `start` up to `stop` are one digit or two. -/
theorem isSegment_percentage_iff {separator : Separator} {value : List Char} {start stop : Nat}
    (hstop : stop ≤ value.length) :
    (Component.upTo .numeric 2 separator none).IsSegment value start stop ↔
      start ≤ stop ∧ IsPercentage (Span.slice ⟨start, stop⟩ value) := by
  have hlength : start ≤ stop → (Span.slice ⟨start, stop⟩ value).length = stop - start := by
    intro hle
    rw [Span.slice, List.length_take, List.length_drop]
    exact Nat.min_eq_left (Nat.sub_le_sub_right hstop start)
  constructor
  · intro h
    have h : Component.IsRun _ value 1 2 start stop := h
    have hleast := h.least
    have hgreatest := h.greatest
    refine ⟨h.admits.1, ?_, h.admits.admits_of_mem_slice⟩
    rw [hlength h.admits.1]
    omega
  · rintro ⟨hle, hcount, hdigits⟩
    rw [hlength hle] at hcount
    refine ⟨⟨hle, fun i hi hlt => ?_⟩, show start + 1 ≤ stop by omega, show stop ≤ start + 2 by omega, rfl,
      fun htext => by cases htext⟩
    have hget : value[i]? = some value[i] := List.getElem?_eq_getElem (by omega)
    have hslice : (Span.slice ⟨start, stop⟩ value)[i - start]? = some value[i] := by
      rw [Span.slice, List.getElem?_take_of_lt (show i - start < stop - start by omega), List.getElem?_drop,
        Nat.add_sub_cancel' hi, hget]
    exact ⟨_, hget, hdigits _ (List.mem_of_getElem? hslice)⟩

/-- The format of tolerances: two numbers of one digit or two, with a slash between them. -/
def toleranceFormat : Format where
  spec := "2n/2n"
  components := [.upTo .numeric 2 .none none, .upTo .numeric 2 .slash none]

theorem compile_toleranceFormat : Format.compile "2n/2n" = .ok toleranceFormat := by decide +kernel

/-- The spans of two runs with a slash between them. -/
def aroundSlash (front behind : List Char) : List (Option Span) :=
  [some ⟨0, front.length⟩, some ⟨front.length + 1, front.length + 1 + behind.length⟩]

theorem slice_aroundSlash (front behind : List Char) :
    Span.slice ⟨0, front.length⟩ (front ++ '/' :: behind) = front ∧
      Span.slice ⟨front.length + 1, front.length + 1 + behind.length⟩ (front ++ '/' :: behind) = behind := by
  constructor
  · exact List.take_left
  · rw [Span.slice, ← List.drop_drop, List.drop_left, Nat.add_sub_cancel_left]
    exact List.take_length

/-- The format takes a value apart at its slash. -/
theorem decomposition_toleranceFormat_iff {value : List Char} {spans : List (Option Span)} :
    toleranceFormat.Decomposition value spans ↔ ∃ plus minus, value = plus ++ '/' :: minus ∧
      IsPercentage plus ∧ IsPercentage minus ∧ spans = aroundSlash plus minus := by
  have hwalk : Walk value 0 [.upTo .numeric 2 .none none, .upTo .numeric 2 .slash none] spans value.length ↔ _ :=
    walk_slash_iff ⟨rfl, rfl⟩ ⟨rfl, rfl⟩
  constructor
  · intro h
    obtain ⟨cut, rfl, hplus, hslash, hminus⟩ := hwalk.1 h.walk
    obtain ⟨hlt, hmark⟩ := List.getElem?_eq_some_iff.1 hslash
    have hfront : (value.take cut).length = cut := List.length_take_of_le hlt.le
    have hvalue : value = value.take cut ++ '/' :: value.drop (cut + 1) := by
      rw [← hmark, ← List.drop_eq_getElem_cons hlt, List.take_append_drop]
    have hrest : Span.slice ⟨cut + 1, value.length⟩ value = value.drop (cut + 1) := List.take_of_length_le (by simp)
    refine ⟨_, _, hvalue, ((isSegment_percentage_iff hlt.le).1 hplus).2, ?_, ?_⟩
    · rw [← hrest]
      exact ((isSegment_percentage_iff le_rfl).1 hminus).2
    · rw [aroundSlash, hfront, List.length_drop, Nat.add_sub_cancel' hlt]
  · rintro ⟨plus, minus, rfl, hplus, hminus, rfl⟩
    have hlength : (plus ++ '/' :: minus).length = plus.length + 1 + minus.length := by
      rw [List.length_append, List.length_cons]
      omega
    obtain ⟨hfront, hbehind⟩ := slice_aroundSlash plus minus
    refine ⟨hwalk.2 ⟨plus.length, by rw [aroundSlash, hlength], ?_, by simp, ?_⟩, ?_⟩
    · exact (isSegment_percentage_iff (by omega)).2 ⟨Nat.zero_le _, hfront.symm ▸ hplus⟩
    · rw [hlength]
      exact (isSegment_percentage_iff (by omega)).2 ⟨by omega, hbehind.symm ▸ hminus⟩
    · exact (List.isChain_pair).2 fun hopt => by cases hopt

/-- A text has the format when it is trimmed exactly if it states a tolerance, whose percentages are the segments. -/
theorem matchSpans_toleranceFormat_iff {raw : String} {spans : List (Option Span)} :
    toleranceFormat.matchSpans (trim raw) = .ok spans ↔
      ∃ plus minus, StatesTolerance raw plus minus ∧ spans = aroundSlash plus minus := by
  constructor
  · intro h
    obtain ⟨plus, minus, htext, hplus, hminus, hspans⟩ :=
      decomposition_toleranceFormat_iff.1 (Format.decomposition_of_matchSpans h)
    exact ⟨plus, minus, ⟨htext, hplus, hminus⟩, hspans⟩
  · rintro ⟨plus, minus, hstates, rfl⟩
    have hne : toleranceFormat.components ≠ [] := by simp [toleranceFormat]
    obtain ⟨spans, hmatch⟩ := (Format.exists_matchSpans_iff hne (trim raw)).2 ⟨_, decomposition_toleranceFormat_iff.2
      ⟨plus, minus, hstates.text, hstates.plus, hstates.minus, rfl⟩⟩
    obtain ⟨front, behind, htext, hfront, hbehind, rfl⟩ :=
      decomposition_toleranceFormat_iff.1 (Format.decomposition_of_matchSpans hmatch)
    -- A text has one first slash, so that it states one tolerance at most.
    have hsplit := hstates.takeWhile_eq
    have hsplit' := (StatesTolerance.mk htext hfront hbehind).takeWhile_eq
    obtain rfl : front = plus := hsplit'.1.symm.trans hsplit.1
    obtain rfl : behind = minus := (List.cons.inj (hsplit'.2.symm.trans hsplit.2)).2
    exact hmatch

theorem StatesTolerance.segment?_eq {raw : String} {plus minus : List Char} (h : StatesTolerance raw plus minus) :
    Format.segment? (trim raw) (aroundSlash plus minus) 0 = some (String.ofList plus) ∧
      Format.segment? (trim raw) (aroundSlash plus minus) 1 = some (String.ofList minus) := by
  obtain ⟨hplus, hminus⟩ := slice_aroundSlash plus minus
  rw [← h.text] at hplus hminus
  exact ⟨congrArg (some ∘ String.ofList) hplus, congrArg (some ∘ String.ofList) hminus⟩

/-- **Both readers of tolerances agree.** Whatever the text, the comparison reads a tolerance in it exactly if it has
the format `2n/2n` once it is trimmed, and the two percentages are then the numbers that the first and the second
segment of the match spell. -/
theorem parseTolerance?_eq_some_iff_segments : ∃ format, Format.compile "2n/2n" = .ok format ∧ ∀ raw : String,
    ((parseTolerance? raw).isSome ↔ ∃ spans, format.matchSpans (trim raw) = .ok spans) ∧
      ∀ t, parseTolerance? raw = some t ↔ ∃ spans plus minus, format.matchSpans (trim raw) = .ok spans ∧
        Format.segment? (trim raw) spans 0 = some plus ∧ Format.segment? (trim raw) spans 1 = some minus ∧
        t.plus.Spells plus.toList [] ∧ t.minus.Spells minus.toList [] := by
  refine ⟨toleranceFormat, compile_toleranceFormat, fun raw => ⟨?_, fun t => ?_⟩⟩
  · simp only [Option.isSome_iff_exists, matchSpans_toleranceFormat_iff]
    constructor
    · rintro ⟨t, hread⟩
      obtain ⟨plus, minus, hstates, -⟩ := parseTolerance?_eq_some_iff.1 hread
      exact ⟨_, plus, minus, hstates, rfl⟩
    · rintro ⟨_, plus, minus, hstates, -⟩
      obtain ⟨t, hread, -⟩ := hstates.exists_parseTolerance?
      exact ⟨t, hread⟩
  · simp only [parseTolerance?_eq_some_iff, matchSpans_toleranceFormat_iff]
    constructor
    · rintro ⟨plus, minus, hstates, ⟨hplus, hscale⟩, hminus, hscale'⟩
      obtain ⟨hfirst, hsecond⟩ := hstates.segment?_eq
      exact ⟨_, _, _, ⟨plus, minus, hstates, rfl⟩, hfirst, hsecond, ⟨by simpa using hplus, hscale⟩,
        ⟨by simpa using hminus, hscale'⟩⟩
    · rintro ⟨_, plus, minus, ⟨front, behind, hstates, rfl⟩, hfirst, hsecond, hplus, hminus⟩
      obtain ⟨hfront, hbehind⟩ := hstates.segment?_eq
      obtain rfl : String.ofList front = plus := Option.some.inj (hfront.symm.trans hfirst)
      obtain rfl : String.ofList behind = minus := Option.some.inj (hbehind.symm.trans hsecond)
      exact ⟨front, behind, hstates, ⟨by simpa using hplus.mantissa, hplus.scale⟩,
        by simpa using hminus.mantissa, hminus.scale⟩

end DocumentaryCredit
