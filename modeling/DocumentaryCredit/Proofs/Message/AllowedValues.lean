/-
What the allowed values of a field are compared with. Where the format has several components it is the first segment,
and of all the segments that the first component could have in a value, the search finds the longest
(`Format.OpensLongest`). An allowed code with an optional part behind it is therefore refused where the component of the
code can be read on into that part, and never where it must end with the code.
-/
import DocumentaryCredit.Proofs.Format.BlockText
import DocumentaryCredit.Proofs.Message.Field

namespace DocumentaryCredit

/-! ## First segments -/

/-- Some decomposition of the value has this span for its first component. -/
def Format.Opens (format : Format) (value : List Char) (s : Span) : Prop :=
  ∃ rest, format.Decomposition value (some s :: rest)

/-- Of all spans that the first component has in some decomposition, this one reaches furthest. -/
structure Format.OpensLongest (format : Format) (value : List Char) (s : Span) : Prop where
  opens : format.Opens value s
  longest : ∀ t, format.Opens value t → t.stop ≤ s.stop

/-- A segment of the component that ends at `stop` cannot be read on: its length is fixed, or the character behind it is
neither admitted nor a line break before another line. -/
def Component.StopsAt (c : Component) (value : List Char) (stop : Nat) : Prop :=
  c.extent = .fixed ∨
    ∀ ch, value[stop]? = some ch → c.charset.admits ch = false ∧ (c.extent = .repeated → ch ≠ '\n')

section
variable {format : Format} {value : List Char} {s t : Span}

theorem Format.Opens.exists_mem_head? (h : format.Opens value s) : ∃ c, c ∈ format.components.head? := by
  obtain ⟨rest, h⟩ := h
  have hlen := h.walk.length_eq
  cases hcomponents : format.components with
  | nil => simp [hcomponents] at hlen
  | cons c => exact ⟨c, rfl⟩

theorem Format.Opens.isSegment {c : Component} (h : format.Opens value s) (hc : c ∈ format.components.head?) :
    c.separator.Takes value 0 s.start ∧ c.IsSegment value s.start s.stop := by
  obtain ⟨rest, h⟩ := h
  obtain ⟨others, hcomponents⟩ := List.head?_eq_some_iff.1 hc
  have hwalk := h.walk
  rw [hcomponents] at hwalk
  cases hwalk with
  | present htakes hseg _ => exact ⟨htakes, hseg⟩

/-- The first segment starts at the same place in all decompositions that have one. -/
theorem Format.Opens.start_eq (h : format.Opens value s) (h' : format.Opens value t) : s.start = t.start := by
  obtain ⟨c, hc⟩ := h.exists_mem_head?
  exact (h.isSegment hc).1.start_eq (h'.isSegment hc).1

/-- The first decomposition has a first segment if any has one, and no other one reaches further. -/
theorem Format.FirstDecomposition.exists_cons {spans : List (Option Span)} (h : format.FirstDecomposition value spans)
    (ht : format.Opens value t) : ∃ s rest, spans = some s :: rest ∧ t.stop ≤ s.stop := by
  have hopens := ht
  obtain ⟨others, hother⟩ := ht
  have hlen := h.decomposition.walk.length_eq.trans hother.walk.length_eq.symm
  rcases h.first _ hother with heq | hbefore
  · exact ⟨t, others, heq.symm, Nat.le_refl _⟩
  cases hbefore with
  | nil => simp at hlen
  | cons => exact ⟨t, _, rfl, Nat.le_refl _⟩
  | rel htried =>
    cases htried with
    | longer hlonger =>
      have := Opens.start_eq ⟨_, h.decomposition⟩ hopens
      exact ⟨_, _, rfl, by omega⟩

theorem Format.FirstDecomposition.opensLongest {spans : List (Option Span)} (h : format.FirstDecomposition value spans)
    (ht : format.Opens value t) : ∃ s rest, spans = some s :: rest ∧ format.OpensLongest value s := by
  obtain ⟨s, rest, rfl, -⟩ := h.exists_cons ht
  refine ⟨s, rest, rfl, ⟨rest, h.decomposition⟩, fun u hu => ?_⟩
  obtain ⟨s', rest', hspans, hle⟩ := h.exists_cons hu
  cases hspans
  exact hle

/-- A first segment that cannot be read on is the longest one. -/
theorem Format.Opens.opensLongest {c : Component} (h : format.Opens value s) (hc : c ∈ format.components.head?)
    (hstops : c.StopsAt value s.stop) : format.OpensLongest value s := by
  refine ⟨h, fun t ht => ?_⟩
  by_contra hlt
  have hstart := h.start_eq ht
  have hseg := (h.isSegment hc).2
  have hseg' := (ht.isSegment hc).2
  have hle := hseg.start_le
  obtain hfixed | hbehind := hstops
  · simp only [Component.IsSegment, hfixed] at hseg hseg'
    have := hseg.least
    have := hseg'.greatest
    omega
  · obtain ⟨ch, hget, hadm⟩ | ⟨hextent, hbreak, -⟩ := hseg'.getElem? (i := s.stop) (by omega) (by omega)
    · rw [(hbehind ch hget).1] at hadm
      cases hadm
    · exact (hbehind _ hbreak).2 hextent rfl

/-- Two spans of the first component that both reach furthest are the same. -/
theorem Format.OpensLongest.unique (h : format.OpensLongest value s) (h' : format.OpensLongest value t) : s = t := by
  have hstart := h.opens.start_eq h'.opens
  have hstop := Nat.le_antisymm (h'.longest s h.opens) (h.longest t h'.opens)
  cases s
  cases t
  simp_all

end

/-! ## The check of allowed values -/

/-- The value of a field is reported as none of the allowed ones. -/
def FieldDefinition.Disallows (d : FieldDefinition) (format : Format) (raw : String) : Prop :=
  (d.validate format (some raw)).failure.map (·.kind) = some .invalidEnumValue

/-- The text of a span. -/
def Span.text (s : Span) (value : String) : String := String.ofList (s.slice value.toList)

section
variable {d : FieldDefinition} {format : Format} {allowed : TextSet} {raw value : String}

theorem FieldDefinition.disallows_iff (hallowed : d.allowedValues = some allowed)
    (hvalue : Text.normalizeLineBreaks raw = value) : d.Disallows format raw ↔ Text.isBlank raw = false ∧
      ∃ spans, format.matchSpans value = .ok spans ∧ canonicalSegment format spans value ∉ allowed.elements := by
  unfold Disallows
  rw [failure_validate, failure?, Option.filter_some]
  cases Text.isBlank raw with
  | true => cases d.isMandatory <;> simp [FieldFailure.kind]
  | false =>
    simp only [Bool.not_false, if_true, true_and, hvalue]
    cases format.matchSpans value with
    | error cause => simp [FieldFailure.kind]
    | ok spans =>
      by_cases hmem : canonicalSegment format spans value ∈ allowed.elements
      · have hfilter : (some allowed).filter (!·.contains (canonicalSegment format spans value)) = none := by
          simp [TextSet.contains, hmem]
        have hrules : (d.rules.findSome? (·.failure? spans value)).map (·.kind) ≠ some .invalidEnumValue := by
          intro h
          obtain ⟨failure, hfailure, hkind⟩ := Option.map_eq_some_iff.1 h
          obtain ⟨rule, -, hrule⟩ := List.exists_of_findSome?_eq_some hfailure
          rw [FieldRule.kind_of_failure? hrule] at hkind
          cases hkind
        simp only [hallowed, hfilter]
        exact iff_of_false hrules (by simp [hmem])
      · have hfilter : (some allowed).filter (!·.contains (canonicalSegment format spans value)) = some allowed := by
          simp [TextSet.contains, hmem]
        simp [hallowed, hfilter, hmem, FieldFailure.kind]

/-- A value that some decomposition opens with a segment is matched, and the longest such segment is found. -/
theorem Format.Opens.exists_matchSpans {s : Span} (h : format.Opens value.toList s) : ∃ longest rest,
    format.matchSpans value = .ok (some longest :: rest) ∧ format.OpensLongest value.toList longest := by
  have hne : format.components ≠ [] := by
    obtain ⟨c, hc⟩ := h.exists_mem_head?
    exact fun hnil => by simp [hnil] at hc
  obtain ⟨spans, hspans⟩ := (exists_matchSpans_iff hne value).2 ⟨_, h.choose_spec⟩
  obtain ⟨longest, rest, rfl, hlongest⟩ := (firstDecomposition_of_matchSpans hne hspans).opensLongest h
  exact ⟨longest, rest, hspans, hlongest⟩

/-- Where there is one component without a separator, its segment is the whole value. -/
theorem Format.Opens.text_eq {c : Component} {s : Span} (h : format.Opens value.toList s)
    (hsingle : format.isComposite = false) (hc : c ∈ format.components.head?) (hsep : c.separator = .none) :
    s.text value = value := by
  obtain ⟨rest, h⟩ := h
  obtain ⟨others, hcomponents⟩ := List.head?_eq_some_iff.1 hc
  obtain rfl : others = [] := by simpa [Format.isComposite, hcomponents] using hsingle
  have hwalk := h.walk
  rw [hcomponents] at hwalk
  cases hwalk with
  | present htakes _ hrest =>
    rw [hsep] at htakes
    cases htakes
    cases hrest
    simp [Span.text, Span.slice]

/-- **An allowed code at the start of a value** is compared as far as its component can be read: where there are several
components, the value is refused exactly when the longest first segment is not allowed, and where there is one, when
the whole value is not. So it is never refused when the component must end with the code, whatever follows it. -/
theorem FieldDefinition.disallows_iff_of_opens {code : Span} (hallowed : d.allowedValues = some allowed)
    (hvalue : Text.normalizeLineBreaks raw = value) (hopens : format.Opens value.toList code)
    (hcode : code.text value ∈ allowed.elements) :
    (format.isComposite = true → ∃ longest, format.OpensLongest value.toList longest ∧
      (d.Disallows format raw ↔ Text.isBlank raw = false ∧ longest.text value ∉ allowed.elements)) ∧
    (format.isComposite = false →
      (d.Disallows format raw ↔ Text.isBlank raw = false ∧ value ∉ allowed.elements)) ∧
    ∀ c ∈ format.components.head?, (format.isComposite = false → c.separator = .none) →
      c.StopsAt value.toList code.stop → ¬ d.Disallows format raw := by
  obtain ⟨longest, rest, hmatch, hlongest⟩ := hopens.exists_matchSpans
  have hrefused : d.Disallows format raw ↔ Text.isBlank raw = false ∧
      canonicalSegment format (some longest :: rest) value ∉ allowed.elements := by
    rw [disallows_iff hallowed hvalue]
    simp [hmatch]
  have hcomposite : format.isComposite = true → canonicalSegment format (some longest :: rest) value = longest.text value := by
    intro h
    simp [canonicalSegment, h, Format.segment?, Span.text]
  have hsingle : format.isComposite = false → canonicalSegment format (some longest :: rest) value = value := by
    intro h
    simp [canonicalSegment, h]
  refine ⟨fun h => ⟨longest, hlongest, hcomposite h ▸ hrefused⟩, fun h => hsingle h ▸ hrefused, ?_⟩
  intro c hc hsep hstops hdisallows
  refine (hrefused.1 hdisallows).2 ?_
  cases h : format.isComposite with
  | true => rwa [hcomposite h, hlongest.unique (hopens.opensLongest hc hstops)]
  | false => rwa [hsingle h, ← hopens.text_eq h hc (hsep h)]

/-- The days of a period and the text behind them: the component of the days cannot take the slash. -/
theorem FieldDefinition.not_disallows_period : ∃ format, Format.compile "3n[/35x]" = .ok format ∧
    ¬ Disallows ⟨"48", "Period for Presentation", "3n[/35x]", false, 1, some (.ofList ["21"]), 1, []⟩ format
      "21/DAYS" := by
  have hspec : Format.compile "3n[/35x]" = .ok ⟨"3n[/35x]", [
      ⟨.variable, .numeric, 1, 3, none, .none, none⟩,
      ⟨.variable, .freeText, 1, 35, none, .slash, some 0⟩]⟩ := by decide +kernel
  have hvalue : Text.normalizeLineBreaks "21/DAYS" = "21/DAYS" := Text.normalizeLineBreaks_eq_self (by decide)
  have hopens : Format.Opens ⟨"3n[/35x]", [⟨.variable, .numeric, 1, 3, none, .none, none⟩,
      ⟨.variable, .freeText, 1, 35, none, .slash, some 0⟩]⟩ "21/DAYS".toList ⟨0, 2⟩ :=
    ⟨[some ⟨3, 7⟩], Format.decomposition_of_matchSpans rfl⟩
  have hcode : Span.text ⟨0, 2⟩ "21/DAYS" ∈ (TextSet.ofList ["21"]).elements := by decide +kernel
  refine ⟨_, hspec, (disallows_iff_of_opens rfl hvalue hopens hcode).2.2 _ rfl nofun (.inr ?_)⟩
  intro ch hch
  obtain rfl : '/' = ch := by simpa using hch
  exact ⟨rfl, nofun⟩

/-- The narrative behind an allowed code is short enough to be read as a part of it, and the same code with a longer
narrative is allowed. -/
theorem FieldDefinition.disallows_short_narrative : ∃ format, Format.compile "30x[/35x]" = .ok format ∧
    format.Opens "UCP LATEST VERSION/ISBP 821".toList ⟨0, 18⟩ ∧
    Span.text ⟨0, 18⟩ "UCP LATEST VERSION/ISBP 821" = "UCP LATEST VERSION" ∧
    Disallows ⟨"40E", "Applicable Rules", "30x[/35x]", true, 6, some (.ofList ["UCP LATEST VERSION"]), 1, []⟩ format
      "UCP LATEST VERSION/ISBP 821" ∧
    ¬ Disallows ⟨"40E", "Applicable Rules", "30x[/35x]", true, 6, some (.ofList ["UCP LATEST VERSION"]), 1, []⟩ format
      "UCP LATEST VERSION/ISBP 821 AND ISBP 745" := by
  have hspec : Format.compile "30x[/35x]" = .ok ⟨"30x[/35x]", [
      ⟨.variable, .freeText, 1, 30, none, .none, none⟩,
      ⟨.variable, .freeText, 1, 35, none, .slash, some 0⟩]⟩ := by decide +kernel
  refine ⟨_, hspec, ⟨[some ⟨19, 27⟩], ?_, ?_⟩, by decide +kernel, ?_, ?_⟩
  · have hcode : Component.IsSegment ⟨.variable, .freeText, 1, 30, none, .none, none⟩
        "UCP LATEST VERSION/ISBP 821".toList 0 18 := (Component.mem_ends_iff.1 (by decide +kernel)).2
    have hnarrative : Component.IsSegment ⟨.variable, .freeText, 1, 35, none, .slash, some 0⟩
        "UCP LATEST VERSION/ISBP 821".toList 19 27 := (Component.mem_ends_iff.1 (by decide +kernel)).2
    exact .present (.none 0) hcode (.present (.slash rfl) hnarrative (.done 27))
  · simp [WholeGroups, SameFate, Component.isOptional]
  · unfold Disallows
    decide +kernel
  · unfold Disallows
    decide +kernel

end

end DocumentaryCredit
