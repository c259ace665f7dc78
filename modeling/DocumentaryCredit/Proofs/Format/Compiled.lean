/-
What formats that are compiled have in common: there is at least one component, and every component takes at least
one character, so that none of its segments is empty. A repeated component has at least one line.
-/
import DocumentaryCredit.Proofs.Format.Ends
import DocumentaryCredit.Proofs.Format.Grammar

namespace DocumentaryCredit

/-- The component takes at least one character, on at least one line. -/
structure Component.TakesSome (c : Component) : Prop where
  minLength : 0 < c.minLength
  maxLength : 0 < c.maxLength
  lineLimit : 0 < c.lineLimit

/-- A segment of such a component is not empty. -/
theorem Component.IsSegment.start_lt {c : Component} {value : List Char} {start stop : Nat} (hc : c.TakesSome)
    (h : c.IsSegment value start stop) : start < stop := by
  unfold IsSegment at h
  split at h
  · have := h.least
    have := hc.maxLength
    omega
  · have := h.least
    have := hc.minLength
    omega
  · obtain ⟨_, _, _, h⟩ := h
    exact h.start_lt

namespace Format

variable {spec : String} {format : Format} {components : List Component} {item : Item} {text : List Char}
  {d d' : Draft} {position : Nat}

theorem Part.takesSome {shape : Shape} (h : shape.Spelled text) (separator : Separator) (group : Option Nat) :
    (Part.component group ⟨separator, shape⟩).TakesSome := by
  cases h with
  | fixed hn => exact ⟨hn.pos, hn.pos, by simp [Part.component, Component.lineLimit]⟩
  | upTo hn => exact ⟨by simp [Part.component], hn.pos, by simp [Part.component, Component.lineLimit]⟩
  | linesBefore hlines hwidth => exact ⟨by simp [Part.component], hwidth.pos, hlines.pos⟩
  | linesBehind hlines hwidth => exact ⟨by simp [Part.component], hwidth.pos, hlines.pos⟩
  | longDate | shortDate => constructor <;> simp [Part.component, Component.lineLimit]

namespace Draft

/-- Only a component adds to the components of a draft, and it adds one. -/
theorem components_add (h : d.add position item = .ok d') : d'.components = d.components ∨
    ∃ shape separator group, item = .component shape ∧
      d'.components = d.components ++ [Part.component group ⟨separator, shape⟩] := by
  cases item with
  | openGroup =>
    obtain ⟨-, rfl⟩ := openGroup_eq_ok_iff.1 h
    exact .inl rfl
  | closeGroup =>
    obtain ⟨-, -, -, -, rfl⟩ := closeGroup_eq_ok_iff.1 h
    exact .inl rfl
  | separator s =>
    obtain ⟨-, -, rfl⟩ := addSeparator_eq_ok_iff.1 h
    exact .inl rfl
  | component shape =>
    cases h
    exact .inr ⟨shape, _, _, rfl, rfl⟩

/-- With an item in it, a draft has a component, or a separator or a group waits for one. -/
theorem started_of_add (hvalid : d.Valid) (h : d.add position item = .ok d') :
    d'.components ≠ [] ∨ d'.pending ≠ none ∨ d'.group ≠ none := by
  cases item with
  | openGroup =>
    obtain ⟨-, rfl⟩ := openGroup_eq_ok_iff.1 h
    exact .inr (.inr (by simp))
  | closeGroup =>
    obtain ⟨group, hgroup, hfilled, -, rfl⟩ := closeGroup_eq_ok_iff.1 h
    refine .inl fun (hempty : d.components = []) => hfilled ?_
    have := hvalid.group group hgroup
    simp only [hempty, List.length_nil] at this ⊢
    omega
  | separator s =>
    obtain ⟨-, -, rfl⟩ := addSeparator_eq_ok_iff.1 h
    exact .inr (.inl (by simp))
  | component shape =>
    cases h
    exact .inl (by simp [addComponent])

theorem finish_eq_ok_iff : d.finish = .ok components ↔
    d.components = components ∧ d.pending = none ∧ d.group = none := by
  unfold finish
  split <;> simp_all

end Draft

/-- One item is read, and the reading goes on behind it. -/
theorem exists_item_of_readItems {c : Char} {rest : List Char} (h : readItems d position (c :: rest) = .ok components) :
    ∃ item text d' more, Item.Spelled item text ∧ d.add position item = .ok d' ∧ more.length ≤ rest.length ∧
      readItems d' (position + text.length) more = .ok components := by
  rw [readItems] at h
  split at h
  · cases h
  next item n hscan =>
  split at h
  · cases h
  next d' hadd =>
  obtain ⟨text, -, rfl, hitem, -⟩ := begins_of_scanItem hscan
  have hshorter : (rest.drop (text.length - 1)).length ≤ rest.length := by simp
  exact ⟨item, text, d', _, hitem, hadd, hshorter, h⟩

/-- What every item keeps of a draft is kept up to its end. -/
theorem exists_finish_of_readItems {P : Draft → Prop}
    (hstep : ∀ {d d' : Draft} {item text position}, P d → Item.Spelled item text → d.add position item = .ok d' → P d')
    {cs : List Char} {d : Draft} {position : Nat} (hd : P d) (h : readItems d position cs = .ok components) :
    ∃ d', P d' ∧ d'.finish = .ok components := by
  cases hcs : cs with
  | nil =>
    rw [hcs, readItems] at h
    exact ⟨d, hd, h⟩
  | cons c rest =>
    rw [hcs] at h
    obtain ⟨item, text, d', more, hitem, hadd, hshorter, h⟩ := exists_item_of_readItems h
    exact exists_finish_of_readItems hstep (hstep hd hitem hadd) h
termination_by cs.length
decreasing_by simp only [hcs, List.length_cons]; omega

theorem readItems_of_compile (h : compile spec = .ok format) :
    spec.toList ≠ [] ∧ readItems {} 0 spec.toList = .ok format.components := by
  unfold compile at h
  split at h
  · cases h
  · next hempty =>
    obtain ⟨components, hcomponents, rfl⟩ := Except.map_eq_ok_iff.1 h
    exact ⟨fun hnil => hempty (String.isEmpty_iff.2 (String.toList_eq_nil_iff.1 hnil)), hcomponents⟩

/-- **No component of a compiled format is empty.** -/
theorem takesSome_of_compile (h : compile spec = .ok format) : ∀ c ∈ format.components, c.TakesSome := by
  have hstep : ∀ {d d' : Draft} {item text position}, (∀ c ∈ d.components, c.TakesSome) → Item.Spelled item text →
      d.add position item = .ok d' → ∀ c ∈ d'.components, c.TakesSome := by
    intro d d' item text position hd hitem hadd c hc
    obtain hsame | ⟨shape, separator, group, rfl, hmore⟩ := Draft.components_add hadd
    · exact hd c (hsame ▸ hc)
    · simp only [hmore, List.mem_append, List.mem_singleton] at hc
      obtain hc | rfl := hc
      · exact hd c hc
      · cases hitem with
        | component hshape => exact Part.takesSome hshape separator group
  obtain ⟨d, hd, hfinish⟩ := exists_finish_of_readItems hstep (by simp) (readItems_of_compile h).2
  rw [← (Draft.finish_eq_ok_iff.1 hfinish).1]
  exact hd

/-- **A compiled format has components.** -/
theorem components_ne_nil_of_compile (h : compile spec = .ok format) : format.components ≠ [] := by
  obtain ⟨hne, hread⟩ := readItems_of_compile h
  obtain ⟨c, rest, hspec⟩ := List.exists_cons_of_ne_nil hne
  rw [hspec] at hread
  obtain ⟨item, text, d, more, hitem, hadd, -, hread⟩ := exists_item_of_readItems hread
  have hvalid : Draft.Valid {} := ⟨nofun, nofun, nofun⟩
  have hstep : ∀ {d d' : Draft} {item text position},
      (d.Valid ∧ (d.components ≠ [] ∨ d.pending ≠ none ∨ d.group ≠ none)) → Item.Spelled item text →
      d.add position item = .ok d' → d'.Valid ∧ (d'.components ≠ [] ∨ d'.pending ≠ none ∨ d'.group ≠ none) := by
    intro d d' item text position hd hitem hadd
    exact ⟨hd.1.add hitem.ne_none hadd, Draft.started_of_add hd.1 hadd⟩
  obtain ⟨d', ⟨-, hstarted⟩, hfinish⟩ := exists_finish_of_readItems hstep
    ⟨hvalid.add hitem.ne_none hadd, Draft.started_of_add hvalid hadd⟩ hread
  obtain ⟨hcomponents, hpending, hgroup⟩ := Draft.finish_eq_ok_iff.1 hfinish
  simpa [hcomponents, hpending, hgroup] using hstarted

end Format

end DocumentaryCredit
