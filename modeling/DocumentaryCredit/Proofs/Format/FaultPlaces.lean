/-
Where the reading of a specification stops. A specification that is not compiled is refused with a place in it and a
text. Main statement: the place lies in the specification, and the text is what is written there, except that a line
break is shown in one way however it is written; and what stands before the place could still have become a specification.

Most faults are found where the reading stands, but a separator that no component follows and a bracket that is not
closed are named by the places noted of them. The reading is therefore followed with all its places (`Reached`).
-/
import DocumentaryCredit.Proofs.Format.Grammar

namespace DocumentaryCredit

namespace Format

/-- A line break stands at the front of a text, in one of the ways in which a specification writes it. -/
def BreaksLine (rest : List Char) : Prop := ∃ text, (Item.separator .newline).Spelled text ∧ text <+: rest

theorem not_breaksLine_nil : ¬ BreaksLine [] := by
  rintro ⟨_, hbreak, htext⟩
  exact hbreak.ne_nil (List.prefix_nil.1 htext)

/-- What is shown of a text from a place on: the line break that stands there, or else some characters as they are. -/
inductive Shows (rest : List Char) : String → Prop where
  | lineBreak (h : BreaksLine rest) : Shows rest "\\n"
  | asWritten {text : List Char} (hline : ¬ BreaksLine rest) (h : text <+: rest) : Shows rest (String.ofList text)

/-- Some specification that is compiled begins with the text. -/
def Viable (front : List Char) : Prop := ∃ spec format, compile spec = .ok format ∧ front <+: spec.toList

end Format

/-- The error names a place of the specification, and what stands there. -/
structure FormatError.PlacedIn (e : FormatError) (spec : List Char) : Prop where
  position_le : e.position ≤ spec.length
  shows : Format.Shows (spec.drop e.position) e.token
  token_ne : spec ≠ [] → e.token ≠ ""
  viable : Format.Viable (spec.take e.position)

namespace Format

section Places

variable {spec cs rest text : List Char} {item : Item} {d d' : Draft} {position i : Nat} {snag : Snag}
  {token : String} {fault : FormatFault} {e : FormatError}

/-! ## Items that are shown -/

/-- The text by which an error names an item, if it does. -/
def Item.sign? : Item → Option String
  | .openGroup => some "["
  | .closeGroup => some "]"
  | .separator s => some s.toText
  | .component _ => none

theorem Item.Spelled.shows (hitem : item.Spelled text) (htext : text <+: rest) (hsign : item.sign? = some token) :
    Shows rest token ∧ token ≠ "" := by
  obtain ⟨more, rfl⟩ := htext
  cases hitem with
  | component => cases hsign
  | openGroup | closeGroup | slash =>
    cases hsign
    refine ⟨.asWritten ?_ (List.prefix_append _ _), by decide⟩
    rintro ⟨_, hbreak, others, heq⟩
    cases hbreak <;> simp at heq
  | lineFeed => cases hsign; exact ⟨.lineBreak ⟨_, .lineFeed, List.prefix_append _ _⟩, by decide⟩
  | carriageReturn => cases hsign; exact ⟨.lineBreak ⟨_, .carriageReturn, List.prefix_append _ _⟩, by decide⟩
  | escape => cases hsign; exact ⟨.lineBreak ⟨_, .escape, List.prefix_append _ _⟩, by decide⟩

/-! ## Faults within an item -/

theorem lt_shown_of_scanNumber (h : scanNumber cs i = .error snag) (hdigit : digitAt cs i = true) : i < snag.shown := by
  have hpos : 0 < ((cs.drop i).takeWhile Text.isDigit).length := by
    cases hcs : cs.drop i with
    | nil => simp [digitAt, getElem?_of_drop hcs] at hdigit
    | cons c more =>
      have hc : Text.isDigit c = true := by simpa [digitAt, getElem?_of_drop hcs] using hdigit
      rw [List.takeWhile_cons_of_pos hc]
      exact Nat.succ_pos _
  unfold scanNumber at h
  simp only at h
  split at h
  · cases h
    dsimp only
    omega
  split at h
  · cases h
    dsimp only
    omega
  · cases h

theorem shown_of_scanCharset (h : scanCharset cs i = .error snag) : snag.shown = i + 1 := by
  unfold scanCharset at h
  split at h <;> cases h
  rfl

theorem shown_of_linesShape {set : Charset} {lines width : Nat} (h : linesShape set lines width i = .error snag) :
    snag.shown = i := by
  unfold linesShape at h
  split at h <;> cases h
  rfl

/-- At least the digit is shown with which a component starts. -/
theorem shown_pos_of_scanLength (h : scanLength cs = .error snag) (hdigit : digitAt cs 0 = true) : 0 < snag.shown := by
  unfold scanLength at h
  obtain hfirst | ⟨⟨first, i⟩, -, h⟩ := Except.bind_eq_error_iff.1 h
  · exact lt_shown_of_scanNumber hfirst hdigit
  simp only at h
  split at h
  · split at h
    · cases h
      exact Nat.succ_pos _
    next hguard =>
    obtain hwidth | ⟨⟨width, j⟩, -, h⟩ := Except.bind_eq_error_iff.1 h
    · exact Nat.zero_lt_of_lt (lt_shown_of_scanNumber hwidth (by simpa using hguard))
    simp only at h
    split at h
    · cases h
      exact Nat.succ_pos _
    obtain hset | ⟨⟨set, k⟩, hset, h⟩ := Except.bind_eq_error_iff.1 h
    · rw [shown_of_scanCharset hset]
      exact Nat.succ_pos _
    · obtain ⟨-, -, -, rfl⟩ := scanCharset_eq_ok_iff.1 hset
      rw [shown_of_linesShape h]
      exact Nat.succ_pos _
  obtain hset | ⟨⟨set, j⟩, -, h⟩ := Except.bind_eq_error_iff.1 h
  · rw [shown_of_scanCharset hset]
    exact Nat.succ_pos _
  simp only at h
  split at h
  · split at h
    · cases h
      exact Nat.succ_pos _
    split at h
    · cases h
      exact Nat.succ_pos _
    next hguard =>
    obtain hlines | ⟨⟨lines, k⟩, hlines, h⟩ := Except.bind_eq_error_iff.1 h
    · exact Nat.zero_lt_of_lt (lt_shown_of_scanNumber hlines (by simpa using hguard))
    · obtain ⟨_, -, rfl, -⟩ := exists_of_scanNumber hlines
      rw [shown_of_linesShape h]
      omega
  · split at h <;> cases h

theorem not_breaksLine_of_scanItem (h : scanItem cs = .error snag) : ¬ BreaksLine cs := by
  rintro ⟨text, hbreak, more, rfl⟩
  cases hbreak <;> cases h

theorem shown_pos_of_scanItem (h : scanItem cs = .error snag) (hne : cs ≠ []) : 0 < snag.shown := by
  unfold scanItem at h
  split at h
  case h_7 =>
    have h := Except.map_eq_error_iff.1 h
    unfold scanDate at h
    split at h
    · cases h
    split at h <;> cases h
    exact Nat.succ_pos _
  case h_8 =>
    split at h
    · next hdigit => exact shown_pos_of_scanLength (Except.map_eq_error_iff.1 h) (by simpa [digitAt] using hdigit)
    · cases h
      exact Nat.succ_pos _
  case h_9 => exact absurd rfl hne
  all_goals cases h

/-! ## What stands before a place -/

/-- A date completes every draft, with a bracket behind it where a group is open. -/
theorem Draft.Valid.exists_readItems (hvalid : d.Valid) (position : Nat) :
    ∃ more components, readItems d position ('Y' :: more) = .ok components := by
  let shape : Shape := ⟨.fixed, .date, 6, 6, none⟩
  let dated := d.addComponent shape
  have hdate (rest : List Char) :
      readItems d position ("YYMMDD".toList ++ rest) = readItems dated (position + 6) rest := by
    have hscan : scanItem ("YYMMDD".toList ++ rest) = .ok (.component shape, "YYMMDD".toList.length) := rfl
    exact readItems_of_add (by decide) hscan rfl
  cases hgroup : d.group with
  | none =>
    have hfinish : dated.finish = .ok dated.components := by simp [dated, finish, addComponent, hgroup]
    refine ⟨"YMMDD".toList, dated.components, (hdate []).trans ?_⟩
    rw [readItems, hfinish]
  | some g =>
    have hfirst : dated.components.length ≠ g.first := by
      have := hvalid.group g hgroup
      simp only [dated, addComponent, List.length_append, List.length_cons]
      omega
    have hclose : dated.add (position + 6) .closeGroup = .ok { dated with group := none } :=
      closeGroup_eq_ok_iff.2 ⟨g, hgroup, hfirst, rfl, rfl⟩
    have hbracket : readItems dated (position + 6) ([']'] ++ []) = _ := readItems_of_add (by simp) rfl hclose
    refine ⟨"YMMDD]".toList, dated.components, (hdate [']']).trans (hbracket.trans ?_)⟩
    rw [readItems]
    rfl

/-- An item stands at a place, and what is before it could become a specification. -/
structure Stands (spec : List Char) (item : Item) (position : Nat) : Prop where
  position_le : position ≤ spec.length
  spelled : ∃ text, item.Spelled text ∧ text <+: spec.drop position
  viable : Viable (spec.take position)

theorem Stands.placedIn (h : Stands spec item position) (hsign : item.sign? = some token) :
    (FormatError.mk token position fault).PlacedIn spec := by
  obtain ⟨text, hitem, htext⟩ := h.spelled
  obtain ⟨hshows, hne⟩ := hitem.shows htext hsign
  exact ⟨h.position_le, hshows, fun _ => hne, h.viable⟩

/-- The reading has come to a place, and the draft keeps places of what stands there. -/
structure Reached (spec : List Char) (d : Draft) (position : Nat) : Prop where
  valid : d.Valid
  position_le : position ≤ spec.length
  /-- Behind what has been read so far anything else may follow that does not carry on its last item. -/
  resumes : ∃ last, Apart last (spec.drop position) ∧ ∀ more, Apart last more → more.head? ≠ some '*' →
    readItems {} 0 (spec.take position ++ more) = readItems d position more
  pending : ∀ p ∈ d.pending, Stands spec (.separator p.1) p.2
  group : ∀ g ∈ d.group, Stands spec .openGroup g.position

namespace Reached

theorem start (spec : List Char) : Reached spec {} 0 where
  valid := ⟨nofun, nofun, nofun⟩
  position_le := Nat.zero_le _
  resumes := ⟨[], nofun, fun _ _ _ => rfl⟩
  pending := nofun
  group := nofun

theorem viable (h : Reached spec d position) : Viable (spec.take position) := by
  obtain ⟨last, -, hresumes⟩ := h.resumes
  obtain ⟨more, components, hmore⟩ := h.valid.exists_readItems position
  have hread : readItems {} 0 (spec.take position ++ 'Y' :: more) = .ok components := by
    rw [hresumes _ (fun _ _ _ d hd => by cases hd; decide) (by simp), hmore]
  refine ⟨.ofList (spec.take position ++ 'Y' :: more), ⟨.ofList (spec.take position ++ 'Y' :: more), components⟩,
    ?_, ?_⟩
  · rw [compile, if_neg (by simp), String.toList_ofList, hread]
    rfl
  · rw [String.toList_ofList]
    exact List.prefix_append _ _

theorem stands (h : Reached spec d position) (hitem : item.Spelled text) (htext : text <+: spec.drop position) :
    Stands spec item position :=
  ⟨h.position_le, ⟨text, hitem, htext⟩, h.viable⟩

/-- The places that a draft keeps are those it kept before, or that of the item added last. -/
theorem stands_add (h : Reached spec d position) (hitem : item.Spelled text) (htext : text <+: spec.drop position)
    (hadd : d.add position item = .ok d') :
    (∀ p ∈ d'.pending, Stands spec (.separator p.1) p.2) ∧ ∀ g ∈ d'.group, Stands spec .openGroup g.position := by
  have hstands := h.stands hitem htext
  cases item with
  | openGroup =>
    obtain ⟨-, rfl⟩ := Draft.openGroup_eq_ok_iff.1 hadd
    refine ⟨h.pending, ?_⟩
    rintro g ⟨⟩
    exact hstands
  | closeGroup =>
    obtain ⟨-, -, -, -, rfl⟩ := Draft.closeGroup_eq_ok_iff.1 hadd
    exact ⟨h.pending, nofun⟩
  | separator s =>
    obtain ⟨-, -, rfl⟩ := Draft.addSeparator_eq_ok_iff.1 hadd
    refine ⟨?_, h.group⟩
    rintro p ⟨⟩
    exact hstands
  | component =>
    cases hadd
    exact ⟨nofun, h.group⟩

/-- An item that is added takes the reading to the place behind it. -/
theorem add (h : Reached spec d position) (hitem : item.Spelled text) (htext : spec.drop position = text ++ rest)
    (hapart : Apart text rest) (hadd : d.add position item = .ok d') : Reached spec d' (position + text.length) where
  valid := h.valid.add hitem.ne_none hadd
  position_le := by
    have hlength := congrArg List.length htext
    rw [List.length_drop, List.length_append] at hlength
    have := h.position_le
    omega
  resumes := by
    obtain ⟨last, hlast, hresumes⟩ := h.resumes
    refine ⟨text, by rwa [drop_of_drop htext], fun more hmore hstar => ?_⟩
    -- The item before sees of what follows it the first character only, and that is one of this item.
    have hlast' : Apart last (text ++ more) := by
      obtain ⟨c, others, rfl⟩ := List.exists_cons_of_ne_nil hitem.ne_nil
      rw [htext] at hlast
      exact hlast
    calc readItems {} 0 (spec.take (position + text.length) ++ more)
        = readItems {} 0 (spec.take position ++ (text ++ more)) := by
          rw [List.take_add, htext, List.take_left, List.append_assoc]
      _ = readItems d position (text ++ more) := hresumes _ hlast' hitem.head?_ne_star
      _ = readItems d' (position + text.length) more :=
          readItems_of_add hitem.ne_nil (scanItem_of_spelled hitem hmore hstar) hadd
  pending := (h.stands_add hitem ⟨rest, htext.symm⟩ hadd).1
  group := (h.stands_add hitem ⟨rest, htext.symm⟩ hadd).2

/-! ## Errors -/

theorem placedIn_dangling (h : Reached spec d position) {p : Separator × Nat} (hp : d.pending = some p) :
    (Draft.dangling p).PlacedIn spec :=
  (h.pending p hp).placedIn rfl

theorem placedIn_of_finish (h : Reached spec d position) (herror : d.finish = .error e) : e.PlacedIn spec := by
  unfold Draft.finish at herror
  split at herror
  · next g hgroup =>
    cases herror
    exact (h.group g hgroup).placedIn rfl
  · next p hpending =>
    cases herror
    exact h.placedIn_dangling hpending
  · cases herror

theorem placedIn_of_add (h : Reached spec d position) (hitem : item.Spelled text) (htext : text <+: spec.drop position)
    (hadd : d.add position item = .error e) : e.PlacedIn spec := by
  have hstands := h.stands hitem htext
  cases item with
  | openGroup =>
    simp only [Draft.add, Draft.openGroup] at hadd
    split at hadd <;> cases hadd
    exact hstands.placedIn rfl
  | closeGroup =>
    simp only [Draft.add, Draft.closeGroup] at hadd
    split at hadd
    · cases hadd
      exact hstands.placedIn rfl
    split at hadd
    · cases hadd
      exact hstands.placedIn rfl
    split at hadd <;> cases hadd
    next p hpending => exact h.placedIn_dangling hpending
  | separator s =>
    simp only [Draft.add, Draft.addSeparator] at hadd
    split at hadd
    · cases hadd
      exact hstands.placedIn rfl
    split at hadd <;> cases hadd
    exact hstands.placedIn rfl
  | component => cases hadd

theorem placedIn_of_scanItem (h : Reached spec d position) (hne : spec.drop position ≠ [])
    (hscan : scanItem (spec.drop position) = .error snag) :
    (FormatError.mk (String.ofList ((spec.drop position).take snag.shown)) position snag.fault).PlacedIn spec := by
  have hshown := shown_pos_of_scanItem hscan hne
  have htoken : String.ofList ((spec.drop position).take snag.shown) ≠ "" := by
    rw [Ne, String.ofList_eq_empty_iff, List.take_eq_nil_iff]
    exact not_or.2 ⟨hshown.ne', hne⟩
  exact ⟨h.position_le, .asWritten (not_breaksLine_of_scanItem hscan) (List.take_prefix _ _), fun _ => htoken, h.viable⟩

/-- The error of a reading that has come to a place is one of the specification. -/
theorem placedIn {d : Draft} {position : Nat} (h : Reached spec d position)
    (herror : readItems d position (spec.drop position) = .error e) : e.PlacedIn spec := by
  cases hcs : spec.drop position with
  | nil =>
    rw [hcs, readItems] at herror
    exact h.placedIn_of_finish herror
  | cons c more =>
    cases hscan : scanItem (spec.drop position) with
    | error snag =>
      have hplaced := h.placedIn_of_scanItem (by simp [hcs]) hscan
      rw [hcs] at hscan herror hplaced
      rw [readItems, hscan] at herror
      cases herror
      exact hplaced
    | ok found =>
      obtain ⟨item, n⟩ := found
      obtain ⟨text, htext, rfl, hitem, hapart⟩ := begins_of_scanItem hscan
      have hshorter : spec.length - (position + text.length) < spec.length - position := by
        have hpos := List.length_pos_of_ne_nil hitem.ne_nil
        have hlength := congrArg List.length hcs
        rw [List.length_drop, List.length_cons] at hlength
        omega
      rw [htext] at hscan herror
      rw [readItems_append hitem.ne_nil hscan, List.drop_drop] at herror
      obtain hadd | ⟨d', hadd, herror⟩ := Except.bind_eq_error_iff.1 herror
      · exact h.placedIn_of_add hitem ⟨_, htext.symm⟩ hadd
      · exact (h.add hitem htext hapart hadd).placedIn herror
termination_by spec.length - position
decreasing_by exact hshorter

end Reached

end Places

/-- **The error of a specification that is not compiled names its place.** The place lies in the specification, what
stands before it begins some specification that is compiled, and the text is what stands there: a line break, however
it is written, is shown as an escape, and anything else as it is. -/
theorem placedIn_of_compile {spec : String} {e : FormatError} (h : compile spec = .error e) :
    e.PlacedIn spec.toList := by
  unfold compile at h
  split at h
  · next hempty =>
    obtain rfl := String.isEmpty_iff.1 hempty
    cases h
    exact ⟨le_rfl, .asWritten not_breaksLine_nil (List.prefix_refl []), fun hne => absurd rfl hne,
      (Reached.start []).viable⟩
  · exact (Reached.start spec.toList).placedIn (Except.map_eq_error_iff.1 h)

/-- A line break behind a slash, which is two characters of the specification and two others of the error. -/
theorem placedIn_of_compile_lineBreak :
    compile "35x/\r\n4*35x" = .error ⟨"\\n", 4, .consecutiveSeparators⟩ ∧
      (FormatError.mk "\\n" 4 .consecutiveSeparators).PlacedIn "35x/\r\n4*35x".toList := by
  have herror : compile "35x/\r\n4*35x" = .error ⟨"\\n", 4, .consecutiveSeparators⟩ := by decide +kernel
  exact ⟨herror, placedIn_of_compile herror⟩

end Format

end DocumentaryCredit
