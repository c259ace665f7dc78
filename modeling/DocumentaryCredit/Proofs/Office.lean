/-
An office: files that change, shelves with the rule books that were read from them, and validators. A validator is bound
to the rule book that is on a shelf at the time, and from then on shares the formats of the shelf. What a step answers
and does is said once (`Office.Effect`), and formats are of no account there. Main statement: in an office after any
steps each shelf has the rule book of the directory that was last read for it, each validator has the one that was on
its shelf when it was bound, and every answer is the one that is given with nothing compiled (`Office.orderly`).
-/
import DocumentaryCredit.Proofs.Message.Answers
import DocumentaryCredit.Proofs.Standards.Loading
import DocumentaryCredit.Session

namespace DocumentaryCredit

theorem getElem?_concat_cases {α : Type} {l : List α} {a b : α} {i : Nat} (h : (l ++ [a])[i]? = some b) :
    l[i]? = some b ∨ i = l.length ∧ a = b := by
  rw [List.getElem?_append] at h
  split at h
  · exact .inl h
  · obtain ⟨hi, heq⟩ := List.getElem?_eq_some_iff.1 h
    rw [List.length_singleton] at hi
    exact .inr ⟨by omega, by simpa using heq⟩

/-- Files, shelves, and validators, each with the number of the shelf whose formats it shares. -/
structure Office where
  tree : FileTree
  shelves : List Shelf := []
  validators : List (Nat × Validator) := []

namespace Office

/-- What happens in an office. Shelves and validators go by their numbers. -/
inductive Step where
  | write (path : String) (bytes : List UInt8)
  | remove (path : String)
  /-- The rule book of a directory is read, for a new shelf. -/
  | load (directory : String)
  /-- The rule book of a directory is read in place of the one on a shelf. -/
  | reload (shelf : Nat) (directory : String)
  /-- A new validator is bound to the rule book on a shelf. -/
  | bind (shelf : Nat)
  | ask (validator : Nat) (question : Question)
  /-- The format of a specification is asked for at a shelf. -/
  | lookUp (shelf : Nat) (spec : String)

/-- What is answered to a step. -/
inductive Answer where
  | done
  /-- There is no such shelf or validator. -/
  | absent
  | loaded (summary : Except StandardsError RuleBookSummary)
  | replied (reply : Except ValidatorError Reply)
  | found (format : Except FormatError Format)

/-- The session at a shelf, with a validator of what is on it. -/
def session (o : Office) (shelf : Shelf) : Session := ⟨o.tree, shelf, Session.validatorOf shelf⟩

/-- The office with a shelf as it is after a session. -/
def shelve (o : Office) (i : Nat) (shelf : Shelf) : Office := { o with shelves := o.shelves.set i shelf }

/-- Takes a step. -/
def step (o : Office) : Step → Answer × Office
  | .write path bytes => (.done, { o with tree := o.tree.put path bytes })
  | .remove path => (.done, { o with tree := o.tree.remove path })
  | .load directory =>
    match Session.start o.tree directory with
    | .ok (s, summary) => (.loaded (.ok summary), { o with shelves := o.shelves ++ [s.shelf] })
    | .error e => (.loaded (.error e), o)
  | .reload i directory =>
    match o.shelves[i]? with
    | none => (.absent, o)
    | some shelf =>
      let (answer, s) := (o.session shelf).reload directory
      (.loaded answer, o.shelve i s.shelf)
  | .bind i =>
    match o.shelves[i]? with
    | none => (.absent, o)
    | some shelf => (.done, { o with validators := o.validators ++ [(i, (o.session shelf).bind.validator)] })
  | .ask j question =>
    match o.validators[j]? with
    | none => (.absent, o)
    | some (i, v) =>
      match o.shelves[i]? with
      | none => (.absent, o)
      | some shelf =>
        let (answer, s) := { o.session shelf with validator := v }.ask question.ask
        (.replied answer, o.shelve i s.shelf)
  | .lookUp i spec =>
    match o.shelves[i]? with
    | none => (.absent, o)
    | some shelf =>
      let (answer, s) := (o.session shelf).compute fun formats => formats.getOrCompile spec
      (.found answer, o.shelve i s.shelf)

/-- The office after some steps, at first with nothing but files. -/
def after (tree : FileTree) (steps : List Step) : Office := steps.foldl (fun o step => (o.step step).2) { tree }

/-- What is answered to a step that follows others. -/
def answer (tree : FileTree) (steps : List Step) (step : Step) : Answer := ((after tree steps).step step).1

/-- The rule books on the shelves. -/
def books (o : Office) : List RuleBook := o.shelves.map (·.current)

theorem after_concat (tree : FileTree) (steps : List Step) (step : Step) :
    after tree (steps ++ [step]) = ((after tree steps).step step).2 := by
  simp [after]

/-! ## What a step does -/

section

variable {o o' : Office} {s : Step} {a : Answer} {i : Nat} {shelf : Shelf} {book : RuleBook}

/-- Formats come into the caches as they should, and each validator has its shelf. -/
structure Sound (o : Office) : Prop where
  reachable : ∀ shelf ∈ o.shelves, shelf.formats.Reachable
  hasShelf : ∀ entry ∈ o.validators, entry.1 < o.shelves.length

/-- There is no shelf or validator of the number that a step names. -/
def Lacks (o : Office) : Step → Prop
  | .reload i _ | .bind i | .lookUp i _ => o.shelves[i]? = none
  | .ask j _ => o.validators[j]? = none
  | .write .. | .remove _ | .load _ => False

/-- What is answered to a step, and the office after it. No formats are looked at but for what they are on a shelf
afterwards. -/
inductive Effect (o : Office) : Step → Answer → Office → Prop where
  | absent {s : Step} (h : o.Lacks s) : Effect o s .absent o
  | written (path : String) (bytes : List UInt8) :
    Effect o (.write path bytes) .done { o with tree := o.tree.put path bytes }
  | removed (path : String) : Effect o (.remove path) .done { o with tree := o.tree.remove path }
  | loaded {directory : String} {book : RuleBook} {summary : RuleBookSummary} {formats : FormatCache}
      (hload : (RuleBook.load o.tree directory {}).1 = .ok (book, summary)) (hformats : formats.Reachable) :
    Effect o (.load directory) (.loaded (.ok summary)) { o with shelves := o.shelves ++ [⟨book, formats⟩] }
  | refused {directory : String} {e : StandardsError} (hload : (RuleBook.load o.tree directory {}).1 = .error e) :
    Effect o (.load directory) (.loaded (.error e)) o
  | replaced {i : Nat} {shelf : Shelf} {directory : String} {book : RuleBook} {summary : RuleBookSummary}
      {formats : FormatCache} (hshelf : o.shelves[i]? = some shelf)
      (hload : (RuleBook.load o.tree directory {}).1 = .ok (book, summary)) (hformats : formats.Reachable) :
    Effect o (.reload i directory) (.loaded (.ok summary)) (o.shelve i ⟨book, formats⟩)
  | kept {i : Nat} {shelf : Shelf} {directory : String} {e : StandardsError} {formats : FormatCache}
      (hshelf : o.shelves[i]? = some shelf) (hload : (RuleBook.load o.tree directory {}).1 = .error e)
      (hformats : formats.Reachable) :
    Effect o (.reload i directory) (.loaded (.error e)) (o.shelve i ⟨shelf.current, formats⟩)
  | bound {i : Nat} {shelf : Shelf} (hshelf : o.shelves[i]? = some shelf) :
    Effect o (.bind i) .done { o with validators := o.validators ++ [(i, ⟨shelf.current⟩)] }
  | replied {j i : Nat} {v : Validator} {shelf : Shelf} {formats : FormatCache} (question : Question)
      (hbound : o.validators[j]? = some (i, v)) (hshelf : o.shelves[i]? = some shelf) (hformats : formats.Reachable) :
    Effect o (.ask j question) (.replied (question.ask v {}).1) (o.shelve i ⟨shelf.current, formats⟩)
  | found {i : Nat} {shelf : Shelf} {formats : FormatCache} (spec : String) (hshelf : o.shelves[i]? = some shelf)
      (hformats : formats.Reachable) :
    Effect o (.lookUp i spec) (.found (Format.compile spec)) (o.shelve i ⟨shelf.current, formats⟩)

theorem Sound.effect (h : o.Sound) (s : Step) : o.Effect s (o.step s).1 (o.step s).2 := by
  have hreachable : ∀ {i : Nat} {shelf : Shelf}, o.shelves[i]? = some shelf → shelf.formats.Reachable :=
    fun hshelf => h.reachable _ (List.mem_of_getElem? hshelf)
  cases s with
  | write path bytes => exact .written path bytes
  | remove path => exact .removed path
  | load directory =>
    have hformats := (RuleBook.steady_load o.tree directory {} .empty).2
    simp only [step, Session.start, Shelf.load, StateT.run, ExceptT.run]
    rcases hload : RuleBook.load o.tree directory {} with ⟨e | ⟨book, summary⟩, formats⟩
    · exact .refused (congrArg Prod.fst hload)
    · rw [hload] at hformats
      exact .loaded (congrArg Prod.fst hload) hformats
  | reload i directory =>
    cases hshelf : o.shelves[i]? with
    | none =>
      simp only [step, hshelf]
      exact .absent hshelf
    | some shelf =>
      obtain ⟨hload, hformats⟩ := RuleBook.steady_load o.tree directory shelf.formats (hreachable hshelf)
      simp only [step, hshelf, Session.reload, Shelf.reload, session, StateT.run, ExceptT.run]
      rcases hrun : RuleBook.load o.tree directory shelf.formats with ⟨e | ⟨book, summary⟩, formats⟩
      · rw [hrun] at hload hformats
        exact .kept hshelf hload.symm hformats
      · rw [hrun] at hload hformats
        exact .replaced hshelf hload.symm hformats
  | bind i =>
    cases hshelf : o.shelves[i]? with
    | none =>
      simp only [step, hshelf]
      exact .absent hshelf
    | some shelf =>
      simp only [step, hshelf]
      exact .bound hshelf
  | ask j question =>
    cases hbound : o.validators[j]? with
    | none =>
      simp only [step, hbound]
      exact .absent hbound
    | some entry =>
      obtain ⟨i, v⟩ := entry
      have hi := h.hasShelf _ (List.mem_of_getElem? hbound)
      have hshelf : o.shelves[i]? = some o.shelves[i] := List.getElem?_eq_getElem hi
      obtain ⟨hreply, hformats⟩ := question.steady_ask v o.shelves[i].formats (hreachable hshelf)
      have heffect := Effect.replied question hbound hshelf hformats
      -- the formats of the shelf answer as the empty cache does
      rw [← hreply] at heffect
      simp only [step, hbound, hshelf]
      exact heffect
  | lookUp i spec =>
    cases hshelf : o.shelves[i]? with
    | none =>
      simp only [step, hshelf]
      exact .absent hshelf
    | some shelf =>
      obtain ⟨hformat, hformats⟩ := (hreachable hshelf).getOrCompile spec
      have heffect := Effect.found spec hshelf hformats
      rw [← hformat] at heffect
      simp only [step, hshelf]
      exact heffect

theorem Sound.shelve (h : o.Sound) (hformats : shelf.formats.Reachable) : (o.shelve i shelf).Sound where
  reachable other hother := by
    rcases List.mem_or_eq_of_mem_set hother with hother | rfl
    · exact h.reachable other hother
    · exact hformats
  hasShelf entry hentry := by
    rw [Office.shelve, List.length_set]
    exact h.hasShelf entry hentry

theorem Effect.sound (h : o.Effect s a o') (ho : o.Sound) : o'.Sound := by
  cases h with
  | absent => exact ho
  | written => exact ⟨ho.reachable, ho.hasShelf⟩
  | removed => exact ⟨ho.reachable, ho.hasShelf⟩
  | @loaded _ book _ formats _ hformats =>
    refine ⟨fun shelf hshelf => ?_, fun entry hentry => ?_⟩
    · rcases List.mem_append.1 hshelf with hshelf | hshelf
      · exact ho.reachable shelf hshelf
      · rw [List.mem_singleton.1 hshelf]
        exact hformats
    · have := ho.hasShelf entry hentry
      simp only [List.length_append, List.length_singleton]
      omega
  | refused => exact ho
  | replaced _ _ hformats => exact ho.shelve hformats
  | kept _ _ hformats => exact ho.shelve hformats
  | @bound i shelf hshelf =>
    refine ⟨ho.reachable, fun entry hentry => ?_⟩
    rcases List.mem_append.1 hentry with hentry | hentry
    · exact ho.hasShelf entry hentry
    · rw [List.mem_singleton.1 hentry]
      exact (List.getElem?_eq_some_iff.1 hshelf).1
  | replied _ _ _ hformats => exact ho.shelve hformats
  | found _ _ hformats => exact ho.shelve hformats

theorem sound_after (tree : FileTree) (steps : List Step) : (after tree steps).Sound := by
  induction steps using List.reverseRecOn with
  | nil => exact ⟨by simp [after], by simp [after]⟩
  | append_singleton steps s ih =>
    rw [after_concat]
    exact (ih.effect s).sound ih

/-- What a step that follows others answers and does. -/
theorem effect_after (tree : FileTree) (steps : List Step) (s : Step) :
    (after tree steps).Effect s (answer tree steps s) (after tree (steps ++ [s])) := by
  rw [after_concat]
  exact (sound_after tree steps).effect s

/-! ## Rule books and validators -/

/-- A step, with its answer, puts the rule book of a directory on a shelf. -/
inductive Stocks (o : Office) (i : Nat) (directory : String) : Step → Answer → Prop where
  | load {summary : RuleBookSummary} (hi : i = o.shelves.length) :
    Stocks o i directory (.load directory) (.loaded (.ok summary))
  | reload {summary : RuleBookSummary} : Stocks o i directory (.reload i directory) (.loaded (.ok summary))

theorem books_shelve {formats : FormatCache} (hshelf : o.shelves[i]? = some shelf) :
    (o.shelve i ⟨shelf.current, formats⟩).books = o.books := by
  obtain ⟨hi, rfl⟩ := List.getElem?_eq_some_iff.1 hshelf
  rw [books, shelve, List.map_set, ← List.getElem_map Shelf.current (h := by simpa using hi), List.set_getElem_self]
  rfl

/-- What is on a shelf was put there by the step, or was there before and the step put nothing there. -/
theorem Effect.book_cases (h : o.Effect s a o') (hbook : o'.books[i]? = some book) :
    (∃ directory summary, o.Stocks i directory s a ∧
      (RuleBook.load o.tree directory {}).1 = .ok (book, summary)) ∨
    o.books[i]? = some book ∧ ∀ directory, ¬ o.Stocks i directory s a := by
  cases h with
  | absent => exact .inr ⟨hbook, nofun⟩
  | written => exact .inr ⟨hbook, nofun⟩
  | removed => exact .inr ⟨hbook, nofun⟩
  | @loaded directory book' summary formats hload =>
    simp only [books, List.map_append] at hbook
    rcases getElem?_concat_cases hbook with hold | ⟨rfl, rfl⟩
    · refine .inr ⟨hold, ?_⟩
      rintro _ ⟨rfl⟩
      simp at hold
    · exact .inl ⟨directory, summary, .load (List.length_map _), hload⟩
  | refused => exact .inr ⟨hbook, nofun⟩
  | @replaced i' shelf directory book' summary formats hshelf hload =>
    simp only [books, shelve, List.map_set] at hbook
    by_cases hi : i' = i
    · subst hi
      rw [List.getElem?_set_self (by simpa using (List.getElem?_eq_some_iff.1 hshelf).1)] at hbook
      cases hbook
      exact .inl ⟨directory, summary, .reload, hload⟩
    · rw [List.getElem?_set_ne hi] at hbook
      refine .inr ⟨hbook, ?_⟩
      rintro _ ⟨⟩
      exact hi rfl
  | kept hshelf =>
    rw [books_shelve hshelf] at hbook
    exact .inr ⟨hbook, nofun⟩
  | bound => exact .inr ⟨hbook, nofun⟩
  | replied _ _ hshelf =>
    rw [books_shelve hshelf] at hbook
    exact .inr ⟨hbook, nofun⟩
  | found _ hshelf =>
    rw [books_shelve hshelf] at hbook
    exact .inr ⟨hbook, nofun⟩

/-- What a reading puts on a shelf is there after it. -/
theorem Effect.exists_book (h : o.Effect s a o') {directory : String} (hstocks : o.Stocks i directory s a) :
    ∃ book summary, o'.books[i]? = some book ∧ (RuleBook.load o.tree directory {}).1 = .ok (book, summary) := by
  cases hstocks with
  | load hi =>
    subst hi
    cases h with
    | loaded hload => exact ⟨_, _, by simp [books], hload⟩
  | reload =>
    cases h with
    | replaced hshelf hload =>
      have hi := (List.getElem?_eq_some_iff.1 hshelf).1
      exact ⟨_, _, by simp [books, shelve, hi], hload⟩

/-- A validator was bound by the step, or was there before. -/
theorem Effect.validator_cases (h : o.Effect s a o') {j : Nat} {v : Validator}
    (hv : o'.validators[j]? = some (i, v)) : o.validators[j]? = some (i, v) ∨
      s = .bind i ∧ j = o.validators.length ∧ o.books[i]? = some v.book := by
  cases h with
  | @bound i' shelf hshelf =>
    rcases getElem?_concat_cases hv with hold | ⟨rfl, heq⟩
    · exact .inl hold
    · obtain ⟨rfl, rfl⟩ := Prod.mk.inj heq
      exact .inr ⟨rfl, rfl, by simp [books, hshelf]⟩
  | _ => exact .inl hv

theorem Effect.validators_isPrefix (h : o.Effect s a o') : o.validators <+: o'.validators := by
  cases h with
  | bound => exact List.prefix_append _ _
  | _ => exact List.prefix_rfl

/-- A reading that fails changes nothing but formats. -/
theorem Effect.of_error {e : StandardsError} (h : o.Effect s (.loaded (.error e)) o') :
    o'.tree = o.tree ∧ o'.books = o.books ∧ o'.validators = o.validators := by
  cases h with
  | refused => exact ⟨rfl, rfl, rfl⟩
  | kept hshelf => exact ⟨rfl, books_shelve hshelf, rfl⟩

theorem Effect.answer_load {directory : String} (h : o.Effect (.load directory) a o') :
    a = .loaded ((RuleBook.load o.tree directory {}).1.map (·.2)) := by
  cases h with
  | absent h => cases h
  | loaded hload => rw [hload]; rfl
  | refused hload => rw [hload]; rfl

theorem shelf_ne_none (hi : i < o.books.length) : o.shelves[i]? ≠ none := by
  simpa [books] using hi

theorem Effect.answer_reload {directory : String} (h : o.Effect (.reload i directory) a o') (hi : i < o.books.length) :
    a = .loaded ((RuleBook.load o.tree directory {}).1.map (·.2)) := by
  cases h with
  | absent h => exact absurd h (shelf_ne_none hi)
  | replaced _ hload => rw [hload]; rfl
  | kept _ hload => rw [hload]; rfl

theorem Effect.validators_of_bind (h : o.Effect (.bind i) a o') (hbook : o.books[i]? = some book) :
    o'.validators = o.validators ++ [(i, ⟨book⟩)] := by
  cases h with
  | absent h => exact absurd h (shelf_ne_none (List.getElem?_eq_some_iff.1 hbook).1)
  | bound hshelf =>
    simp only [books, List.getElem?_map, hshelf, Option.map_some, Option.some.injEq] at hbook
    rw [hbook]

theorem Effect.answer_ask {j : Nat} {v : Validator} {question : Question} (h : o.Effect (.ask j question) a o')
    (hv : o.validators[j]? = some (i, v)) : a = .replied (question.ask v {}).1 := by
  cases h with
  | absent h => cases h.symm.trans hv
  | replied _ hbound =>
    cases hbound.symm.trans hv
    rfl

theorem Effect.answer_lookUp {spec : String} (h : o.Effect (.lookUp i spec) a o') (hi : i < o.books.length) :
    a = .found (Format.compile spec) := by
  cases h with
  | absent h => exact absurd h (shelf_ne_none hi)
  | found => rfl

end

/-! ## Runs -/

section

variable {tree : FileTree} {steps before : List Step} {s : Step} {i j : Nat} {directory : String}

/-- The last reading that put a rule book on a shelf in the course of some steps: it came after those `before`, and the
rule book was that of the directory. -/
structure LastReading (tree : FileTree) (steps before : List Step) (i : Nat) (directory : String) : Prop where
  reading : ∃ s, before ++ [s] <+: steps ∧ (after tree before).Stocks i directory s (answer tree before s)
  last : ∀ between s, before.length < between.length → between ++ [s] <+: steps →
    ∀ directory, ¬ (after tree between).Stocks i directory s (answer tree between s)

theorem lastReading_concat_self (h : (after tree steps).Stocks i directory s (answer tree steps s)) :
    LastReading tree (steps ++ [s]) steps i directory where
  reading := ⟨s, List.prefix_rfl, h⟩
  last between s' hlt hprefix := by
    have hle := hprefix.length_le
    simp only [List.length_append, List.length_singleton] at hle
    omega

theorem LastReading.concat (h : LastReading tree steps before i directory)
    (hs : ∀ directory, ¬ (after tree steps).Stocks i directory s (answer tree steps s)) :
    LastReading tree (steps ++ [s]) before i directory where
  reading := by
    obtain ⟨first, hfirst, hstocks⟩ := h.reading
    exact ⟨first, hfirst.trans (List.prefix_append _ _), hstocks⟩
  last between s' hlt hprefix := by
    rcases List.prefix_concat_iff.1 hprefix with heq | hprefix
    · obtain ⟨rfl, rfl⟩ := List.append_singleton_inj.1 heq
      exact hs
    · exact h.last between s' hlt hprefix

theorem exists_lastReading {book : RuleBook} (h : (after tree steps).books[i]? = some book) :
    ∃ before directory summary, LastReading tree steps before i directory ∧
      (RuleBook.load (after tree before).tree directory {}).1 = .ok (book, summary) := by
  -- the last step of the run put the rule book there, or left there what the steps before it had put
  induction steps using List.reverseRecOn with
  | nil => simp [after, books] at h
  | append_singleton steps s ih =>
    rcases (effect_after tree steps s).book_cases h with ⟨directory, summary, hstocks, hload⟩ | ⟨hold, hnot⟩
    · exact ⟨steps, directory, summary, lastReading_concat_self hstocks, hload⟩
    · obtain ⟨before, directory, summary, hlast, hload⟩ := ih hold
      exact ⟨before, directory, summary, hlast.concat hnot, hload⟩

theorem exists_bind {v : Validator} (h : (after tree steps).validators[j]? = some (i, v)) :
    ∃ before, before ++ [.bind i] <+: steps ∧ j = (after tree before).validators.length ∧
      (after tree before).books[i]? = some v.book := by
  induction steps using List.reverseRecOn with
  | nil => simp [after] at h
  | append_singleton steps s ih =>
    rcases (effect_after tree steps s).validator_cases h with hold | ⟨rfl, hj, hbook⟩
    · obtain ⟨before, hprefix, hbefore⟩ := ih hold
      exact ⟨before, hprefix.trans (List.prefix_append _ _), hbefore⟩
    · exact ⟨steps, List.prefix_rfl, hj, hbook⟩

theorem validators_isPrefix (tree : FileTree) (steps more : List Step) :
    (after tree steps).validators <+: (after tree (steps ++ more)).validators := by
  induction more using List.reverseRecOn with
  | nil => rw [List.append_nil]
  | append_singleton more s ih =>
    rw [← List.append_assoc]
    exact ih.trans (effect_after tree (steps ++ more) s).validators_isPrefix

/-- What can be relied on in an office after some steps. -/
structure Orderly (tree : FileTree) (steps : List Step) : Prop where
  /-- A shelf has the rule book of the directory that was last read for it, as the files were then. -/
  books : ∀ i book, (after tree steps).books[i]? = some book → ∃ before directory summary,
    LastReading tree steps before i directory ∧
      (RuleBook.load (after tree before).tree directory {}).1 = .ok (book, summary)
  stocked : ∀ s i directory, (after tree steps).Stocks i directory s (answer tree steps s) → ∃ book summary,
    (after tree (steps ++ [s])).books[i]? = some book ∧
      (RuleBook.load (after tree steps).tree directory {}).1 = .ok (book, summary)
  /-- Whether a rule book can be read, and what is said of it, depends on the files alone. -/
  loads : ∀ directory, answer tree steps (.load directory) =
    .loaded ((RuleBook.load (after tree steps).tree directory {}).1.map (·.2))
  reloads : ∀ i < (after tree steps).books.length, ∀ directory, answer tree steps (.reload i directory) =
    .loaded ((RuleBook.load (after tree steps).tree directory {}).1.map (·.2))
  /-- A reading that fails changes no rule book and no validator. -/
  failures : ∀ s e, answer tree steps s = .loaded (.error e) →
    (after tree (steps ++ [s])).tree = (after tree steps).tree ∧
    (after tree (steps ++ [s])).books = (after tree steps).books ∧
    (after tree (steps ++ [s])).validators = (after tree steps).validators
  /-- A validator is bound to what is on the shelf. -/
  bound : ∀ i book, (after tree steps).books[i]? = some book →
    (after tree (steps ++ [.bind i])).validators = (after tree steps).validators ++ [(i, ⟨book⟩)]
  /-- It keeps what it was bound to. -/
  validators : ∀ j i v, (after tree steps).validators[j]? = some (i, v) → ∃ before,
    before ++ [.bind i] <+: steps ∧ j = (after tree before).validators.length ∧
      (after tree before).books[i]? = some v.book
  later : ∀ more, (after tree steps).validators <+: (after tree (steps ++ more)).validators
  /-- It answers as one that has the same rule book and nothing compiled. -/
  replies : ∀ j i v, (after tree steps).validators[j]? = some (i, v) → ∀ question,
    answer tree steps (.ask j question) = .replied (question.ask v {}).1
  formats : ∀ i < (after tree steps).books.length, ∀ spec,
    answer tree steps (.lookUp i spec) = .found (Format.compile spec)

/-- **An office is orderly after any steps**: no rule book, no validator and no answer depends on the formats that were
compiled on the way. -/
theorem orderly (tree : FileTree) (steps : List Step) : Orderly tree steps where
  books _ _ h := exists_lastReading h
  stocked s _ _ h := (effect_after tree steps s).exists_book h
  loads directory := (effect_after tree steps (.load directory)).answer_load
  reloads i hi directory := (effect_after tree steps (.reload i directory)).answer_reload hi
  failures s e h := by
    have heffect := effect_after tree steps s
    rw [h] at heffect
    exact heffect.of_error
  bound i book h := (effect_after tree steps (.bind i)).validators_of_bind h
  validators _ _ _ h := exists_bind h
  later more := validators_isPrefix tree steps more
  replies j i v h question := (effect_after tree steps (.ask j question)).answer_ask h
  formats i hi spec := (effect_after tree steps (.lookUp i spec)).answer_lookUp hi

end

/-- A validator of the small rule book answers by it, whatever becomes of the files and of the shelf. -/
theorem orderly_smallBook : ∃ book summary j, (RuleBook.load SmallBook.tree "s" {}).1 = .ok (book, summary) ∧
    ∀ more question, answer SmallBook.tree ([.load "s", .bind 0] ++ more) (.ask j question) =
      .replied (question.ask ⟨book⟩ {}).1 := by
  obtain ⟨_, summary, cache, hload⟩ := SmallBook.exists_load
  have hanswer : answer SmallBook.tree [] (.load "s") = .loaded (.ok summary) := by
    rw [(orderly SmallBook.tree []).loads "s", show (after SmallBook.tree []).tree = SmallBook.tree from rfl, hload]
    rfl
  have hstocks : (after SmallBook.tree []).Stocks 0 "s" (.load "s") (answer SmallBook.tree [] (.load "s")) := by
    rw [hanswer]
    exact .load rfl
  obtain ⟨book, summary, hbook, hload⟩ := (orderly SmallBook.tree []).stocked _ _ _ hstocks
  have hbound := (orderly SmallBook.tree [.load "s"]).bound 0 book hbook
  refine ⟨book, summary, (after SmallBook.tree [.load "s"]).validators.length, hload, fun more question => ?_⟩
  refine (orderly SmallBook.tree _).replies _ 0 ⟨book⟩ ?_ question
  obtain ⟨rest, hlater⟩ := (orderly SmallBook.tree [.load "s", .bind 0]).later more
  rw [← hlater, show [Step.load "s", .bind 0] = [.load "s"] ++ [.bind 0] from rfl, hbound]
  simp

end Office

end DocumentaryCredit
