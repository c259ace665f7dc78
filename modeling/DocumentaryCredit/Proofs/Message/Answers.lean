/-
What a validator is asked. Its answer is that of its rule book alone: formats that were compiled before, by whomever,
save it work and change nothing (`Question.steady_ask`).
-/
import DocumentaryCredit.Message.Validator
import DocumentaryCredit.Proofs.Computation

namespace DocumentaryCredit

/-- A question to a validator. -/
inductive Question where
  | schema (messageType : String)
  | field (messageType tag : String) (value : Option String)
  | message (messageType : String) (values : FieldValues)
  /-- Several messages, each of which has a result of its own. -/
  | batch (messages : List (String × FieldValues))
  | construction (messageType : String) (values : FieldValues)
  | text (messageType block : String)

/-- What a validator answers when it does not fail. -/
inductive Reply where
  | schema (schema : Schema)
  | field (result : FieldResult)
  | message (result : MessageResult)
  | batch (results : List (Except ValidatorError MessageResult))
  | construction (outcome : Construction)
  | text (parsed : ParsedMessage)

/-- Validates several messages, each by itself. -/
def Validator.validateEach (v : Validator) (messages : List (String × FieldValues)) :
    Compiling ValidatorError (List (Except ValidatorError MessageResult)) :=
  messages.mapM fun m => Compiling.outcome (v.validate m.1 m.2)

/-- Asks a validator. -/
def Question.ask (question : Question) (v : Validator) : Compiling ValidatorError Reply := do
  match question with
  | schema messageType => return .schema (← v.schema messageType)
  | field messageType tag value => return .field (← v.validateField messageType tag value)
  | message messageType values => return .message (← v.validate messageType values)
  | batch messages => return .batch (← v.validateEach messages)
  | construction messageType values => return .construction (← v.construct messageType values)
  | text messageType block => return .text (← v.parse messageType block)

/-! ## Messages -/

namespace Schema

variable (schema : Schema) (values : FieldValues)

theorem steady_validate : Compiling.Steady (schema.validate values) := by
  unfold validate compileFields
  refine (Compiling.Steady.mapM (fun d => ?_) _).bind fun _ => .pure _
  exact (Compiling.steady_compiling _ _).bind fun _ => .pure _

theorem steady_construct : Compiling.Steady (schema.construct values) := by
  refine (schema.steady_validate values).bind fun result => ?_
  split <;> exact .pure _

end Schema

/-! ## Validators -/

namespace Validator

variable (v : Validator) (messageType : String)

theorem steady_compilingFields {α : Type} {step : Compiling FieldFormatError α} (h : Compiling.Steady step) :
    Compiling.Steady (compilingFields step) := by
  intro cache hcache
  obtain ⟨hanswer, hafter⟩ := h cache hcache
  unfold compilingFields
  rcases hrun : step cache with ⟨r, after⟩
  rcases hrun₀ : step {} with ⟨r₀, after₀⟩
  rw [hrun] at hafter
  rw [hrun, hrun₀] at hanswer
  obtain rfl : r = r₀ := hanswer
  cases r <;> exact ⟨rfl, hafter⟩

theorem steady_schema : Compiling.Steady (v.schema messageType) := by
  unfold schema
  split
  · exact .pure _
  · exact .throw _

theorem steady_validateField (tag : String) (value : Option String) :
    Compiling.Steady (v.validateField messageType tag value) := by
  refine (v.steady_schema messageType).bind fun schema => ?_
  split
  · exact .pure _
  · exact (steady_compilingFields (Compiling.steady_compiling _ _)).bind fun _ => .pure _

theorem steady_validate (values : FieldValues) : Compiling.Steady (v.validate messageType values) :=
  (v.steady_schema messageType).bind fun schema => steady_compilingFields (schema.steady_validate values)

theorem steady_validateEach (messages : List (String × FieldValues)) : Compiling.Steady (v.validateEach messages) := by
  refine Compiling.Steady.mapM (fun m => ?_) messages
  exact (v.steady_validate m.1 m.2).outcome

theorem steady_construct (values : FieldValues) : Compiling.Steady (v.construct messageType values) :=
  (v.steady_schema messageType).bind fun schema => steady_compilingFields (schema.steady_construct values)

theorem steady_parse (text : String) : Compiling.Steady (v.parse messageType text) := by
  refine (v.steady_schema messageType).bind fun schema => ?_
  split
  · exact .throw _
  · exact (steady_compilingFields (schema.steady_validate _)).bind fun _ => .pure _

end Validator

/-- A validator answers as if nothing had been compiled. -/
theorem Question.steady_ask (question : Question) (v : Validator) : Compiling.Steady (question.ask v) := by
  cases question with
  | schema messageType => exact (v.steady_schema messageType).bind fun _ => .pure _
  | field messageType tag value => exact (v.steady_validateField messageType tag value).bind fun _ => .pure _
  | message messageType values => exact (v.steady_validate messageType values).bind fun _ => .pure _
  | batch messages => exact (v.steady_validateEach messages).bind fun _ => .pure _
  | construction messageType values => exact (v.steady_construct messageType values).bind fun _ => .pure _
  | text messageType block => exact (v.steady_parse messageType block).bind fun _ => .pure _

end DocumentaryCredit
