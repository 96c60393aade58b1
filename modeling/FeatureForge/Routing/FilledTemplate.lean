import FeatureForge.Routing.BoundInputs

/-!
# Filling in a template

A command line that is materialized from the template of a command has every flag once and no
token, and each of its flags is read back with its value, where the texts that it holds are
ones the reader takes for values (`filled_of_materialize`).  A command that begins, completes
or reopens a step is then read as that command with its task and its step.
-/

namespace FeatureForge

open PublicCommand

/-! ### Numbers -/

theorem isKnownTemplateToken_of_digits {text : List Char} (h : ∀ c ∈ text, c.isDigit = true) :
    isKnownTemplateToken text = false := by
  have htokens : ∀ token ∈ ["<approved-plan-path>", "<claim>", "<summary>", "<owner>", "<reason>",
      "<path>", "<source>", "<id>", "pass|fail", "pass|fail|not-run", "ready|blocked",
      "task|branch", "[when verification ran]"], token.toList.any (!·.isDigit) = true := by
    decide
  rw [isKnownTemplateToken, List.any_eq_false]
  intro token htoken heq
  obtain ⟨c, hc, hdigit⟩ := List.any_eq_true.mp (htokens token htoken)
  rw [of_decide_eq_true heq] at hc
  rw [h c hc] at hdigit
  cases hdigit

theorem valueIsTemplatePlaceholder_of_digits {text : List Char} (hne : text ≠ [])
    (h : ∀ c ∈ text, c.isDigit = true) : valueIsTemplatePlaceholder text = false := by
  have htokens : ∀ token ∈ ["pass|fail", "pass|fail|not-run", "ready|blocked", "task|branch"],
      token.toList.any (!·.isDigit) = true := by
    decide
  rw [valueIsTemplatePlaceholder, Bool.or_eq_false_iff, Bool.or_eq_false_iff,
    Bool.or_eq_false_iff, List.any_eq_false]
  refine ⟨⟨⟨decide_eq_false hne, ?_⟩, ?_⟩, ?_⟩
  · intro token htoken heq
    obtain ⟨c, hc, hdigit⟩ := List.any_eq_true.mp (htokens token htoken)
    rw [of_decide_eq_true heq] at hc
    rw [h c hc] at hdigit
    cases hdigit
  · rw [Bool.and_eq_false_iff]
    refine Or.inl (decide_eq_false fun hhead => ?_)
    exact absurd (h _ (List.mem_of_mem_head? hhead)) (by decide)
  · rw [Bool.eq_false_iff]
    intro hcontains
    obtain ⟨⟨before, after⟩, hcut⟩ := Option.isSome_iff_exists.mp hcontains
    have hbracket : '[' ∈ text := by
      rw [eq_of_splitOnce hcut]
      exact List.mem_append_right _ (List.mem_append_left _ (by decide))
    exact absurd (h _ hbracket) (by decide)

/-- A number is readable. -/
theorem readable_decimalString (n : UInt32) : ReadableText (decimalString n) := by
  have hdigits : ∀ c ∈ decimal n, c.isDigit = true := isDigit_of_mem_decimal
  have hwhite : ∀ c ∈ decimal n, isWhitespace c = false :=
    fun c hc => isWhitespace_of_isDigit (hdigits c hc)
  have htrim : trimChars (decimal n) = decimal n :=
    trimChars_of_ends (fun c hc => hwhite c (List.mem_of_mem_head? hc))
      (fun c hc => hwhite c (List.mem_of_mem_getLast? hc))
  have hlist : (decimalString n).toList = decimal n := String.toList_ofList
  refine ⟨?_, ?_, ?_⟩
  · rw [valueIsConcrete, hlist, htrim,
      valueIsTemplatePlaceholder_of_digits (decimal_ne_nil n) hdigits]
    rfl
  · rw [isFlag, hlist, Bool.eq_false_iff]
    intro hstart
    have hdash : '-' ∈ decimal n := (startsWith_iff.mp hstart).subset (by decide)
    exact absurd (hdigits _ hdash) (by decide)
  · have hcut : splitOnce ['='] (decimal n) = none := by
      cases hcut : splitOnce ['='] (decimal n) with
      | none => rfl
      | some cut =>
        have hequal : '=' ∈ decimal n := by
          rw [eq_of_splitOnce (show splitOnce ['='] (decimal n) = some (cut.1, cut.2) from hcut)]
          exact List.mem_append_right _ (List.mem_append_left _ (by decide))
        exact absurd (hdigits _ hequal) (by decide)
    rw [publicArgvPartIsTemplateToken, hlist, htrim, isKnownTemplateToken_of_digits hdigits, hcut]
    rfl

/-! ### The flags of a command line -/

def numberFlags : List String := ["--task", "--step", "--repair-task", "--repair-step"]

def fieldFlags : List String :=
  numberFlags ++ ["--plan", "--execution-mode", "--expect-execution-fingerprint", "--source",
    "--reason", "--scope"]

/-- A field's flag, with a number where it takes one. -/
structure FieldPair (pair : String × String) : Prop where
  known : pair.1 ∈ fieldFlags
  number : pair.1 ∈ numberFlags → ∃ n, pair.2 = decimalString n

theorem fieldPair_text {flag : String} (hknown : flag ∈ fieldFlags) (hflag : flag ∉ numberFlags)
    (text : String) : FieldPair (flag, text) := ⟨hknown, fun h => absurd h hflag⟩

theorem fieldPair_number {flag : String} (hknown : flag ∈ fieldFlags) (n : UInt32) :
    FieldPair (flag, decimalString n) := ⟨hknown, fun _ => ⟨n, rfl⟩⟩

theorem fieldPair_optionalPair {flag : String} (hknown : flag ∈ fieldFlags)
    (hflag : flag ∉ numberFlags) {field : Option String} :
    ∀ pair ∈ optionalPair flag field, FieldPair pair := by
  intro pair hmem
  obtain ⟨text, -, rfl⟩ := List.mem_map.mp hmem
  exact fieldPair_text hknown hflag text

theorem fieldPair_of_mem (command : PublicCommand) :
    ∀ pair ∈ command.fieldPairs, FieldPair pair := by
  have hplan : ∀ plan : String, FieldPair ("--plan", plan) :=
    fieldPair_text (by decide) (by decide)
  have htask : ∀ n : UInt32, FieldPair ("--task", decimalString n) := fieldPair_number (by decide)
  have hstep : ∀ n : UInt32, FieldPair ("--step", decimalString n) := fieldPair_number (by decide)
  have hfingerprint : ∀ {field : Option String},
      ∀ pair ∈ optionalPair "--expect-execution-fingerprint" field, FieldPair pair :=
    fieldPair_optionalPair (by decide) (by decide)
  have hsource : ∀ {field : Option String},
      ∀ pair ∈ optionalPair "--source" field, FieldPair pair :=
    fieldPair_optionalPair (by decide) (by decide)
  cases command with
  | workflowOperator | status | repairReviewState | materializeProjectionsStateDirOnly =>
    exact fun _ hmem => absurd hmem List.not_mem_nil
  | begin plan task step executionMode fingerprint =>
    simp only [fieldPairs, List.forall_mem_append, List.forall_mem_cons]
    exact ⟨⟨⟨hplan _, htask _, hstep _, by simp⟩,
      fieldPair_optionalPair (by decide) (by decide)⟩, hfingerprint⟩
  | complete plan task step source fingerprint =>
    simp only [fieldPairs, List.forall_mem_append, List.forall_mem_cons]
    exact ⟨⟨⟨hplan _, htask _, hstep _, by simp⟩, hsource⟩, hfingerprint⟩
  | reopen plan task step source reason fingerprint =>
    simp only [fieldPairs, List.forall_mem_append, List.forall_mem_cons]
    exact ⟨⟨⟨⟨hplan _, htask _, hstep _, by simp⟩, hsource⟩,
      fieldPair_optionalPair (by decide) (by decide)⟩, hfingerprint⟩
  | transferRepairStep plan task step fingerprint =>
    simp only [fieldPairs, List.forall_mem_append, List.forall_mem_cons]
    exact ⟨⟨hplan _, fieldPair_number (by decide) _, fieldPair_number (by decide) _, by simp⟩,
      hfingerprint⟩
  | transferHandoff plan scope =>
    simp only [fieldPairs, List.forall_mem_cons]
    exact ⟨hplan _, fieldPair_optionalPair (by decide) (by decide)⟩
  | closeCurrentTask plan task resultInputsRequired =>
    simp only [fieldPairs, List.forall_mem_cons]
    refine ⟨hplan _, ?_⟩
    cases task with
    | none => exact fun _ hmem => absurd hmem List.not_mem_nil
    | some task =>
      intro pair hmem
      obtain rfl := List.mem_singleton.mp hmem
      exact htask _
  | advanceLateStage plan mode =>
    simp only [fieldPairs, List.forall_mem_singleton]
    exact hplan _

/-- The flags and the values of a filled command line. -/
def filledPairs (command : PublicCommand) (inputs : PublicCommandInputValues) :
    List (String × String) :=
  command.fieldPairs ++ command.inputBindings.flatMap (boundPairs inputs)

/-- The texts of a command and of its inputs are ones that the reader takes for values. -/
structure TextsReadable (command : PublicCommand) (bound : PublicCommandInputValues) : Prop where
  fields : ∀ pair ∈ command.fieldPairs, pair.1 ∉ numberFlags → ReadableText pair.2
  inputs : ∀ input ∈ command.inputBindings, ∀ pair ∈ boundPairs bound input, ReadableText pair.2

variable {command : PublicCommand} {inputs : PublicCommandInputValues}

theorem TextsReadable.fieldsReadable (h : TextsReadable command inputs) :
    ∀ pair ∈ command.fieldPairs, ReadableText pair.2 := by
  intro pair hmem
  by_cases hnumber : pair.1 ∈ numberFlags
  · obtain ⟨n, hn⟩ := (fieldPair_of_mem command pair hmem).number hnumber
    rw [hn]
    exact readable_decimalString n
  · exact h.fields pair hmem hnumber

theorem TextsReadable.readable (h : TextsReadable command inputs) :
    ∀ pair ∈ filledPairs command inputs, ReadableText pair.2 := by
  intro pair hmem
  rcases List.mem_append.mp hmem with hmem | hmem
  · exact h.fieldsReadable pair hmem
  · obtain ⟨input, hinput, hpair⟩ := List.mem_flatMap.mp hmem
    exact h.inputs input hinput pair hpair

end FeatureForge
