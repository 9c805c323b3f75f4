import CloudPlan.Deploy.Classification
import CloudPlan.Proofs.Occurrences
import Mathlib.Data.List.Find

/-!
# How link faults are classified

A link fault is classified by its message, and the message quotes names from the document. So the
kind of the fault does not decide (`kind_does_not_decide`). Nor does the fixed wording of the
message: no rule overlaps with it, so a rule applies exactly if its pattern occurs in one of the
texts that are quoted (`occursIn_message`). `link_verdict` says what that makes of any two link
faults.
-/

set_option autoImplicit false

namespace CloudPlan

open Text (fill)

/-! ## What a message quotes -/

namespace LinkError

/-- The texts that the message of an error quotes, each with the wording before it; a line feed
stands for the start of the message. A resource and its property or field, shown with a dot between
them, are one text. -/
def pieces : LinkError → List (String × String)
  | .unresolvedRef target resource property =>
    [("\nUnresolved ref \"", target), ("\" in ", resource ++ "." ++ property)]
  | .unresolvedField target resource field =>
    [("\nUnresolved ref \"", target), ("\" in ", resource), (": no field '", field)]
  | .unresolvedOutput key resource field =>
    [("\nUnresolved output \"", key), ("\": ", resource ++ "." ++ field)]
  | .invalidTemplate key template =>
    [("\ninvalid output template for \"", key), ("\": ", template)]
  | .construction resource type message =>
    [("\nfailed to construct ", resource), (" (", type), ("): ", message)]

/-- The wording after the last text; a line feed stands for the end of the message. -/
def ending : LinkError → String
  | .unresolvedField _ _ _ => "'\n"
  | .unresolvedOutput _ _ _ => " is not available\n"
  | .unresolvedRef _ _ _ | .invalidTemplate _ _ | .construction _ _ _ => "\n"

/-- The texts that the message of an error quotes. -/
def texts (e : LinkError) : List String :=
  e.pieces.map Prod.snd

section Messages

variable (target resource property field key template type message : String)

/-- The message of a reference without an object. -/
theorem message_unresolvedRef : (unresolvedRef target resource property).message =
    "Unresolved ref \"" ++ target ++ "\" in " ++ resource ++ "." ++ property := rfl

/-- The message of a reference to a field that is not there. -/
theorem message_unresolvedField : (unresolvedField target resource field).message =
    "Unresolved ref \"" ++ target ++ "\" in " ++ resource ++ ": no field '" ++ field ++ "'" := rfl

/-- The message of an output without a value. -/
theorem message_unresolvedOutput : (unresolvedOutput key resource field).message =
    "Unresolved output \"" ++ key ++ "\": " ++ resource ++ "." ++ field ++ " is not available" :=
  rfl

/-- The message of an output template that is none. -/
theorem message_invalidTemplate : (invalidTemplate key template).message =
    "invalid output template for \"" ++ key ++ "\": " ++ template := rfl

/-- The message of a resource that the provider cannot make. -/
theorem message_construction : (construction resource type message).message =
    "failed to construct " ++ resource ++ " (" ++ type ++ "): " ++ message := rfl

end Messages

/-- The message of an error in a line of its own. -/
theorem line_message (e : LinkError) :
    ['\n'] ++ (e.message.toList ++ ['\n']) = fill e.ending e.pieces := by
  cases e <;>
    simp only [message_unresolvedRef, message_unresolvedField, message_unresolvedOutput,
      message_invalidTemplate, message_construction, ending, pieces, fill, String.toList_append,
      String.reduceToList, List.append_assoc, List.cons_append, List.nil_append]

/-- All wordings of messages. -/
def wordings : List String :=
  ["\n", "\nUnresolved ref \"", "\" in ", ": no field '", "'\n", "\nUnresolved output \"", "\": ",
    " is not available\n", "\ninvalid output template for \"", "\nfailed to construct ", " (",
    "): "]

/-- The end of each message is one of the wordings. -/
theorem ending_mem_wordings (e : LinkError) : e.ending ∈ wordings := by
  cases e <;> simp [ending, wordings]

/-- So is what stands before each quoted text. -/
theorem mem_wordings_of_mem_pieces {e : LinkError} {piece : String × String}
    (there : piece ∈ e.pieces) : piece.1 ∈ wordings := by
  cases e <;> simp only [pieces, List.mem_cons, List.not_mem_nil, or_false] at there <;>
    rcases there with rfl | rfl | rfl <;> simp [wordings]

end LinkError

/-! ## Which rules apply -/

namespace ClassificationRule

open Text.Pattern

/-- No word of a rule overlaps with a wording of messages. -/
theorem separates_wordings : ∀ rule ∈ all, ∀ wording ∈ LinkError.wordings,
    rule.pattern.separates wording.toList = true := by
  -- Spelling the texts out first spares the kernel their decoding.
  simp only [LinkError.wordings, all, credentials, stackConflict, timeout, rateLimited, toolRuntime,
    text, List.forall_mem_cons, List.not_mem_nil, false_imp_iff, implies_true, and_true,
    String.reduceToList]
  decide +kernel

variable {rule : ClassificationRule}

/-- A rule applies to the message of a link fault exactly if it applies to a text that it quotes. -/
theorem occursIn_message (listed : rule ∈ all) (e : LinkError) :
    rule.pattern.occursIn e.message = true ↔ ∃ t ∈ e.texts, rule.pattern.occursIn t = true := by
  have separates := separates_wordings rule listed
  -- Line feeds around the message make its first and last wording separate like the others.
  have newline : rule.pattern.separates ['\n'] = true := separates "\n" List.mem_cons_self
  rw [occursIn_iff, ← occurs_line_iff newline, e.line_message,
    occurs_fill_iff (separates _ e.ending_mem_wordings)
      fun piece there => separates _ (LinkError.mem_wordings_of_mem_pieces there)]
  simp only [LinkError.texts, List.mem_map, occursIn_iff]
  constructor
  · rintro ⟨piece, there, occurs⟩
    exact ⟨piece.2, ⟨piece, there, rfl⟩, occurs⟩
  · rintro ⟨_, ⟨piece, there, rfl⟩, occurs⟩
    exact ⟨piece, there, occurs⟩

/-- Whether a rule applies to one of some texts. -/
def appliesAmong (rule : ClassificationRule) (texts : List String) : Bool :=
  texts.any rule.pattern.occursIn

/-- The first rule that applies to one of some texts. -/
def selectAmong (texts : List String) : ClassificationRule :=
  (all.find? fun rule => rule.appliesAmong texts).getD unmatched

/-- If no rule applies to any of the texts, none is selected. -/
theorem selectAmong_eq_unmatched {texts : List String}
    (none : ∀ rule ∈ all, rule.appliesAmong texts = false) : selectAmong texts = unmatched := by
  have unfound : all.find? (fun rule => rule.appliesAmong texts) = .none :=
    List.find?_eq_none.mpr fun rule listed => by simp [none rule listed]
  rw [selectAmong, unfound]
  rfl

/-- A rule of the table applies to a message exactly if it applies to one of the texts that the
message quotes: no pattern reaches into the wording around them. -/
theorem occursIn_message_eq (listed : rule ∈ all) (e : LinkError) :
    rule.pattern.occursIn e.message = rule.appliesAmong e.texts := by
  rw [Bool.eq_iff_iff, occursIn_message listed, appliesAmong, List.any_eq_true]

/-- So the rule for a message is the first one that applies to a quoted text. -/
theorem select_message (e : LinkError) : select e.message = selectAmong e.texts := by
  rw [select, selectAmong, List.find?_congr fun rule listed => occursIn_message_eq listed e]

end ClassificationRule

/-! ## Verdicts -/

/-- What a classification says of a failure, apart from its wording. -/
structure Verdict where
  code : ErrorCode
  category : ErrorCategory
  retryable : Bool
  reason : Option RetriableReason
deriving DecidableEq

/-- The verdict of a classification. -/
def ClassifiedError.verdict (e : ClassifiedError) : Verdict :=
  ⟨e.code, e.category, e.retryable, e.reason⟩

/-- The verdict of a rule. -/
def ClassificationRule.verdict (rule : ClassificationRule) : Verdict :=
  ⟨rule.code, rule.category, rule.retryable, rule.reason⟩

/-- The verdict on a link fault. -/
def LinkError.verdict (e : LinkError) : Verdict :=
  (StackError.link e).classify.verdict

/-- The verdict on a link error is that of the first rule that applies to a text in its message. -/
theorem LinkError.verdict_eq (e : LinkError) :
    e.verdict = (ClassificationRule.selectAmong e.texts).verdict := by
  rw [← ClassificationRule.select_message]
  rfl

/-- Two link faults of one kind, of those that linking itself finds. -/
inductive LinkError.SameKind : LinkError → LinkError → Prop where
  | unresolvedRef {t r p t' r' p' : String} :
      SameKind (.unresolvedRef t r p) (.unresolvedRef t' r' p')
  | unresolvedField {t r f t' r' f' : String} :
      SameKind (.unresolvedField t r f) (.unresolvedField t' r' f')
  | unresolvedOutput {k r f k' r' f' : String} :
      SameKind (.unresolvedOutput k r f) (.unresolvedOutput k' r' f')
  | invalidTemplate {k t k' t' : String} : SameKind (.invalidTemplate k t) (.invalidTemplate k' t')

/-- No rule applies to names that hold none of the patterns. -/
theorem not_applies_plain : ∀ rule ∈ ClassificationRule.all,
    rule.appliesAmong (LinkError.unresolvedRef "missing-role" "api-function" "role").texts =
      false := by
  decide +kernel

/-- The first rule that knows the texts of a reference to a log of conflicts is about stacks. -/
theorem applies_conflictLog :
    let texts :=
      (LinkError.unresolvedRef "conflict-log-exec-role" "conflict-log-function" "role").texts
    ClassificationRule.credentials.appliesAmong texts = false ∧
      ClassificationRule.stackConflict.appliesAmong texts = true := by
  decide +kernel

/-- A reference to a resource whose name speaks of conflicts is not classified like another
reference that cannot be resolved. -/
theorem kind_does_not_decide :
    ¬ ∀ e e' : LinkError, e.SameKind e' → e.verdict = e'.verdict := by
  intro alike
  have same := alike
    (.unresolvedRef "conflict-log-exec-role" "conflict-log-function" "role")
    (.unresolvedRef "missing-role" "api-function" "role") .unresolvedRef
  obtain ⟨notCredentials, stackConflict⟩ := applies_conflictLog
  rw [LinkError.verdict_eq, LinkError.verdict_eq,
    ClassificationRule.selectAmong_eq_unmatched not_applies_plain, ClassificationRule.selectAmong,
    ClassificationRule.all] at same
  simp only [List.find?_cons, notCredentials, stackConflict, Option.getD_some] at same
  exact absurd same (by decide)

/-- **Link faults are classified by the texts they quote.** The verdict is that of the first rule
that applies to one of the texts, whatever the kind of the fault and the wording around them. So
faults whose texts meet the same rules get the same verdict, and one whose texts meet none counts as
a dependency that is unavailable for now. -/
theorem link_verdict (e e' : LinkError) :
    e.verdict = (ClassificationRule.selectAmong e.texts).verdict ∧
      ((∀ rule ∈ ClassificationRule.all, rule.appliesAmong e.texts = rule.appliesAmong e'.texts) →
        e.verdict = e'.verdict) ∧
      ((∀ rule ∈ ClassificationRule.all, rule.appliesAmong e.texts = false) →
        e.verdict = ⟨.unknown, .unknown, true, some .dependencyUnavailable⟩) := by
  refine ⟨e.verdict_eq, fun alike => ?_, fun none => ?_⟩
  · rw [e.verdict_eq, e'.verdict_eq, ClassificationRule.selectAmong, ClassificationRule.selectAmong,
      List.find?_congr alike]
  · rw [e.verdict_eq, ClassificationRule.selectAmong_eq_unmatched none]
    rfl

/-- A reference and an output that quote the same texts get the same verdict, though their kinds
differ, and a fault whose texts no rule knows counts as one that may pass. -/
theorem link_verdict_texts :
    let reference := LinkError.unresolvedRef "conflict-log-exec-role" "conflict-log-function" "role"
    let output := LinkError.unresolvedOutput "conflict-log-exec-role" "conflict-log-function" "role"
    let plain := LinkError.unresolvedRef "missing-role" "api-function" "role"
    (∀ rule ∈ ClassificationRule.all,
        rule.appliesAmong reference.texts = rule.appliesAmong output.texts) ∧
      reference.verdict = output.verdict ∧
      (∀ rule ∈ ClassificationRule.all, rule.appliesAmong plain.texts = false) ∧
      plain.verdict = ⟨.unknown, .unknown, true, some .dependencyUnavailable⟩ := by
  intro reference output plain
  have alike : reference.texts = output.texts := rfl
  have applyAlike : ∀ rule ∈ ClassificationRule.all,
      rule.appliesAmong reference.texts = rule.appliesAmong output.texts := fun _ _ => by rw [alike]
  exact ⟨applyAlike, (link_verdict reference output).2.1 applyAlike, not_applies_plain,
    (link_verdict plain plain).2.2 not_applies_plain⟩

end CloudPlan
