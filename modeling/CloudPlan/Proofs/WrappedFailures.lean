import CloudPlan.Proofs.LinkFaults

/-!
# Failures in a context

Failures are often reported with something said around them: what was being done, which attempt it
was. Rules are tried in order, and a rule that applies to a message applies to it in a context as
well, as long as the context breaks words where it touches the message. So the rule for the whole is
tried no later than the rule for the message (`rank_surround_le`), and a failure that wraps another
one is not classified more weakly (`classify_wrapped`): a failure of credentials stays one, and the
default is never fallen back to.
-/

set_option autoImplicit false

namespace CloudPlan

/-- The failure is an error and no bare value. -/
def StackError.IsError : StackError → Prop
  | .value _ => False
  | .link _ | .timeout _ | .conflict _ | .config _ _ | .backend _ => True

namespace ClassificationRule

/-- The rules in the order in which they are tried, the default last. -/
def ranked : List ClassificationRule :=
  all ++ [unmatched]

/-- The place among the ranked rules of the one that applies to a message. -/
def rank (message : String) : Nat :=
  all.findIdx fun rule => rule.pattern.occursIn message

/-- Some rule knows a message. -/
def Known (message : String) : Prop :=
  ∃ rule ∈ all, rule.pattern.occursIn message = true

variable {message : String}

/-- A message has a rank among the rules exactly if some rule knows it. -/
theorem rank_lt_iff : rank message < all.length ↔ Known message :=
  List.findIdx_lt_length

/-- The rule at the rank of a message is the one selected for it. -/
theorem getElem?_rank (message : String) : ranked[rank message]? = some (select message) := by
  have chosen : select message = all[rank message]?.getD unmatched := by
    rw [select, List.find?_eq_getElem?_findIdx]
    rfl
  have within : rank message ≤ all.length := List.findIdx_le_length
  rcases Nat.lt_or_eq_of_le within with found | none
  · rw [chosen, ranked, List.getElem?_append_left found, List.getElem?_eq_getElem found,
      Option.getD_some]
  · rw [chosen, ranked, none]
    rfl

/-- The first rule is the one for credentials. -/
theorem select_eq_credentials (first : rank message = 0) : select message = credentials := by
  have chosen := getElem?_rank message
  rw [first] at chosen
  exact (Option.some.inj chosen).symm

/-- No other rule is for credentials. -/
theorem category_of_mem_tail : ∀ rule ∈ ranked.tail, rule.category ≠ .credentials := by
  decide

/-- Only the first rule is about credentials. -/
theorem rank_eq_zero_iff : rank message = 0 ↔ (select message).category = .credentials := by
  constructor
  · intro first
    rw [select_eq_credentials first]
    rfl
  · intro category
    have chosen := getElem?_rank message
    cases place : rank message with
    | zero => rfl
    | succ n =>
      rw [place, ← List.getElem?_tail] at chosen
      exact absurd category (category_of_mem_tail _ (List.mem_of_getElem? chosen))

/-- A message that some rule knows is not left to the default. -/
theorem select_mem_all (known : Known message) : select message ∈ all := by
  have found := rank_lt_iff.mpr known
  have chosen := getElem?_rank message
  rw [ranked, List.getElem?_append_left found] at chosen
  exact List.mem_of_getElem? chosen

/-- No rule of the table has the verdict on unknown messages. -/
theorem verdict_ne_unmatched : ∀ rule ∈ all, rule.verdict ≠ unmatched.verdict := by
  decide

/-- In a context that breaks words a message has no later rank. -/
theorem rank_surround_le {before after : String} (message : String)
    (left : Text.wordAt before.toList.getLast? = false)
    (right : Text.wordAt after.toList.head? = false) :
    rank (before ++ (message ++ after)) ≤ rank message := by
  apply List.findIdx_le_findIdx
  intro rule _ applies
  rw [Text.Pattern.occursIn_iff] at applies ⊢
  rw [String.toList_append, String.toList_append]
  exact applies.surround before.toList after.toList left right

/-- A number of a status does not count within a longer word. -/
example : rank "429" = 3 ∧ rank "at 429 now" = 3 ∧ rank "at x429" = 5 := by
  decide +kernel

/-- A message with something before and after it, set off by spaces, ranks no later than the message
alone. -/
theorem rank_spaced_le (before message after : String) :
    rank (before ++ " " ++ message ++ " " ++ after) ≤ rank message := by
  have split : before ++ " " ++ message ++ " " ++ after =
      (before ++ " ") ++ (message ++ (" " ++ after)) := by
    simp only [String.append_assoc]
  have space : Text.wordAt (some ' ') = false := by decide
  rw [split]
  apply rank_surround_le
  · rw [String.toList_append, List.getLast?_append_of_ne_nil _ (by decide)]
    exact space
  · rw [String.toList_append, List.head?_append_of_ne_nil _ (by decide)]
    exact space

end ClassificationRule

open ClassificationRule

/-- An error that is no bare value is classified by its message. -/
theorem StackError.verdict_classify {e : StackError} (error : e.IsError) :
    e.classify.verdict = (select e.message).verdict := by
  cases e with
  | value text => cases error
  | _ => rfl

/-- **A context does not weaken a classification.** The verdict on an error is that of the rule at
the rank of its message. An error that shows another one's message between spaces, with anything
before and after, has no later rank; if the other one is about credentials, so is it, and it is not
to be retried; and if some rule knows the message of the other one, it is not left to the default. -/
theorem classify_wrapped {inner outer : StackError} (error : inner.IsError)
    (error' : outer.IsError) {before after : String}
    (shows : outer.message = before ++ " " ++ inner.message ++ " " ++ after) :
    ranked[rank inner.message]?.map verdict = some inner.classify.verdict ∧
      ranked[rank outer.message]?.map verdict = some outer.classify.verdict ∧
      rank outer.message ≤ rank inner.message ∧
      (inner.classify.category = .credentials →
        outer.classify.verdict = ⟨.credentials, .credentials, false, none⟩) ∧
      (Known inner.message →
        outer.classify.verdict ≠ ⟨.unknown, .unknown, true, some .dependencyUnavailable⟩) := by
  -- a rule that applies to the inner message applies to the outer one, and perhaps one before it
  -- does
  have earlier : rank outer.message ≤ rank inner.message := by
    rw [shows]
    exact rank_spaced_le before inner.message after
  have verdict' := outer.verdict_classify error'
  refine ⟨?_, ?_, earlier, ?_, ?_⟩
  · rw [getElem?_rank, Option.map_some, StackError.verdict_classify error]
  · rw [getElem?_rank, Option.map_some, verdict']
  · intro credentials
    have category : (select inner.message).category = .credentials := by
      rw [← credentials]
      exact congrArg Verdict.category (StackError.verdict_classify error).symm
    have first : rank outer.message = 0 :=
      Nat.le_zero.mp (earlier.trans_eq (rank_eq_zero_iff.mpr category))
    rw [verdict', select_eq_credentials first]
    rfl
  · intro known
    have known' : Known outer.message :=
      rank_lt_iff.mp (earlier.trans_lt (rank_lt_iff.mpr known))
    rw [verdict']
    exact verdict_ne_unmatched _ (select_mem_all known')

/-- What is said around a failure of credentials speaks of a conflict, which another rule knows; the
failure is still one of credentials. -/
theorem classify_wrapped_conflict :
    let inner := StackError.backend "no valid credential"
    let outer := StackError.backend "conflict on attempt 2: no valid credential for orders"
    Known "conflict on attempt 2:" ∧ inner.classify.category = .credentials ∧
      Known inner.message ∧ rank outer.message ≤ rank inner.message ∧
      outer.classify.verdict = ⟨.credentials, .credentials, false, none⟩ ∧
      outer.classify.verdict ≠ ⟨.unknown, .unknown, true, some .dependencyUnavailable⟩ := by
  intro inner outer
  have distracting : Known "conflict on attempt 2:" :=
    ⟨stackConflict, by simp [all], by decide +kernel⟩
  have category : inner.classify.category = .credentials := by decide +kernel
  have known : Known inner.message := ⟨credentials, List.mem_cons_self, by decide +kernel⟩
  have shows : outer.message =
      "conflict on attempt 2:" ++ " " ++ inner.message ++ " " ++ "for orders" := rfl
  have error : inner.IsError := trivial
  have error' : outer.IsError := trivial
  obtain ⟨_, _, earlier, stays, kept⟩ := classify_wrapped error error' shows
  exact ⟨distracting, category, known, earlier, stays category, kept known⟩

end CloudPlan
