import CloudPlan.Proofs.Contributions
import CloudPlan.Proofs.Kinds

/-!
# Which access is granted

The policy of an access intent is named after the principal and the resource alone, and of two
resources of one name the first is kept. So of several intents for one pair only the first has its
policy, and a later one is granted nothing but what the first asked for, without an error.
`granted_iff` says exactly which intents are granted by a run without errors: those that are covered
by an intent that is the first one for its policy.
-/

set_option autoImplicit false

namespace CloudPlan

/-- The name of the policy for an intent, if it asks for access. -/
def Intent.policyName? : Intent → Option String
  | .access i => some (policyName i)
  | .network _ | .config _ | .telemetry _ | .other _ => none

/-- The first intent that asks for the policy of a name. -/
def Context.grantor? (ctx : Context) (name : String) : Option Intent :=
  ctx.intents.find? fun x => x.policyName? == some name

/-- A policy has one statement, which allows some actions on a scope. -/
structure Resource.Allows (r : Resource) (actions : List String) (scope : Value) : Prop where
  type : r.type = ResourceKind.policy.token
  document : Entries.get? r.properties "policy" =
    some (policyDocument (accessStatement actions scope))

/-- A resource attaches the policy of a name to the role of a name. -/
structure Resource.Attaches (r : Resource) (policy role : String) : Prop where
  type : r.type = ResourceKind.rolePolicyAttachment.token
  role : Entries.get? r.properties "role" = some (.refTo role)
  policy : Entries.get? r.properties "policyArn" = some (.refToField policy "arn")

namespace AccessIntent

/-- Some resources grant what an intent asks for: a policy allows every action of every level on the
scope of the intent, and it is attached to the execution role of the principal. -/
def Granted (i : AccessIntent) (ctx : Context) (resources : List Resource) : Prop :=
  ∃ p scope actions, ctx.knownPlatformOf? i.resource = some p ∧ scopeValue i p = .ok scope ∧
    (∀ level ∈ i.levels, ∀ a ∈ p.actions level, a ∈ actions) ∧
    ∃ policy ∈ resources, policy.Allows actions scope ∧
      ∃ attachment ∈ resources, attachment.Attaches policy.name (execRoleName i.principal)

/-- An intent asks for all that another one asks for: for the same role, in the same scope, at least
the same actions. -/
def Covers (ctx : Context) (j i : AccessIntent) : Prop :=
  ∃ p q scope, ctx.knownPlatformOf? i.resource = some p ∧ ctx.knownPlatformOf? j.resource = some q ∧
    scopeValue i p = .ok scope ∧ scopeValue j q = .ok scope ∧
    execRoleName j.principal = execRoleName i.principal ∧
    ∀ level ∈ i.levels, ∀ a ∈ p.actions level, ∃ l ∈ j.levels, a ∈ q.actions l

end AccessIntent

/-- The actions of some levels are those of their tables, each where it is mentioned first. -/
theorem Platform.actionsFor_eq (p : Platform) (levels : List AccessLevel) :
    p.actionsFor levels = (levels.flatMap p.actions).eraseDups :=
  foldl_addName_eraseDups [] (levels.flatMap p.actions)

/-- Reading and writing a queue both take its attributes, which are listed once. -/
example : Platform.queue.actionsFor [.read, .write] =
    ["sqs:ReceiveMessage", "sqs:DeleteMessage", "sqs:GetQueueAttributes", "sqs:SendMessage"] := by
  decide

/-- The actions for some levels are those of each of them. -/
theorem Platform.mem_actionsFor {p : Platform} {levels : List AccessLevel} {a : String} :
    a ∈ p.actionsFor levels ↔ ∃ level ∈ levels, a ∈ p.actions level := by
  rw [actionsFor_eq, List.mem_eraseDups, List.mem_flatMap]

/-! ## Policies and attachments among the resources -/

/-- The policy of an intent allows its actions on its scope. -/
theorem allows_accessPolicy (i : AccessIntent) (p : Platform) (actions : List String)
    (scope : Value) : (accessPolicy i p actions scope).Allows actions scope where
  type := rfl
  document := rfl

/-- The attachment of an intent attaches its policy to the role of its principal. -/
theorem attaches_accessAttachment (i : AccessIntent) :
    (accessAttachment i).Attaches (policyName i) (execRoleName i.principal) where
  type := rfl
  role := rfl
  policy := rfl

/-- A policy is that of an access intent, and allows the actions for its levels on its scope. -/
theorem Context.Yields.of_allows {ctx : Context} {r : Resource} (yields : ctx.Yields r)
    {actions : List String} {scope : Value} (allows : r.Allows actions scope) :
    ∃ i p, .access i ∈ ctx.intents ∧ ctx.knownPlatformOf? i.resource = some p ∧
      scopeValue i p = .ok scope ∧ actions = p.actionsFor i.levels ∧
      r = accessPolicy i p actions scope := by
  have type := allows.type
  cases yields with
  | @policy i p value intent platform within =>
    have listed := allows.document
    rw [(allows_accessPolicy i p _ value).document, Option.some.injEq] at listed
    obtain ⟨same, rfl⟩ : p.actionsFor i.levels = actions ∧ value = scope := by
      simpa [policyDocument, accessStatement, List.map_inj_right] using listed
    exact ⟨i, p, intent, platform, within, same.symm, by rw [same]⟩
  | _ => simp at type

/-- An attachment of a policy by its reference is that of an access intent. -/
theorem Context.Yields.of_attaches {ctx : Context} {r : Resource} (yields : ctx.Yields r)
    {policy role : String} (attaches : r.Attaches policy role) :
    ∃ i, .access i ∈ ctx.intents ∧ policyName i = policy ∧ execRoleName i.principal = role ∧
      r = accessAttachment i := by
  have type := attaches.type
  cases yields with
  | basic =>
    have managed := attaches.policy
    cases managed
  | @attachment i p intent platform =>
    have known := attaches_accessAttachment i
    have sameRole := known.role.symm.trans attaches.role
    have samePolicy := known.policy.symm.trans attaches.policy
    refine ⟨i, intent, ?_, ?_, rfl⟩
    · simpa [Value.refToField, Reference.toField] using samePolicy
    · simpa [Value.refTo] using sameRole
  | _ => simp at type

/-! ## The first intent for a policy has its resources kept -/

/-- A name with another ending is that of no policy and of no attachment of one. -/
theorem names_ne_of_ending {name last : String} {j : AccessIntent} (known : ending name = last)
    (noPolicy : last ≠ "policy") (noAttachment : last ≠ "attachment") :
    name ≠ policyName j ∧ name ≠ (accessAttachment j).name := by
  refine ⟨?_, ?_⟩
  · rintro rfl
    exact noPolicy (known.symm.trans (ending_policyName j))
  · rintro rfl
    exact noAttachment (known.symm.trans (ending_accessAttachment j))

/-- No policy has the name of an attachment. -/
theorem policyName_ne_attachment (i j : AccessIntent) : policyName i ≠ (accessAttachment j).name := by
  intro same
  have last := congrArg ending same
  rw [ending_policyName, ending_accessAttachment] at last
  exact absurd last (by decide)

/-- Attachments of the same name attach policies of the same name. -/
theorem policyName_eq_of_attachment {i j : AccessIntent}
    (same : (accessAttachment i).name = (accessAttachment j).name) : policyName i = policyName j := by
  have named : policyName i ++ "-attachment" = policyName j ++ "-attachment" := same
  simpa using named

/-- What an intent becomes bears neither the name of a policy nor that of its attachment, unless the
intent asks for that policy. -/
theorem name_ne_of_made {mode : LookupMode} {ctx : Context} {x : Intent} {j : AccessIntent}
    (other : x.policyName? ≠ some (policyName j)) {r : Resource}
    (member : r ∈ made ((Adapter.standard mode).intentOutcome ctx x)) :
    r.name ≠ policyName j ∧ r.name ≠ (accessAttachment j).name := by
  rw [Adapter.intentOutcome_standard] at member
  cases x with
  | access i =>
    have different : policyName i ≠ policyName j := by
      intro same
      exact other (by rw [Intent.policyName?, same])
    cases lowered : i.lower ctx with
    | error e =>
      simp only [lowered] at member
      cases member
    | ok resources =>
      obtain ⟨_, p, scope, _, _, rfl⟩ := AccessIntent.lower_eq_ok_iff.mp lowered
      simp only [lowered, made, AccessIntent.resources, execRole, List.cons_append,
        List.nil_append, List.mem_cons, List.not_mem_nil, or_false] at member
      rcases member with rfl | rfl | rfl | rfl
      · exact names_ne_of_ending (ending_execRoleName i.principal) (by decide) (by decide)
      · exact names_ne_of_ending (ending_basicAttachment _ _) (by decide) (by decide)
      · exact ⟨different, policyName_ne_attachment i j⟩
      · refine ⟨(policyName_ne_attachment j i).symm, ?_⟩
        intro same
        exact different (policyName_eq_of_attachment same)
  | config i =>
    simp only [ConfigIntent.lower] at member
    split at member
    · cases member
    · obtain rfl := List.mem_singleton.mp member
      exact names_ne_of_ending (ending_parameterName i) (by decide) (by decide)
  | network i => cases member
  | telemetry i => cases member
  | other i => cases member

/-- In a run without errors the policy and the attachment of the first intent for a policy are
kept. -/
theorem kept_of_grantor {mode : LookupMode} {ctx : Context}
    (clean : ((Adapter.standard mode).gather ctx).Clean) {j : AccessIntent}
    (first : ctx.grantor? (policyName j) = some (.access j)) :
    ∃ q scope, ctx.knownPlatformOf? j.resource = some q ∧ scopeValue j q = .ok scope ∧
      accessPolicy j q (q.actionsFor j.levels) scope ∈
        ((Adapter.standard mode).lower ctx).resources ∧
      accessAttachment j ∈ ((Adapter.standard mode).lower ctx).resources := by
  have intent : .access j ∈ ctx.intents := List.mem_of_find?_eq_some first
  obtain ⟨_, before, after, intents, fresh⟩ := List.find?_eq_some_iff_append.mp first
  obtain ⟨outcomes, _, resources⟩ := Adapter.outcomes_of_clean _ _ clean
  obtain ⟨mine, outcome⟩ := outcomes _ intent
  have lowered := outcome
  rw [Adapter.intentOutcome_standard] at lowered
  obtain ⟨_, q, scope, platform, within, rfl⟩ := AccessIntent.lower_eq_ok_iff.mp lowered
  obtain ⟨rest, split⟩ : ∃ rest, ((Adapter.standard mode).gather ctx).resources =
      ((before.flatMap fun x => made ((Adapter.standard mode).intentOutcome ctx x)) ++
        execRole j.principal j.edge) ++
        accessPolicy j q (q.actionsFor j.levels) scope :: accessAttachment j :: rest := by
    rw [resources, intents, List.flatMap_append, List.flatMap_cons, outcome, made,
      AccessIntent.resources]
    simp only [List.append_assoc, List.cons_append, List.nil_append]
    exact ⟨_, rfl⟩
  -- intents before the first one for this policy make nothing of the two names
  have earlier : ∀ r ∈ (before.flatMap fun x =>
      made ((Adapter.standard mode).intentOutcome ctx x)) ++ execRole j.principal j.edge,
      r.name ≠ policyName j ∧ r.name ≠ (accessAttachment j).name := by
    intro r present
    rcases List.mem_append.mp present with old | role
    · obtain ⟨x, early, member⟩ := List.mem_flatMap.mp old
      refine name_ne_of_made ?_ member
      intro same
      have unequal := fresh x early
      simp [same] at unequal
    · simp only [execRole, List.mem_cons, List.not_mem_nil, or_false] at role
      rcases role with rfl | rfl
      · exact names_ne_of_ending (ending_execRoleName j.principal) (by decide) (by decide)
      · exact names_ne_of_ending (ending_basicAttachment _ _) (by decide) (by decide)
  refine ⟨q, scope, platform, within, ?_, ?_⟩
  · apply Pass.mem_finish_of_split split
    intro r early
    exact (earlier r early).1
  · refine Pass.mem_finish_of_split (split.trans (List.append_cons ..)) ?_
    intro r early
    rcases List.mem_append.mp early with old | policy
    · exact (earlier r old).2
    · rw [List.mem_singleton.mp policy]
      exact policyName_ne_attachment j j

/-! ## Exactly the covered intents are granted -/

/-- The policy of an access intent has a first intent that asks for it. -/
theorem exists_grantor {ctx : Context} {i : AccessIntent} (intent : .access i ∈ ctx.intents) :
    ∃ j, policyName j = policyName i ∧ ctx.grantor? (policyName i) = some (.access j) := by
  have found : (ctx.grantor? (policyName i)).isSome = true := by
    unfold Context.grantor?
    rw [List.find?_isSome]
    exact ⟨_, intent, by simp [Intent.policyName?]⟩
  obtain ⟨x, first⟩ := Option.isSome_iff_exists.mp found
  have named := List.find?_some first
  cases x with
  | access j =>
    refine ⟨j, ?_, first⟩
    simpa [Intent.policyName?] using named
  | network j => simp [Intent.policyName?] at named
  | config j => simp [Intent.policyName?] at named
  | telemetry j => simp [Intent.policyName?] at named
  | other j => simp [Intent.policyName?] at named

/-- **What access is granted.** In a run without errors an access intent is granted exactly if it is
covered by an intent that is the first one for its policy. -/
theorem granted_iff {mode : LookupMode} {ctx : Context}
    (success : ((Adapter.standard mode).lower ctx).success = true) (i : AccessIntent) :
    i.Granted ctx ((Adapter.standard mode).lower ctx).resources ↔
      ∃ j, ctx.grantor? (policyName j) = some (.access j) ∧ j.Covers ctx i := by
  have clean := Pass.success_finish_iff.mp success
  constructor
  · rintro ⟨p, scope, actions, platform, within, listed, policy, kept, allows, attachment, kept',
      attaches⟩
    obtain ⟨k, q, asks, _, _, _, rfl⟩ := (Context.yields_of_mem_lower kept).of_allows allows
    obtain ⟨m, _, samePolicy, sameRole, rfl⟩ :=
      (Context.yields_of_mem_lower kept').of_attaches attaches
    obtain ⟨j, named, first⟩ := exists_grantor asks
    rw [← named] at first
    obtain ⟨q', scope', platform', within', keptFirst, keptFirst'⟩ := kept_of_grantor clean first
    -- of each name one resource is kept, so the policy and the attachment are those of `j`
    have policySame := Pass.eq_of_name_eq keptFirst kept named
    have attachmentName : (accessAttachment j).name = (accessAttachment m).name := by
      show policyName j ++ "-attachment" = policyName m ++ "-attachment"
      rw [named, samePolicy]
      rfl
    have attachmentSame := Pass.eq_of_name_eq keptFirst' kept' attachmentName
    have document := allows.document
    rw [← policySame, (allows_accessPolicy j q' _ scope').document, Option.some.injEq] at document
    obtain ⟨sameActions, rfl⟩ : q'.actionsFor j.levels = actions ∧ scope' = scope := by
      simpa [policyDocument, accessStatement, List.map_inj_right] using document
    have role := attaches.role
    rw [← attachmentSame, (attaches_accessAttachment j).role, Option.some.injEq] at role
    refine ⟨j, first, p, q', _, platform, platform', within, within', ?_, ?_⟩
    · simpa [Value.refTo] using role
    · intro level requested a action
      rw [← Platform.mem_actionsFor, sameActions]
      exact listed level requested a action
  · rintro ⟨j, first, p, q, scope, platform, platform', within, within', role, covered⟩
    obtain ⟨q', scope', known, value, policy, attachment⟩ := kept_of_grantor clean first
    rw [platform', Option.some.injEq] at known
    subst known
    rw [within', Except.ok.injEq] at value
    subst value
    refine ⟨p, scope, _, platform, within, ?_, _, policy, allows_accessPolicy _ _ _ _, _, attachment,
      ?_⟩
    · intro level requested a action
      exact Platform.mem_actionsFor.mpr (covered level requested a action)
    · rw [← role]
      exact attaches_accessAttachment j

/-- A request for access of a function to a queue at one level. -/
def queueAccess (edge : String) (level : AccessLevel) : AccessIntent :=
  ⟨edge, "component:api", "platform:jobs", [level], none⟩

/-- A document in which a function asks to read a queue, and then to write to it. -/
def readThenWrite : Document :=
  ⟨⟨"us-east-1", "orders", none, none⟩,
    [.access (queueAccess "e1" .read), .access (queueAccess "e2" .write)],
    ⟨[⟨"platform:jobs", [("platform", .string "queue")]⟩], []⟩⟩

set_option maxRecDepth 10000 in
/-- The later request of that document is lost, without an error. -/
theorem later_access_lost :
    ((Adapter.standard .registry).lower readThenWrite).success = true ∧
    .access (queueAccess "e2" .write) ∈ readThenWrite.intents ∧
    ¬ (queueAccess "e2" .write).Granted readThenWrite
      ((Adapter.standard .registry).lower readThenWrite).resources := by
  have success : ((Adapter.standard .registry).lower readThenWrite).success = true := by
    decide
  refine ⟨success, by decide, ?_⟩
  rw [granted_iff success]
  rintro ⟨j, first, p, q, scope, platform, platform', _, _, _, covered⟩
  have present : .access j ∈ readThenWrite.intents := List.mem_of_find?_eq_some first
  have queue : Context.knownPlatformOf? readThenWrite "platform:jobs" = some .queue := by decide
  simp only [readThenWrite, List.mem_cons, Intent.access.injEq, List.not_mem_nil, or_false]
    at present
  rcases present with rfl | rfl
  · obtain rfl := Option.some.inj (queue.symm.trans platform)
    obtain rfl := Option.some.inj (queue.symm.trans platform')
    exact absurd (covered .write (by decide) "sqs:SendMessage" (by decide)) (by decide)
  · exact absurd first (by decide)

end CloudPlan
