import CloudPlan.Lowering.Context
import CloudPlan.Link.Reference
import CloudPlan.Plan.Basic
import Mathlib.Data.List.TakeWhile

/-!
# Names

A name without a dot survives the two notations that put a dot after it: `Reference.toField` and
`outputTemplate` can be taken apart again. The part of a name after its last dash tells what kind of
resource the name belongs to, and it can be told from what stands before it.
-/

set_option autoImplicit false

namespace CloudPlan

namespace Text

variable {sep : Char} {cs before after : List Char}

/-- A text without the separator is not cut. -/
theorem cutChars_of_not_mem (missing : sep ∉ cs) : cutChars sep cs = none := by
  induction cs with
  | nil => rfl
  | cons c rest ih =>
    obtain ⟨different, later⟩ := List.ne_and_not_mem_of_not_mem_cons missing
    rw [cutChars, if_neg (Ne.symm different), ih later]
    rfl

/-- A text is cut at the first separator. -/
theorem cutChars_append (missing : sep ∉ before) :
    cutChars sep (before ++ sep :: after) = some (before, after) := by
  induction before with
  | nil => simp [cutChars]
  | cons c rest ih =>
    obtain ⟨different, later⟩ := List.ne_and_not_mem_of_not_mem_cons missing
    rw [List.cons_append, cutChars, if_neg (Ne.symm different), ih later]
    rfl

/-- The two parts and the separator between them make up the text. -/
theorem eq_of_cutChars (parts : cutChars sep cs = some (before, after)) :
    cs = before ++ sep :: after := by
  induction cs generalizing before with
  | nil => cases parts
  | cons c rest ih =>
    by_cases same : c = sep
    · subst same
      rw [cutChars, if_pos rfl] at parts
      cases parts
      rfl
    · rw [cutChars, if_neg same, Option.map_eq_some_iff] at parts
      obtain ⟨⟨l, r⟩, inner, pair⟩ := parts
      cases pair
      rw [ih inner]
      rfl

end Text

/-! ## Names without a dot -/

/-- A text without a dot. -/
def Plain (s : String) : Prop :=
  '.' ∉ s.toList

instance (s : String) : Decidable (Plain s) :=
  inferInstanceAs (Decidable ('.' ∉ s.toList))

@[simp]
theorem plain_append (a b : String) : Plain (a ++ b) ↔ Plain a ∧ Plain b := by
  simp [Plain]

/-- The short name of a plain id is plain. -/
theorem Plain.shortName {id : String} (plain : Plain id) : Plain (shortName id) := by
  unfold CloudPlan.shortName Text.cut
  cases cut : Text.cutChars ':' id.toList with
  | none => exact plain
  | some parts =>
    obtain ⟨l, r⟩ := parts
    intro dot
    apply plain
    have there : '.' ∈ r := by simpa using dot
    rw [Text.eq_of_cutChars cut]
    simp [there]

@[simp]
theorem plain_resourceName (short kind : String) :
    Plain (resourceName short kind) ↔ Plain short ∧ Plain kind := by
  have dash : Plain "-" := by decide
  simp [resourceName, dash]

/-- The name of a primary resource is made from its suffix. -/
theorem Platform.resourceName_eq (p : Platform) (short : String) :
    p.resourceName short = CloudPlan.resourceName short p.suffix :=
  rfl

/-- Primary resources of one platform and one name belong to the same short name. -/
@[simp]
theorem Platform.resourceName_inj {p : Platform} {a b : String} :
    p.resourceName a = p.resourceName b ↔ a = b := by
  simp [Platform.resourceName]

@[simp]
theorem Platform.plain_resourceName (p : Platform) (short : String) :
    Plain (p.resourceName short) ↔ Plain short := by
  have suffix : Plain p.suffix := by cases p <;> decide
  simp [Platform.resourceName_eq, suffix]

namespace Reference

/-- A reference to a plain name is to the resource of that name. -/
theorem resource_of_plain {name : String} (plain : Plain name) :
    Reference.resource ⟨name⟩ = name := by
  simp [resource, Text.cut, Text.cutChars_of_not_mem plain]

/-- It names no field. -/
theorem field?_of_plain {name : String} (plain : Plain name) :
    Reference.field? ⟨name⟩ = none := by
  simp [field?, Text.cut, Text.cutChars_of_not_mem plain]

/-- The target of a reference to a field, cut at its first dot. -/
theorem cut_toField {name : String} (plain : Plain name) (field : String) :
    Text.cut '.' (toField name field).target = some (name, field) := by
  have chars : (toField name field).target.toList = name.toList ++ '.' :: field.toList := by
    simp [toField]
  rw [Text.cut, chars, Text.cutChars_append plain]
  simp

/-- A reference to a field of a plain name is to the resource of that name. -/
theorem resource_toField {name : String} (plain : Plain name) (field : String) :
    (toField name field).resource = name := by
  rw [resource, cut_toField plain]

/-- It names that field. -/
theorem field?_toField {name field : String} (plain : Plain name) (nonempty : field ≠ "") :
    (toField name field).field? = some field := by
  simp [field?, cut_toField plain, nonempty]

end Reference

/-- What stands before a closing brace at the very end. -/
theorem beforeClosingBrace?_append (cs : List Char) :
    beforeClosingBrace? (cs ++ ['\x7d']) = some cs := by
  simp [beforeClosingBrace?]

/-- A template of a plain name can be taken apart again. -/
theorem parseTemplate?_outputTemplate {name field : String} (plain : Plain name)
    (named : name ≠ "") (nonempty : field ≠ "") :
    parseTemplate? (outputTemplate name field) = some (name, field) := by
  have chars : (outputTemplate name field).toList =
      '$' :: '\x7b' :: ((name.toList ++ '.' :: field.toList) ++ ['\x7d']) := by
    simp [outputTemplate]
  obtain ⟨n, ns, hn⟩ := List.exists_cons_of_ne_nil (mt String.toList_eq_nil_iff.mp named)
  obtain ⟨f, fs, hf⟩ := List.exists_cons_of_ne_nil (mt String.toList_eq_nil_iff.mp nonempty)
  simp only [parseTemplate?, chars, beforeClosingBrace?_append, Option.bind_some,
    Text.cutChars_append plain]
  rw [hn, hf]
  simp only [← hn, ← hf, String.ofList_toList]

/-! ## The last part of a name -/

/-- What stands after the last dash of a name. -/
def ending (name : String) : String :=
  String.ofList (name.toList.reverse.takeWhile (· != '-')).reverse

/-- The ending of a name with a dash in its second half is the ending of that half. -/
theorem ending_append {a b : String} (dashed : '-' ∈ b.toList) : ending (a ++ b) = ending b := by
  have stops : (b.toList.reverse.takeWhile (· != '-')).length ≠ b.toList.reverse.length := by
    intro whole
    have all := (List.takeWhile_prefix (· != '-')).eq_of_length whole
    have kept : '-' ∈ b.toList.reverse.takeWhile (· != '-') := by
      rw [all]
      exact List.mem_reverse.mpr dashed
    simpa using List.mem_takeWhile_imp kept
  rw [ending, ending, String.toList_append, List.reverse_append, List.takeWhile_append,
    if_neg stops]

/-- Texts with different endings are different, whatever stands before the endings. -/
theorem append_ne_of_ending {a b x y : String} (dashed : '-' ∈ x.toList) (dashed' : '-' ∈ y.toList)
    (different : ending x ≠ ending y) : a ++ x ≠ b ++ y := by
  intro same
  apply different
  rw [← ending_append dashed, same, ending_append dashed']

/-- The ending of a resource's name is that of its last part. -/
theorem ending_resourceName (short kind : String) : ending (resourceName short kind) = ending kind := by
  have dashed : '-' ∈ ("-" ++ kind).toList := by simp
  rw [resourceName, String.append_assoc, ending_append dashed, ending, ending,
    String.toList_append, List.reverse_append, List.takeWhile_append]
  split
  · rename_i whole
    have all := (List.takeWhile_prefix (· != '-')).eq_of_length whole
    rw [all]
    simp
  · rfl

/-- A name without dashes is its own ending. -/
theorem ending_of_undashed {s : String} (undashed : '-' ∉ s.toList) : ending s = s := by
  have whole : s.toList.reverse.takeWhile (· != '-') = s.toList.reverse := by
    rw [List.takeWhile_eq_self_iff]
    intro c member
    rw [bne_iff_ne]
    rintro rfl
    exact undashed (List.mem_reverse.mp member)
  rw [ending, whole, List.reverse_reverse, String.ofList_toList]

/-- A last part without a dash can be told from what stands before it. -/
theorem resourceName_eq_iff {a b x y : String} (undashed : '-' ∉ x.toList)
    (undashed' : '-' ∉ y.toList) : resourceName a x = resourceName b y ↔ a = b ∧ x = y := by
  constructor
  · intro same
    have last := congrArg ending same
    rw [ending_resourceName, ending_resourceName, ending_of_undashed undashed,
      ending_of_undashed undashed'] at last
    subst last
    refine ⟨?_, rfl⟩
    simpa [resourceName] using same
  · rintro ⟨rfl, rfl⟩
    rfl

end CloudPlan
