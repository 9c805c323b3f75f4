import CloudPlan.Lowering.Http
import CloudPlan.Proofs.Names

/-!
# Where the mark of an ARN can come from

An ARN is told by the mark `arn:` in a text. Lowering cuts texts, joins them around separators and
puts them into upper case. A part of a text has no mark that the text does not have; two texts
around a separator hold the mark only if one of them does, because no separator occurs in it
(`holdsArn_join`); and upper-case text holds none, because it has no `a` (`not_holdsArn_upper`).
-/

set_option autoImplicit false

namespace CloudPlan

/-- The mark of an ARN. -/
def arnMark : List Char := ['a', 'r', 'n', ':']

/-- The mark of an ARN occurs in the text. -/
def HoldsArn (s : String) : Prop :=
  arnMark <:+: s.toList

/-- Looks for the mark at every place. -/
def findsArn : List Char → Bool
  | [] => false
  | c :: rest => arnMark.isPrefixOf (c :: rest) || findsArn rest

/-- The search finds the mark exactly if it occurs. -/
theorem findsArn_iff {cs : List Char} : findsArn cs = true ↔ arnMark <:+: cs := by
  induction cs with
  | nil => simp [findsArn, arnMark]
  | cons c rest ih =>
    rw [findsArn, Bool.or_eq_true, List.isPrefixOf_iff_prefix, ih, List.infix_cons_iff]

instance (s : String) : Decidable (HoldsArn s) :=
  decidable_of_iff (findsArn s.toList = true) findsArn_iff

/-! ## Parts and joins -/

/-- A stretch of characters without the separator stands on one side of it. -/
theorem infix_append_cons_iff {m xs ys : List Char} {c : Char} (apart : c ∉ m) :
    m <:+: xs ++ c :: ys ↔ m <:+: xs ∨ m <:+: ys := by
  constructor
  · intro inside
    rcases List.infix_append_iff.mp inside with left | right | ⟨first, second, rfl, ends, starts⟩
    · exact Or.inl left
    · rcases List.infix_cons_iff.mp right with starts | later
      · cases m with
        | nil => exact Or.inl (List.nil_infix)
        | cons d rest =>
          obtain ⟨rfl, _⟩ := List.cons_prefix_cons.mp starts
          exact absurd List.mem_cons_self apart
      · exact Or.inr later
    · cases second with
      | nil =>
        rw [List.append_nil]
        exact Or.inl ends.isInfix
      | cons d rest =>
        obtain ⟨rfl, _⟩ := List.cons_prefix_cons.mp starts
        exact absurd (List.mem_append_right _ List.mem_cons_self) apart
  · rintro (left | right)
    · exact left.trans (List.prefix_append _ _).isInfix
    · exact right.trans ((List.suffix_cons _ _).trans (List.suffix_append _ _)).isInfix

/-- Two texts around a separator hold the mark exactly if one of them does. -/
theorem holdsArn_join {a s b : String} {c : Char} (separator : s.toList = [c])
    (apart : c ∉ arnMark) : HoldsArn (a ++ s ++ b) ↔ HoldsArn a ∨ HoldsArn b := by
  have chars : (a ++ s ++ b).toList = a.toList ++ c :: b.toList := by simp [separator]
  rw [HoldsArn, chars, infix_append_cons_iff apart]
  rfl

@[simp]
theorem holdsArn_resourceName (short kind : String) :
    HoldsArn (resourceName short kind) ↔ HoldsArn short ∨ HoldsArn kind :=
  holdsArn_join (c := '-') (by decide) (by decide)

@[simp]
theorem holdsArn_primaryName (p : Platform) (short : String) :
    HoldsArn (p.resourceName short) ↔ HoldsArn short := by
  have suffix : ¬ HoldsArn p.suffix := by cases p <;> decide
  rw [p.resourceName_eq, holdsArn_resourceName, or_iff_left suffix]

@[simp]
theorem holdsArn_toField (resource field : String) :
    HoldsArn (Reference.toField resource field).target ↔ HoldsArn resource ∨ HoldsArn field :=
  holdsArn_join (c := '.') (by decide) (by decide)

@[simp]
theorem holdsArn_pairName (e : Edge) :
    HoldsArn e.pairName ↔ HoldsArn (shortName e.source) ∨ HoldsArn (shortName e.target) :=
  holdsArn_join (c := '-') (by decide) (by decide)

/-- A part of a text that holds the mark makes the text hold it. -/
theorem HoldsArn.of_infix {s t : String} (inside : s.toList <:+: t.toList) (marked : HoldsArn s) :
    HoldsArn t :=
  marked.trans inside

/-- A mark in a short name stands in the whole id. -/
theorem HoldsArn.of_shortName {id : String} (marked : HoldsArn (shortName id)) : HoldsArn id := by
  unfold CloudPlan.shortName Text.cut at marked
  cases cut : Text.cutChars ':' id.toList with
  | none =>
    rw [cut] at marked
    exact marked
  | some parts =>
    obtain ⟨before, after⟩ := parts
    rw [cut] at marked
    apply marked.of_infix
    rw [Text.eq_of_cutChars cut, Option.map_some, String.toList_ofList]
    exact ((List.suffix_cons _ _).trans (List.suffix_append _ _)).isInfix

/-- A mark in a trimmed text stands in the whole text. -/
theorem HoldsArn.of_trim {s : String} (marked : HoldsArn (Text.trim s)) : HoldsArn s := by
  apply marked.of_infix
  rw [Text.trim, String.toList_ofList, Text.trimChars]
  -- what is dropped at the end is dropped at the start of the reversed text
  have ends := List.reverse_infix.mpr
    (List.dropWhile_suffix (l := (s.toList.dropWhile Text.isBlank).reverse) Text.isBlank).isInfix
  rw [List.reverse_reverse] at ends
  exact ends.trans (List.dropWhile_suffix _).isInfix

/-! ## Upper case -/

namespace Text

/-- No run of lower-case characters moves onto `a`, whose code point is 97. -/
theorem shift_upperRuns :
    ∀ run ∈ upperRuns.toList,
      (run.last : Int) + run.shift < 97 ∨ 97 < (run.first : Int) + run.shift := by
  decide +kernel

/-- No expansion has a small a. -/
theorem a_not_mem_upperExpansions :
    ∀ entry ∈ upperExpansions.toList, 'a' ∉ entry.2.map Char.ofNat := by
  decide +kernel

/-- Only one number is that of a small a. -/
theorem eq_of_ofNat_eq_a {n : Nat} (same : Char.ofNat n = 'a') : n = 97 := by
  by_cases valid : n.isValidChar
  · rw [Char.ofNat, dif_pos valid] at same
    exact congrArg Char.toNat same
  · rw [Char.ofNat, dif_neg valid] at same
    cases same

/-- No upper-case form of a character outside ASCII has a small a. -/
theorem a_not_mem_upperWide (c : Char) (wide : ¬ c.toNat < 0x80) : 'a' ∉ upperWide c := by
  unfold upperWide
  split
  · rename_i n ns found
    exact a_not_mem_upperExpansions _ (Array.mem_def.mp (Array.mem_of_find?_eq_some found))
  · split
    · rename_i run found
      intro member
      have code := eq_of_ofNat_eq_a (List.mem_singleton.mp member).symm
      have covered := Array.find?_some found
      have apart := shift_upperRuns run (Array.mem_def.mp (Array.mem_of_find?_eq_some found))
      simp only [UpperRun.covers, Bool.and_eq_true, decide_eq_true_eq] at covered
      omega
    · intro member
      apply wide
      rw [← List.mem_singleton.mp member]
      decide

/-- The upper-case form of a character in ASCII is no small a either. -/
theorem toUpper_ne_a {c : Char} (ascii : c.toNat < 0x80) : c.toUpper ≠ 'a' := by
  have all : ∀ n < 0x80, (Char.ofNat n).toUpper ≠ 'a' := by decide
  have here := all c.toNat ascii
  rwa [Char.ofNat_toNat] at here

/-- So no upper-case form has one. -/
theorem a_not_mem_upperChar (c : Char) : 'a' ∉ upperChar c := by
  unfold upperChar
  split
  · rename_i ascii
    simpa using (toUpper_ne_a ascii).symm
  · rename_i wide
    exact a_not_mem_upperWide c wide

end Text

/-- Upper-case text does not hold the mark. -/
theorem not_holdsArn_upper (s : String) : ¬ HoldsArn (Text.upper s) := by
  intro marked
  have there : 'a' ∈ (Text.upper s).toList := List.IsInfix.subset marked List.mem_cons_self
  rw [Text.upper, String.toList_ofList, List.mem_flatMap] at there
  obtain ⟨c, _, upper⟩ := there
  exact Text.a_not_mem_upperChar c upper

end CloudPlan
