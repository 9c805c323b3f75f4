import CloudPlan.Lowering.Parameters
import Mathlib

/-!
# Slugs of keys

The runs of a text are its longest stretches of ASCII letters and digits. `keySlug` reads a key from
left to right, puts one dash for whatever stands between two runs, and drops dashes at both ends: it
joins the runs in lower case by dashes (`keySlug_eq_intercalate`). Runs joined by dashes are the runs of
what they make (`Slug.runs_join`), so the slug tells the runs up to case and nothing else, and so does the
name of a parameter among those of one target (`keySlug_canonical`).
-/

set_option autoImplicit false

namespace CloudPlan

namespace Slug

/-! ## Runs -/

/-- What stands before, between and behind the characters that are no letters or digits. -/
def parts (cs : List Char) : List (List Char) :=
  cs.splitOnP fun c => !c.isAlphanum

/-- The longest stretches of letters and digits, in order. -/
def runs (cs : List Char) : List (List Char) :=
  (parts cs).filter fun part => !part.isEmpty

/-- A list of letters and digits that is not empty. -/
def IsRun (run : List Char) : Prop :=
  run ≠ [] ∧ ∀ c ∈ run, c.isAlphanum = true

/-- Characters joined by dashes. -/
def join (words : List (List Char)) : List Char :=
  ['-'].intercalate words

/-- One word is joined to itself. -/
theorem join_singleton (word : List Char) : join [word] = word :=
  List.intercalate_singleton

/-- Between a word and the next one stands a dash. -/
theorem join_cons_cons (first second : List Char) (later : List (List Char)) :
    join (first :: second :: later) = first ++ '-' :: join (second :: later) := by
  rw [join, List.intercalate_cons_cons, List.append_assoc]
  rfl

section Runs

variable {c : Char} {cs : List Char} {words : List (List Char)}

/-- There is always a first part, which may be empty. -/
theorem exists_parts (cs : List Char) : ∃ first later, parts cs = first :: later :=
  List.exists_cons_of_ne_nil (List.splitOnP_ne_nil _ cs)

/-- A letter or digit belongs to the first part. -/
theorem parts_letter (letter : c.isAlphanum = true) {first : List Char} {later : List (List Char)}
    (rest : parts cs = first :: later) : parts (c :: cs) = (c :: first) :: later := by
  have split := List.splitOnP_cons_eq_if_modifyHead (p := fun c => !c.isAlphanum) c cs
  rwa [if_neg (by simp [letter]), ← parts, ← parts, rest, List.modifyHead_cons] at split

/-- Any other character opens a new part. -/
theorem parts_separator (separator : ¬ c.isAlphanum = true) : parts (c :: cs) = [] :: parts cs := by
  have split := List.splitOnP_cons_eq_if_modifyHead (p := fun c => !c.isAlphanum) c cs
  rwa [if_pos (by simp [separator]), ← parts, ← parts] at split

/-- A letter or digit lengthens the first run or starts it. -/
theorem runs_letter (letter : c.isAlphanum = true) {first : List Char} {later : List (List Char)}
    (rest : parts cs = first :: later) :
    runs (c :: cs) = (c :: first) :: later.filter fun part => !part.isEmpty := by
  rw [runs, parts_letter letter rest, List.filter_cons_of_pos (by simp)]

/-- Any other character at the start does not show in the runs. -/
theorem runs_separator (separator : ¬ c.isAlphanum = true) : runs (c :: cs) = runs cs := by
  rw [runs, parts_separator separator, List.filter_cons_of_neg (by simp), runs]

/-- Parts hold letters and digits only. -/
theorem alphanumeric_of_mem_parts {part : List Char} (member : part ∈ parts cs) :
    ∀ c ∈ part, c.isAlphanum = true := by
  induction cs generalizing part with
  | nil =>
    obtain rfl := List.mem_singleton.mp member
    nofun
  | cons d rest ih =>
    obtain ⟨first, later, split⟩ := exists_parts rest
    by_cases letter : d.isAlphanum = true
    · rw [parts_letter letter split, List.mem_cons] at member
      rw [split] at ih
      rcases member with rfl | there
      · exact List.forall_mem_cons.mpr ⟨letter, ih List.mem_cons_self⟩
      · exact ih (List.mem_cons_of_mem _ there)
    · rw [parts_separator letter, List.mem_cons] at member
      rcases member with rfl | there
      · nofun
      · exact ih there

/-- Runs are what they are called: letters and digits, and at least one. -/
theorem isRun_of_mem_runs {run : List Char} (member : run ∈ runs cs) : IsRun run := by
  obtain ⟨part, nonempty⟩ := List.mem_filter.mp member
  exact ⟨by simpa using nonempty, alphanumeric_of_mem_parts part⟩

/-- Letters and digits up to a separator, or to the end, are one run. -/
theorem runs_append {run rest : List Char} (is : IsRun run)
    (ends : ∀ c, rest.head? = some c → ¬ c.isAlphanum = true) :
    runs (run ++ rest) = run :: runs rest := by
  have letters : ∀ c ∈ run, (!c.isAlphanum) = false := by
    intro c member
    rw [is.2 c member, Bool.not_true]
  have kept (later : List (List Char)) : (run :: later).filter (fun part => !part.isEmpty) =
      run :: later.filter fun part => !part.isEmpty :=
    List.filter_cons_of_pos (by simpa using is.1)
  cases rest with
  | nil =>
    rw [List.append_nil, runs, parts, List.splitOnP_eq_singleton letters, kept]
    rfl
  | cons c later =>
    have separator := ends c rfl
    rw [runs_separator separator, runs, parts,
      List.splitOnP_append_cons_of_forall_mem letters c (by simp [separator]), kept]
    rfl

/-- Runs joined by dashes are the runs of what they make. -/
theorem runs_join (are : ∀ word ∈ words, IsRun word) : runs (join words) = words := by
  cases words with
  | nil => rfl
  | cons first later =>
    -- on the words behind the first one, since the dashes stand between words
    induction later generalizing first with
    | nil =>
      have only : runs (first ++ []) = [first] := runs_append (are first List.mem_cons_self) nofun
      rw [join_singleton]
      rwa [List.append_nil] at only
    | cons second later ih =>
      obtain ⟨here, there⟩ := List.forall_mem_cons.mp are
      have dash : ∀ c, ('-' :: join (second :: later)).head? = some c → ¬ c.isAlphanum = true := by
        rintro c ⟨⟩
        decide
      rw [join_cons_cons, runs_append here dash, runs_separator (by decide), ih second there]

end Runs

/-! ## Lower case -/

/-- Characters in lower case. -/
def lowered (cs : List Char) : List Char :=
  cs.map Char.toLower

/-- The runs of some characters in lower case. -/
def loweredRuns (cs : List Char) : List (List Char) :=
  (runs cs).map lowered

/-- A letter or digit in lower case is a small letter or a digit. -/
theorem isLower_or_isDigit_toLower {c : Char} (letter : c.isAlphanum = true) :
    c.toLower.isLower = true ∨ c.toLower.isDigit = true := by
  by_cases alpha : c.isAlpha = true
  · left
    rw [Char.isLower_toLower_eq_isAlpha, alpha]
  · right
    have digit : c.isDigit = true := by simpa [Char.isAlphanum, alpha] using letter
    have notUpper : ¬ c.isUpper = true := fun upper => alpha (by simp [Char.isAlpha, upper])
    rw [Char.toLower_eq_of_not_isUpper notUpper, digit]

/-- No letter or digit becomes a dash in lower case. -/
theorem toLower_ne_dash {c : Char} (letter : c.isAlphanum = true) : c.toLower ≠ '-' := by
  intro dash
  have small := isLower_or_isDigit_toLower letter
  rw [dash] at small
  revert small
  decide

/-- A list of small letters and digits that is not empty. -/
def IsWord (word : List Char) : Prop :=
  word ≠ [] ∧ ∀ c ∈ word, c.isLower = true ∨ c.isDigit = true

section Words

variable {cs word : List Char}

/-- A run in lower case is a word. -/
theorem isWord_of_mem_loweredRuns (member : word ∈ loweredRuns cs) : IsWord word := by
  obtain ⟨run, there, rfl⟩ := List.mem_map.mp member
  have is := isRun_of_mem_runs there
  refine ⟨by simpa [lowered] using is.1, ?_⟩
  intro c member
  obtain ⟨d, there, rfl⟩ := List.mem_map.mp member
  exact isLower_or_isDigit_toLower (is.2 d there)

/-- A word is a run as it stands. -/
theorem IsWord.isRun (is : IsWord word) : IsRun word := by
  refine ⟨is.1, ?_⟩
  intro c member
  rcases is.2 c member with small | digit
  · simp [Char.isAlphanum, Char.isAlpha, small]
  · simp [Char.isAlphanum, digit]

/-- No dash stands in a word. -/
theorem IsWord.ne_dash (is : IsWord word) {c : Char} (member : c ∈ word) : c ≠ '-' := by
  rintro rfl
  have small := is.2 '-' member
  revert small
  decide

/-- Runs in lower case that are joined are the runs of the join. -/
theorem runs_join_loweredRuns (cs : List Char) : runs (join (loweredRuns cs)) = loweredRuns cs :=
  runs_join fun _ member => (isWord_of_mem_loweredRuns member).isRun

/-- The runs in lower case are the runs of their join, and stay as they are. -/
theorem loweredRuns_join (cs : List Char) :
    loweredRuns (join (loweredRuns cs)) = loweredRuns cs := by
  have again : lowered ∘ lowered = lowered := by
    funext run
    simp [lowered]
  rw [loweredRuns, runs_join_loweredRuns, loweredRuns, List.map_map, again]

end Words

/-! ## The form of a slug -/

/-- Small letters, digits and single dashes, with no dash at either end. -/
structure Valid (cs : List Char) : Prop where
  chars : ∀ c ∈ cs, c.isLower = true ∨ c.isDigit = true ∨ c = '-'
  first : cs.head? ≠ some '-'
  last : cs.getLast? ≠ some '-'
  single : cs.IsChain fun c d => c ≠ '-' ∨ d ≠ '-'

section Form

variable {cs word : List Char} {words : List (List Char)}

/-- A word alone is a slug. -/
theorem IsWord.valid (is : IsWord word) : Valid word where
  chars c member := (is.2 c member).imp_right Or.inl
  first dash := is.ne_dash (List.mem_of_head? dash) rfl
  last dash := is.ne_dash (List.mem_of_getLast? dash) rfl
  single := by
    apply List.Pairwise.isChain
    apply List.pairwise_of_forall_mem_list
    intro c member _ _
    exact Or.inl (is.ne_dash member)

/-- A word and a slug that is not empty make a slug with a dash between them. -/
theorem IsWord.append_dash (is : IsWord word) (valid : Valid cs) (nonempty : cs ≠ []) :
    Valid (word ++ '-' :: cs) where
  chars := by
    intro c member
    rcases List.mem_append.mp member with here | there
    · exact is.valid.chars c here
    · rcases List.mem_cons.mp there with rfl | there
      · exact Or.inr (Or.inr rfl)
      · exact valid.chars c there
  first := by
    rw [List.head?_append_of_ne_nil _ is.1]
    exact is.valid.first
  last := by
    rw [List.getLast?_append_of_ne_nil _ (List.cons_ne_nil _ _), List.getLast?_cons_of_ne_nil nonempty]
    exact valid.last
  single := by
    rw [List.isChain_append, List.isChain_cons]
    refine ⟨is.valid.single, ⟨?_, valid.single⟩, ?_⟩
    · rintro d start
      right
      rintro rfl
      exact valid.first start
    · intro c last d _
      exact Or.inl (is.ne_dash (List.mem_of_getLast? last))

/-- A join that starts with a word is not empty. -/
theorem join_ne_nil (nonempty : word ≠ []) : join (word :: words) ≠ [] := by
  cases words with
  | nil => rwa [join_singleton]
  | cons second later =>
    rw [join_cons_cons]
    simp

/-- Words joined by dashes are a slug. -/
theorem valid_join (are : ∀ word ∈ words, IsWord word) : Valid (join words) := by
  cases words with
  | nil => exact ⟨nofun, nofun, nofun, List.IsChain.nil⟩
  | cons first later =>
    induction later generalizing first with
    | nil =>
      rw [join_singleton]
      exact (are first List.mem_cons_self).valid
    | cons second later ih =>
      obtain ⟨here, there⟩ := List.forall_mem_cons.mp are
      rw [join_cons_cons]
      apply here.append_dash (ih second there)
      exact join_ne_nil (there second List.mem_cons_self).1

end Form

/-! ## The slug from left to right -/

/-- What is added to a slug for some characters, behind a dash or not. -/
def squeezed (dashed : Bool) : List Char → List Char
  | [] => []
  | c :: rest =>
    if c.isAlphanum then c.toLower :: squeezed false rest
    else if dashed then squeezed true rest
    else '-' :: squeezed true rest

/-- One pass over the characters, on top of what is there already: behind a dash no other one is
written. -/
theorem reverse_foldl_slugStep (cs slug : List Char) :
    (cs.foldl slugStep slug).reverse = slug.reverse ++ squeezed (slug.head? == some '-') cs := by
  induction cs generalizing slug with
  | nil => simp [squeezed]
  | cons c rest ih =>
    rw [List.foldl_cons, ih, slugStep, squeezed]
    by_cases letter : c.isAlphanum = true
    · have undashed : (c.toLower == '-') = false := beq_false_of_ne (toLower_ne_dash letter)
      simp [letter, undashed]
    · by_cases dashed : slug.head? = some '-'
      · simp [letter, dashed]
      · simp [letter, dashed]

/-- Behind a dash there is no second one. -/
theorem dropWhile_squeezed_true (cs : List Char) :
    (squeezed true cs).dropWhile (· == '-') = squeezed true cs := by
  induction cs with
  | nil => rfl
  | cons c rest ih =>
    rw [squeezed]
    by_cases letter : c.isAlphanum = true
    · rw [if_pos letter, List.dropWhile_cons_of_neg (by simpa using toLower_ne_dash letter)]
    · rw [if_neg letter, if_pos rfl, ih]

/-- To drop the dash at the start is to write as if behind a dash. -/
theorem dropWhile_squeezed (cs : List Char) :
    (squeezed false cs).dropWhile (· == '-') = squeezed true cs := by
  cases cs with
  | nil => rfl
  | cons c rest =>
    by_cases letter : c.isAlphanum = true
    · simp [squeezed, letter, toLower_ne_dash letter]
    · simp [squeezed, letter, dropWhile_squeezed_true]

/-- Words joined by dashes, with nothing or a dash behind them. -/
def Joins (words : List (List Char)) (cs : List Char) : Prop :=
  cs = join words ∨ cs = join words ++ ['-']

namespace Joins

variable {cs word : List Char} {words : List (List Char)}

/-- A letter in front lengthens the first word. -/
theorem letter (joins : Joins (word :: words) cs) (c : Char) :
    Joins ((c :: word) :: words) (c :: cs) := by
  have longer : join ((c :: word) :: words) = c :: join (word :: words) := by
    cases words with
    | nil => rw [join_singleton, join_singleton]
    | cons second later =>
      rw [join_cons_cons, join_cons_cons]
      rfl
  unfold Joins
  rw [longer]
  rcases joins with rfl | rfl
  · exact Or.inl rfl
  · exact Or.inr rfl

/-- A dash in front stands before an empty word, unless nothing follows at all. -/
theorem dash (joins : Joins words cs) (empty : words = [] → cs = []) :
    Joins ([] :: words) ('-' :: cs) := by
  cases words with
  | nil =>
    rw [empty rfl]
    exact Or.inr rfl
  | cons first later =>
    unfold Joins
    rw [join_cons_cons]
    rcases joins with rfl | rfl
    · exact Or.inl rfl
    · exact Or.inr rfl

/-- Without dashes at its end the text is the words alone, if they do not end with one. -/
theorem rdropWhile (joins : Joins words cs) (last : (join words).getLast? ≠ some '-') :
    cs.rdropWhile (· == '-') = join words := by
  have undashed : (join words).rdropWhile (· == '-') = join words := by
    rw [List.rdropWhile_eq_self_iff]
    intro nonempty dash
    apply last
    rw [List.getLast?_eq_getLast_of_ne_nil nonempty, beq_iff_eq.mp dash]
  rcases joins with rfl | rfl
  · exact undashed
  · rw [List.rdropWhile_concat_pos _ _ _ (by decide), undashed]

end Joins

/-- Behind a dash, what is added for some characters are their runs in lower case with dashes between
them. Behind a letter, what stands before the first separator goes on with the run of that letter, even
if it is empty. -/
theorem joins_squeezed (cs : List Char) :
    (Joins (loweredRuns cs) (squeezed true cs) ∧ (loweredRuns cs = [] → squeezed true cs = [])) ∧
    ∀ first later, parts cs = first :: later →
      Joins (lowered first :: (later.filter fun part => !part.isEmpty).map lowered)
        (squeezed false cs) := by
  induction cs with
  | nil =>
    refine ⟨⟨Or.inl rfl, fun _ => rfl⟩, ?_⟩
    rintro first later ⟨⟩
    exact Or.inl rfl
  | cons c rest ih =>
    obtain ⟨⟨closed, none⟩, inRun⟩ := ih
    by_cases letter : c.isAlphanum = true
    · obtain ⟨first, later, split⟩ := exists_parts rest
      have longer := (inRun first later split).letter c.toLower
      rw [loweredRuns, runs_letter letter split, parts_letter letter split]
      simp only [squeezed, if_pos letter]
      refine ⟨⟨longer, nofun⟩, ?_⟩
      rintro _ _ ⟨⟩
      exact longer
    · rw [loweredRuns, runs_separator letter, parts_separator letter]
      simp only [squeezed, if_neg letter, if_true, Bool.false_eq_true, if_false]
      refine ⟨⟨closed, none⟩, ?_⟩
      rintro _ _ ⟨⟩
      exact closed.dash none

end Slug

open Slug

/-- A slug is the join of the runs of its key in lower case. -/
theorem toList_keySlug (key : String) : (keySlug key).toList = join (loweredRuns key.toList) := by
  have joins := (joins_squeezed key.toList).1.1
  have valid : Valid (join (loweredRuns key.toList)) :=
    valid_join fun _ member => isWord_of_mem_loweredRuns member
  calc (keySlug key).toList
      = trimDashes (key.toList.foldl slugStep []).reverse := by rw [keySlug, String.toList_ofList]
    _ = ((squeezed false key.toList).dropWhile (· == '-')).rdropWhile (· == '-') := by
        rw [reverse_foldl_slugStep]
        rfl
    _ = (squeezed true key.toList).rdropWhile (· == '-') := by rw [dropWhile_squeezed]
    _ = join (loweredRuns key.toList) := joins.rdropWhile valid.last

/-- So it has small letters, digits and single dashes, and none at either end. -/
theorem Slug.valid_keySlug (key : String) : Slug.Valid (keySlug key).toList := by
  rw [toList_keySlug]
  exact valid_join fun _ member => isWord_of_mem_loweredRuns member

/-! ## Slugs and names of parameters -/

/-- The runs of a key in lower case. -/
def slugWords (key : String) : List String :=
  (loweredRuns key.toList).map String.ofList

/-- The words of a key are its runs in lower case, as texts. -/
theorem toList_slugWords (key : String) :
    (slugWords key).map String.toList = loweredRuns key.toList := by
  simp [slugWords]

/-- Two keys have the same words if their runs are the same up to case. -/
theorem slugWords_eq_iff {key other : String} :
    slugWords key = slugWords other ↔ loweredRuns key.toList = loweredRuns other.toList := by
  constructor
  · intro same
    rw [← toList_slugWords, same, toList_slugWords]
  · intro same
    rw [slugWords, same, slugWords]

/-- The slug of a key joins its runs in lower case. -/
theorem keySlug_eq_intercalate (key : String) : keySlug key = "-".intercalate (slugWords key) := by
  rw [← String.toList_inj, toList_keySlug, String.toList_intercalate, toList_slugWords]
  rfl

example : slugWords "--API Key, Größe_2" = ["api", "key", "gr", "e", "2"] := by decide

/-- A slug has the words of its key. -/
theorem slugWords_keySlug (key : String) : slugWords (keySlug key) = slugWords key := by
  rw [slugWords_eq_iff, toList_keySlug, loweredRuns_join]

/-- Slugs tell the words of their keys and nothing else. -/
theorem keySlug_eq_iff {key other : String} :
    keySlug key = keySlug other ↔ slugWords key = slugWords other := by
  constructor
  · intro same
    rw [← slugWords_keySlug key, same, slugWords_keySlug other]
  · intro same
    rw [keySlug_eq_intercalate, same, ← keySlug_eq_intercalate]

/-- A config intent with a key that is not blank becomes one parameter. -/
theorem ConfigIntent.lower_of_key {i : ConfigIntent} (given : Text.isBlankText i.key = false)
    (ctx : Context) : i.lower ctx = .ok [i.parameter ctx] := by
  rw [lower, if_neg (by simp [given])]

/-- At one target the slug of the key makes the difference between names. -/
theorem ConfigIntent.parameterName_eq_iff {i j : ConfigIntent} (target : i.target = j.target) :
    i.parameterName = j.parameterName ↔ keySlug i.key = keySlug j.key := by
  simp [parameterName, resourceName, target]

/-- **The slug is a canonical form of keys.** It joins the runs of the key in lower case by dashes, so it
is made of small letters, digits and single dashes between them and is its own slug. Two keys have one
slug exactly if they have the same runs up to case, and for two intents with one target and keys that are
not blank this is exactly when their parameters have one name. -/
theorem keySlug_canonical (key other : String) :
    keySlug key = "-".intercalate (slugWords key) ∧ Slug.Valid (keySlug key).toList ∧
      keySlug (keySlug key) = keySlug key ∧
      (keySlug key = keySlug other ↔ slugWords key = slugWords other) ∧
      ∀ (ctx : Context) (i j : ConfigIntent), i.key = key → j.key = other → i.target = j.target →
        Text.isBlankText key = false → Text.isBlankText other = false →
        ∃ r s, i.lower ctx = .ok [r] ∧ j.lower ctx = .ok [s] ∧
          (r.name = s.name ↔ slugWords key = slugWords other) := by
  refine ⟨keySlug_eq_intercalate key, Slug.valid_keySlug key, ?_, keySlug_eq_iff, ?_⟩
  · rw [keySlug_eq_iff, slugWords_keySlug]
  · rintro ctx i j rfl rfl target given given'
    refine ⟨_, _, i.lower_of_key given ctx, j.lower_of_key given' ctx, ?_⟩
    rw [← keySlug_eq_iff]
    exact ConfigIntent.parameterName_eq_iff target

/-- Two spellings of one key make one name, whatever the document is. -/
theorem keySlug_canonical_spellings :
    keySlug "QUEUE_URL" = "queue-url" ∧ keySlug "queue-url" = "queue-url" ∧
      ∀ ctx, ∃ r s,
        ConfigIntent.lower ⟨"e1", "component:api", "QUEUE_URL", .literal "a"⟩ ctx = .ok [r] ∧
        ConfigIntent.lower ⟨"e2", "component:api", "queue-url", .secret "b"⟩ ctx = .ok [s] ∧
        r.name = s.name := by
  obtain ⟨slug, _, _, _, names⟩ := keySlug_canonical "QUEUE_URL" "queue-url"
  have words : slugWords "QUEUE_URL" = ["queue", "url"] := by decide
  refine ⟨by rw [slug, words]; rfl, by decide, fun ctx => ?_⟩
  obtain ⟨r, s, first, second, same⟩ := names ctx ⟨"e1", "component:api", "QUEUE_URL", .literal "a"⟩
    ⟨"e2", "component:api", "queue-url", .secret "b"⟩ rfl rfl rfl (by decide) (by decide)
  exact ⟨r, s, first, second, same.mpr (by decide)⟩

end CloudPlan
