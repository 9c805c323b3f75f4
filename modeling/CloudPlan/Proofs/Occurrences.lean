import CloudPlan.Text.Pattern
import Mathlib.Data.List.Forall2
import Mathlib.Data.List.Infix

/-!
# Where patterns occur

`Pattern.Matches` says which stretches of text a pattern matches, given the characters on both
sides, of which only matters whether they are word characters. A pattern occurs in a text if it
matches a stretch of it (`occursIn_iff`), and then in every text around that one whose edges break
words (`Occurs.surround`).

Where the stretches that a pattern matches never overlap with a fixed wording, the wording
separates: the pattern occurs in a text with the wording in it only if it occurs before or after
(`occurs_append_iff`). `Pattern.avoids` decides that from the finitely many words of a pattern. It
follows that the pattern occurs in a filled template only if it occurs in what was filled in
(`occurs_fill_iff`).
-/

set_option autoImplicit false

namespace CloudPlan.Text

/-- Whether there is a character and it is a word character. -/
def wordAt : Option Char → Bool
  | some c => isWord c
  | none => false

/-- A place is a boundary if exactly one of the characters around it is part of a word. -/
theorem atBoundary_eq (before : Option Char) (after : List Char) :
    Place.atBoundary ⟨before, after⟩ = (wordAt before != wordAt after.head?) := by
  cases before <;> cases after <;> rfl

namespace Pattern

/-! ## Matches and occurrences -/

/-- A pattern matches a stretch of text between two characters, if there are any. -/
inductive Matches : Pattern → Option Char → List Char → Option Char → Prop where
  | empty {l r : Option Char} : Matches .empty l [] r
  | char {l r : Option Char} {c d : Char} (same : equalsFolded c d = true) :
      Matches (.char c) l [d] r
  | any {l r : Option Char} {d : Char} (visible : d ≠ '\n') : Matches .any l [d] r
  | boundary {l r : Option Char} (turn : (wordAt l != wordAt r) = true) : Matches .boundary l [] r
  | seq {a b : Pattern} {l r : Option Char} {s t : List Char}
      (first : Matches a l s (t.head?.or r)) (second : Matches b (s.getLast?.or l) t r) :
      Matches (.seq a b) l (s ++ t) r
  | left {a b : Pattern} {l r : Option Char} {s : List Char} (first : Matches a l s r) :
      Matches (.alt a b) l s r
  | right {a b : Pattern} {l r : Option Char} {s : List Char} (second : Matches b l s r) :
      Matches (.alt a b) l s r

/-- The ends of a pattern at a place are the places after the stretches that it matches from there. -/
theorem mem_ends_iff {p : Pattern} {l : Option Char} {cs : List Char} {q : Place} :
    q ∈ p.ends ⟨l, cs⟩ ↔
      ∃ s, cs = s ++ q.after ∧ q.before = s.getLast?.or l ∧ p.Matches l s q.after.head? := by
  -- The place before a match is general: in a sequence the second part starts where the first ends.
  induction p generalizing l cs q with
  | empty =>
    constructor
    · intro ended
      obtain rfl := List.mem_singleton.mp ended
      exact ⟨[], rfl, rfl, .empty⟩
    · rintro ⟨s, rfl, before, ⟨⟩⟩
      obtain ⟨b, a⟩ := q
      simp_all [ends]
  | char c =>
    constructor
    · intro ended
      cases cs with
      | nil => simp [ends] at ended
      | cons d rest =>
        rw [ends] at ended
        split at ended
        · obtain rfl := List.mem_singleton.mp ended
          exact ⟨[d], rfl, rfl, .char ‹_›⟩
        · cases ended
    · rintro ⟨s, rfl, before, ⟨same⟩⟩
      obtain ⟨b, a⟩ := q
      simp_all [ends]
  | any =>
    constructor
    · intro ended
      cases cs with
      | nil => simp [ends] at ended
      | cons d rest =>
        rw [ends] at ended
        split at ended
        · cases ended
        · obtain rfl := List.mem_singleton.mp ended
          exact ⟨[d], rfl, rfl, .any ‹_›⟩
    · rintro ⟨s, rfl, before, ⟨visible⟩⟩
      obtain ⟨b, a⟩ := q
      simp_all [ends]
  | boundary =>
    constructor
    · intro ended
      rw [ends] at ended
      split at ended
      · obtain rfl := List.mem_singleton.mp ended
        refine ⟨[], rfl, rfl, .boundary ?_⟩
        rw [← atBoundary_eq]
        assumption
      · cases ended
    · rintro ⟨s, rfl, before, ⟨turn⟩⟩
      obtain ⟨b, a⟩ := q
      simp_all [ends, atBoundary_eq]
  | seq a b iha ihb =>
    simp only [ends, List.mem_flatMap]
    constructor
    · rintro ⟨m, first, second⟩
      obtain ⟨s, rfl, before, matched⟩ := iha.mp first
      obtain ⟨t, rest, before', matched'⟩ := ihb.mp second
      refine ⟨s ++ t, by rw [rest, List.append_assoc], ?_, .seq ?_ ?_⟩
      · rw [before', before, List.getLast?_append, Option.or_assoc]
      · rw [← List.head?_append, ← rest]
        exact matched
      · rw [← before]
        exact matched'
    · rintro ⟨_, rfl, before, matched⟩
      cases matched with
      | @seq _ _ _ _ s t first second =>
        refine ⟨⟨s.getLast?.or l, t ++ q.after⟩, iha.mpr ⟨s, by simp, rfl, ?_⟩,
          ihb.mpr ⟨t, rfl, ?_, second⟩⟩
        · rw [List.head?_append]
          exact first
        · rw [before, List.getLast?_append, Option.or_assoc]
  | alt a b iha ihb =>
    simp only [ends, List.mem_append, iha, ihb]
    constructor
    · rintro (⟨s, rest, before, matched⟩ | ⟨s, rest, before, matched⟩)
      · exact ⟨s, rest, before, .left matched⟩
      · exact ⟨s, rest, before, .right matched⟩
    · rintro ⟨s, rest, before, matched⟩
      cases matched with
      | left first => exact .inl ⟨s, rest, before, first⟩
      | right second => exact .inr ⟨s, rest, before, second⟩

/-- A pattern occurs in a text if it matches a stretch of it. -/
def Occurs (p : Pattern) (cs : List Char) : Prop :=
  ∃ x s y, cs = x ++ (s ++ y) ∧ p.Matches x.getLast? s y.head?

/-- A pattern has an end at a place exactly if it matches some stretch from there. -/
theorem ends_isEmpty_eq_false_iff {p : Pattern} {l : Option Char} {cs : List Char} :
    (p.ends ⟨l, cs⟩).isEmpty = false ↔ ∃ s y, cs = s ++ y ∧ p.Matches l s y.head? := by
  rw [List.isEmpty_eq_false_iff_exists_mem]
  constructor
  · rintro ⟨q, ended⟩
    obtain ⟨s, rest, _, matched⟩ := mem_ends_iff.mp ended
    exact ⟨s, q.after, rest, matched⟩
  · rintro ⟨s, y, rest, matched⟩
    exact ⟨⟨s.getLast?.or l, y⟩, mem_ends_iff.mpr ⟨s, rest, rfl, matched⟩⟩

/-- The search finds a pattern exactly if it matches some stretch of what is left. -/
theorem occursAfter_iff {p : Pattern} {l : Option Char} {cs : List Char} :
    p.occursAfter l cs = true ↔
      ∃ x s y, cs = x ++ (s ++ y) ∧ p.Matches (x.getLast?.or l) s y.head? := by
  -- on the text: a match starts here or in what is left
  induction cs generalizing l with
  | nil =>
    rw [occursAfter, Bool.not_eq_true', ends_isEmpty_eq_false_iff]
    constructor
    · rintro ⟨s, y, rest, matched⟩
      exact ⟨[], s, y, rest, matched⟩
    · rintro ⟨x, s, y, rest, matched⟩
      obtain ⟨rfl, later⟩ := List.append_eq_nil_iff.mp rest.symm
      exact ⟨s, y, later.symm, matched⟩
  | cons c cs ih =>
    rw [occursAfter, Bool.or_eq_true, Bool.not_eq_true', ends_isEmpty_eq_false_iff, ih]
    constructor
    · rintro (⟨s, y, rest, matched⟩ | ⟨x, s, y, rfl, matched⟩)
      · exact ⟨[], s, y, rest, matched⟩
      · refine ⟨c :: x, s, y, rfl, ?_⟩
        cases x with
        | nil => exact matched
        | cons d x => rwa [List.getLast?_cons_cons]
    · rintro ⟨x, s, y, rest, matched⟩
      cases x with
      | nil => exact .inl ⟨s, y, rest, matched⟩
      | cons d x =>
        obtain ⟨rfl, later⟩ := List.cons.inj rest
        refine .inr ⟨x, s, y, later, ?_⟩
        cases x with
        | nil => exact matched
        | cons d x => rwa [List.getLast?_cons_cons] at matched

/-- A text contains a match exactly if the pattern matches a stretch of it. -/
theorem occursIn_iff {p : Pattern} {text : String} :
    p.occursIn text = true ↔ p.Occurs text.toList := by
  rw [occursIn, occursAfter_iff]
  simp only [Option.or_none, Occurs]

/-! ## What stands around a match -/

/-- What counts of a neighbour is only whether it is part of a word. -/
theorem wordAt_or {a b b' : Option Char} (same : wordAt b = wordAt b') :
    wordAt (a.or b) = wordAt (a.or b') := by
  cases a
  · exact same
  · rfl

/-- At the front a text may be followed by anything that does not begin with part of a word. -/
theorem wordAt_head?_append {cs after : List Char} (edge : wordAt after.head? = false) :
    wordAt (cs ++ after).head? = wordAt cs.head? := by
  rw [List.head?_append, wordAt_or (show _ = wordAt none from edge), Option.or_none]

/-- At the end it may come after anything that does not end with part of a word. -/
theorem wordAt_getLast?_append {before cs : List Char} (edge : wordAt before.getLast? = false) :
    wordAt (before ++ cs).getLast? = wordAt cs.getLast? := by
  rw [List.getLast?_append, wordAt_or (show _ = wordAt none from edge), Option.or_none]

/-- Of the characters around a match only matters whether they are word characters. -/
theorem Matches.congr {p : Pattern} {l l' r r' : Option Char} {s : List Char}
    (matched : p.Matches l s r) (left : wordAt l = wordAt l') (right : wordAt r = wordAt r') :
    p.Matches l' s r' := by
  induction matched generalizing l' r' with
  | empty => exact .empty
  | char same => exact .char same
  | any visible => exact .any visible
  | boundary turn =>
    rw [left, right] at turn
    exact .boundary turn
  | seq _ _ first second =>
    exact .seq (first left (wordAt_or right)) (second (wordAt_or left) right)
  | left _ ih => exact .left (ih left right)
  | right _ ih => exact .right (ih left right)

/-- What occurs in a text occurs wherever that text stands between edges of words. -/
theorem Occurs.surround {p : Pattern} {cs : List Char} (occurs : p.Occurs cs)
    (before after : List Char) (left : wordAt before.getLast? = false)
    (right : wordAt after.head? = false) : p.Occurs (before ++ (cs ++ after)) := by
  obtain ⟨x, s, y, rfl, matched⟩ := occurs
  exact ⟨before ++ x, s, y ++ after, by simp,
    matched.congr (wordAt_getLast?_append left).symm (wordAt_head?_append right).symm⟩

/-! ## Words of a pattern -/

/-- One place of a word: a letter, or any character but a line feed. -/
inductive Letter where
  | char (c : Char)
  | any

/-- Whether a character can stand at a place of a word. -/
def Letter.fits : Letter → Char → Bool
  | .char c, d => equalsFolded c d
  | .any, d => d != '\n'

/-- The words that a pattern stands for, without regard to boundaries. -/
def words : Pattern → List (List Letter)
  | .empty => [[]]
  | .char c => [[.char c]]
  | .any => [[.any]]
  | .boundary => [[]]
  | .seq a b => a.words.flatMap fun u => b.words.map (u ++ ·)
  | .alt a b => a.words ++ b.words

/-- A match spells one of the words of the pattern. -/
theorem Matches.exists_word {p : Pattern} {l r : Option Char} {s : List Char}
    (matched : p.Matches l s r) : ∃ w ∈ p.words, List.Forall₂ (fun a c => a.fits c = true) w s := by
  induction matched with
  | empty => exact ⟨[], List.mem_singleton_self _, .nil⟩
  | char same => exact ⟨_, List.mem_singleton_self _, .cons same .nil⟩
  | any visible =>
    refine ⟨_, List.mem_singleton_self _, .cons ?_ .nil⟩
    exact bne_iff_ne.mpr visible
  | boundary => exact ⟨[], List.mem_singleton_self _, .nil⟩
  | seq _ _ first second =>
    obtain ⟨u, here, spelled⟩ := first
    obtain ⟨v, there, spelled'⟩ := second
    exact ⟨u ++ v, List.mem_flatMap.mpr ⟨u, here, List.mem_map.mpr ⟨v, there, rfl⟩⟩,
      List.rel_append spelled spelled'⟩
  | left _ ih =>
    obtain ⟨w, here, spelled⟩ := ih
    exact ⟨w, List.mem_append_left _ here, spelled⟩
  | right _ ih =>
    obtain ⟨w, here, spelled⟩ := ih
    exact ⟨w, List.mem_append_right _ here, spelled⟩

/-- Whether a word and a text differ at a place that both reach. -/
def clash : List Letter → List Char → Bool
  | a :: w, c :: t => !a.fits c || clash w t
  | _, _ => false

/-- What is spelled at the start of a text does not clash with that text. -/
theorem clash_eq_false {w : List Letter} {s t y v : List Char}
    (spelled : List.Forall₂ (fun a c => a.fits c = true) w s) (same : s ++ y = t ++ v) :
    clash w t = false := by
  induction spelled generalizing t with
  | nil => rfl
  | cons fits _ ih =>
    cases t with
    | nil => rfl
    | cons d t =>
      obtain ⟨rfl, later⟩ := List.cons.inj same
      rw [clash, fits, ih later]
      rfl

/-- Whether no word of a pattern can overlap with a wording: each word clashes with what is left of
the wording wherever it starts in the wording, and with the wording wherever that starts in it. -/
def avoids (p : Pattern) (wording : List Char) : Bool :=
  p.words.all fun w => !w.isEmpty &&
    w.tails.all (fun v => v.isEmpty || clash v wording) &&
    wording.tails.all fun t => t.isEmpty || clash w t

/-- Whether a wording separates texts for a pattern: no match overlaps with it, and both of its ends
break words. -/
def separates (p : Pattern) (wording : List Char) : Bool :=
  p.avoids wording && !wording.isEmpty && !wordAt wording.head? && !wordAt wording.getLast?

section Separation

variable {p : Pattern} {wording : List Char}

/-- A match of a pattern that avoids a wording spells a word that cannot overlap with the wording. -/
theorem exists_clash (avoided : p.avoids wording = true) {l r : Option Char} {s : List Char}
    (matched : p.Matches l s r) :
    ∃ w, List.Forall₂ (fun a c => a.fits c = true) w s ∧ w ≠ [] ∧
      (∀ v, v <:+ w → v ≠ [] → clash v wording = true) ∧
      ∀ t, t <:+ wording → t ≠ [] → clash w t = true := by
  obtain ⟨w, here, spelled⟩ := matched.exists_word
  have checked := List.all_eq_true.mp avoided w here
  simp only [Bool.and_eq_true, Bool.not_eq_true', List.all_eq_true, List.mem_tails,
    Bool.or_eq_true, List.isEmpty_iff, List.isEmpty_eq_false_iff] at checked
  obtain ⟨⟨nonempty, inWord⟩, inWording⟩ := checked
  exact ⟨w, spelled, nonempty, fun v tail some => (inWord v tail).resolve_left some,
    fun t tail some => (inWording t tail).resolve_left some⟩

/-- A stretch that is matched does not reach into the wording from before it. -/
theorem eq_nil_of_match_before (avoided : p.avoids wording = true) {l r : Option Char}
    {c s y v : List Char} (matched : p.Matches l (c ++ s) r) (same : wording ++ v = s ++ y) :
    s = [] := by
  obtain ⟨w, spelled, _, inWord, _⟩ := exists_clash avoided matched
  have tail := List.forall₂_drop_append w c s spelled
  by_contra some
  have clashes := inWord (w.drop c.length) (List.drop_suffix _ _) ?_
  · rw [clash_eq_false tail same.symm] at clashes
    cases clashes
  · intro none
    rw [none] at tail
    exact some (List.forall₂_nil_left_iff.mp tail)

/-- A stretch that is matched does not start within the wording. -/
theorem eq_nil_of_match_within (avoided : p.avoids wording = true) {l r : Option Char}
    {x t s y v : List Char} (matched : p.Matches l s r) (within : wording = x ++ t)
    (same : s ++ y = t ++ v) : t = [] := by
  obtain ⟨w, spelled, _, _, inWording⟩ := exists_clash avoided matched
  by_contra some
  have clashes := inWording t ⟨x, within.symm⟩ some
  rw [clash_eq_false spelled same] at clashes
  cases clashes

/-- **Separation.** Around a wording that separates texts for a pattern, the pattern occurs only
before or after it. -/
theorem occurs_append_iff (separated : p.separates wording = true) {u v : List Char} :
    p.Occurs (u ++ (wording ++ v)) ↔ p.Occurs u ∨ p.Occurs v := by
  simp only [separates, Bool.and_eq_true, Bool.not_eq_true', List.isEmpty_eq_false_iff] at separated
  obtain ⟨⟨⟨avoided, nonempty⟩, starts⟩, ends⟩ := separated
  have starts' : wordAt (wording ++ v).head? = false := by
    rw [List.head?_append_of_ne_nil _ nonempty]
    exact starts
  have ends' : wordAt (u ++ wording).getLast? = false := by
    rw [List.getLast?_append_of_ne_nil _ nonempty]
    exact ends
  constructor
  · rintro ⟨x, s, y, split, matched⟩
    have before : ∀ {c}, u = x ++ (s ++ c) → y = c ++ (wording ++ v) → p.Occurs u := by
      rintro c whole rfl
      exact ⟨x, s, c, whole, matched.congr rfl (wordAt_head?_append starts')⟩
    have after : ∀ {c}, x = u ++ (wording ++ c) → v = c ++ (s ++ y) → p.Occurs v := by
      rintro c rfl whole
      rw [← List.append_assoc] at matched
      exact ⟨c, s, y, whole, matched.congr (wordAt_getLast?_append ends') rfl⟩
    rcases List.append_eq_append_iff.mp split with ⟨c, rfl, later⟩ | ⟨c, rfl, later⟩
    · -- The match starts in the wording, where every word clashes, or after it.
      rcases List.append_eq_append_iff.mp later with ⟨d, rfl, whole⟩ | ⟨d, within, whole⟩
      · exact .inr (after rfl whole)
      · obtain rfl := eq_nil_of_match_within avoided matched within whole
        rw [List.append_nil] at within
        exact .inr (after (c := []) (by rw [within, List.append_nil]) whole.symm)
    · -- The match starts before the wording; it may end there or right before the wording.
      rcases List.append_eq_append_iff.mp later with ⟨d, rfl, whole⟩ | ⟨d, rfl, whole⟩
      · exact .inl (before rfl whole)
      · obtain rfl := eq_nil_of_match_before avoided matched whole
        exact .inl (before (c := []) (by simp) whole.symm)
  · rintro (before | after)
    · exact before.surround [] (wording ++ v) rfl starts'
    · have shown := after.surround (u ++ wording) [] ends' rfl
      rwa [List.append_nil, List.append_assoc] at shown

/-- A pattern with a separating wording does not occur in the empty text. -/
theorem not_occurs_nil (separated : p.separates wording = true) : ¬ p.Occurs [] := by
  rintro ⟨x, s, y, nothing, matched⟩
  simp only [separates, Bool.and_eq_true] at separated
  obtain ⟨w, spelled, nonempty, _⟩ := exists_clash separated.1.1.1 matched
  obtain ⟨rfl, _⟩ := List.append_eq_nil_iff.mp (List.append_eq_nil_iff.mp nothing.symm).2
  exact nonempty (List.forall₂_nil_right_iff.mp spelled)

end Separation

end Pattern

/-! ## Templates -/

/-- A template that is filled in: each piece is a fixed wording and the text that follows it, and a
last wording ends it. -/
def fill (ending : String) : List (String × String) → List Char
  | [] => ending.toList
  | (wording, text) :: rest => wording.toList ++ (text.toList ++ fill ending rest)

namespace Pattern

variable {p : Pattern} {ending : String} {pieces : List (String × String)}

/-- Where all wordings of a template separate, a pattern occurs in a text before it and in the
template only if it occurs in that text or in what was filled in. -/
theorem occurs_append_fill_iff (ended : p.separates ending.toList = true)
    (worded : ∀ piece ∈ pieces, p.separates piece.1.toList = true) (cs : List Char) :
    p.Occurs (cs ++ fill ending pieces) ↔
      p.Occurs cs ∨ ∃ piece ∈ pieces, p.Occurs piece.2.toList := by
  induction pieces generalizing cs with
  | nil =>
    have nothing := occurs_append_iff ended (u := cs) (v := [])
    rw [List.append_nil, or_iff_left (not_occurs_nil ended)] at nothing
    simpa [fill] using nothing
  | cons piece rest ih =>
    obtain ⟨wording, text⟩ := piece
    have later := ih (fun piece there => worded piece (List.mem_cons_of_mem _ there)) text.toList
    rw [fill, occurs_append_iff (worded _ List.mem_cons_self), later]
    simp

/-- A pattern occurs in a filled template exactly if it occurs in what was filled in. -/
theorem occurs_fill_iff (ended : p.separates ending.toList = true)
    (worded : ∀ piece ∈ pieces, p.separates piece.1.toList = true) :
    p.Occurs (fill ending pieces) ↔ ∃ piece ∈ pieces, p.Occurs piece.2.toList := by
  have whole := occurs_append_fill_iff ended worded []
  rwa [List.nil_append, or_iff_right (not_occurs_nil ended)] at whole

/-- A text in a line of its own has the occurrences that it has alone. -/
theorem occurs_line_iff (separated : p.separates ['\n'] = true) {cs : List Char} :
    p.Occurs (['\n'] ++ (cs ++ ['\n'])) ↔ p.Occurs cs := by
  have nothing := not_occurs_nil separated
  have first := occurs_append_iff separated (u := []) (v := cs ++ ['\n'])
  have second := occurs_append_iff separated (u := cs) (v := [])
  rw [or_iff_right nothing] at first
  rw [or_iff_left nothing, List.append_nil] at second
  exact first.trans second

end Pattern

end CloudPlan.Text
