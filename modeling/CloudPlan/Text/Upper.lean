import CloudPlan.Text.UpperRuns

/-!
# Upper-case text

The full upper-case mapping of Unicode: a character may become several (`ß` becomes `SS`), and no
locale is taken into account.
-/

set_option autoImplicit false

namespace CloudPlan.Text

/-- Whether a run covers the code point `n`. -/
def UpperRun.covers (run : UpperRun) (n : Nat) : Bool :=
  run.first ≤ n && n ≤ run.last && (n - run.first) % run.step == 0

/-- The upper-case form of a character outside ASCII. -/
def upperWide (c : Char) : List Char :=
  match upperExpansions.find? (fun entry => entry.1 == c.toNat) with
  | some (_, ns) => ns.map Char.ofNat
  | none =>
    match upperRuns.find? (fun run => run.covers c.toNat) with
    | some run => [Char.ofNat ((c.toNat : Int) + run.shift).toNat]
    | none => [c]

/-- The upper-case form of a character. -/
def upperChar (c : Char) : List Char :=
  if c.toNat < 0x80 then [c.toUpper] else upperWide c

/-- The upper-case form of a text. -/
def upper (s : String) : String :=
  String.ofList (s.toList.flatMap upperChar)

end CloudPlan.Text
