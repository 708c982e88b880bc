import WorkHost.Text.Blank

/-!
Contract: what an enqueue does when the queue is full, and how the choice is written.

The written form is read without regard to surrounding white space and to ASCII case.
-/

namespace WorkHost

inductive OverflowPolicy where
  /-- The producer is suspended until a place is free. -/
  | wait
  /-- The enqueue fails at once. -/
  | reject
deriving DecidableEq, Repr, Inhabited

namespace OverflowPolicy

def text : OverflowPolicy → String
  | .wait => "wait"
  | .reject => "reject"

def ofText? : String → Option OverflowPolicy
  | "wait" => some .wait
  | "reject" => some .reject
  | _ => none

theorem ofText?_text (policy : OverflowPolicy) : ofText? policy.text = some policy := by
  cases policy <;> rfl

/-- Reads a policy as people write it; the error names the text that was compared. -/
def parse (written : String) : Except String OverflowPolicy :=
  let name := String.ofList (Text.lowerAscii (Text.trimBlanks written.toList))
  match ofText? name with
  | some policy => .ok policy
  | none => .error s!"unknown overflow policy '{name}' (expected wait|reject)"

end OverflowPolicy

end WorkHost
