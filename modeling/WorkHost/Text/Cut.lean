/-!
Contract: cutting a text at places counted in the bytes of its encoding.

A place that lies within a character cuts nothing.
-/

namespace WorkHost.Text

/-- What follows the first `count` bytes. -/
def dropBytes? : Nat → List Char → Option (List Char)
  | 0, text => some text
  | _ + 1, [] => none
  | count + 1, c :: rest =>
    if c.utf8Size ≤ count + 1 then dropBytes? (count + 1 - c.utf8Size) rest else none

/-- The first `count` bytes. -/
def takeBytes? : Nat → List Char → Option (List Char)
  | 0, _ => some []
  | _ + 1, [] => none
  | count + 1, c :: rest =>
    if c.utf8Size ≤ count + 1 then
      (takeBytes? (count + 1 - c.utf8Size) rest).map (c :: ·)
    else none

end WorkHost.Text
