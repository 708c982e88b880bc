import WorkHost.Text.Alphanumeric
import WorkHost.Text.Blank
import WorkHost.Text.Numeral

/-!
Contract: regular expressions that a filter may match the value of a field with.

`isPattern` says whether a text is one. Classes and case folding that need the tables
of letters of all scripts are not available, nor are word boundaries, counted
repetitions, references and assertions about what surrounds a match.
-/

namespace WorkHost.Pattern

open Text

/-- The letters that stand for a control character after a backslash. -/
def controlEscapes : List (Char × Char) :=
  [('a', '\x07'), ('f', '\x0c'), ('t', '\t'), ('n', '\n'), ('r', '\r'), ('v', '\x0b')]

def hexDigit? (c : Char) : Option Nat :=
  (digit? c).or (("abcdef".toList.findIdx? (· == c.toLower)).map (· + 10))

/-- The character whose code point is written in exactly `count` digits. -/
def readCodePoint (count : Nat) (text : List Char) : Option (Char × List Char) := do
  let digits ← (text.take count).mapM hexDigit?
  let point := digits.foldl (fun value digit => value * 16 + digit) 0
  if digits.length = count ∧ point.isValidChar then
    return (Char.ofNat point, text.drop count)
  else none

/-- The character that is written by what follows a backslash. -/
def readEscape : List Char → Option (Char × List Char)
  | [] => none
  | 'x' :: rest => readCodePoint 2 rest
  | 'u' :: rest => readCodePoint 4 rest
  | 'U' :: rest => readCodePoint 8 rest
  | c :: rest =>
    match controlEscapes.lookup c with
    | some control => some (control, rest)
    | none =>
      if c.toNat < 0x80 && !c.isAlphanum && c != '<' && c != '>' then some (c, rest) else none

/-! ## Classes of characters -/

def readClassItem : List Char → Option (Char × List Char)
  | '\\' :: rest => readEscape rest
  | c :: rest => some (c, rest)
  | [] => none

/-- A character, or a range whose ends are in order. -/
def skipClassRange (text : List Char) : Option (List Char) := do
  let (first, rest) ← readClassItem text
  match rest with
  | '-' :: ']' :: _ | '-' :: '-' :: _ => return rest
  | '-' :: rest =>
    let (last, rest) ← readClassItem rest
    if first ≤ last then return rest else none
  | _ => return rest

def classNames : List String :=
  ["alnum", "alpha", "ascii", "blank", "cntrl", "digit", "graph", "lower", "print", "punct",
    "space", "upper", "word", "xdigit"]

/-- A class given by its name between colons, whose bracket has been consumed. -/
def skipClassName (text : List Char) : Option (List Char) :=
  match text with
  | ':' :: rest =>
    let rest :=
      match rest with
      | '^' :: rest => rest
      | _ => rest
    let name := rest.takeWhile Char.isAlpha
    match rest.drop name.length with
    | ':' :: ']' :: rest =>
      if classNames.contains (String.ofList name) then some rest else none
    | _ => none
  | _ => none

/-- What may stand at the start of a class without a special meaning. -/
def skipClassStart (text : List Char) : List Char :=
  let text :=
    match text with
    | '^' :: rest => rest
    | _ => text
  let rest := text.dropWhile (· == '-')
  match rest with
  | ']' :: after => if rest.length = text.length then after else rest
  | _ => rest

/-- The rest of classes of which `depth` are open. -/
def skipClass : Nat → Nat → List Char → Option (List Char)
  | 0, _, _ => none
  | _, 0, text => some text
  | _, _, [] => none
  | fuel + 1, depth + 1, '[' :: rest =>
    match skipClassName rest with
    | some rest => skipClass fuel (depth + 1) rest
    | none => skipClass fuel (depth + 2) (skipClassStart rest)
  | fuel + 1, depth + 1, ']' :: rest => skipClass fuel depth rest
  | fuel + 1, depth + 1, '&' :: '&' :: rest => skipClass fuel (depth + 1) rest
  | fuel + 1, depth + 1, '-' :: '-' :: rest => skipClass fuel (depth + 1) rest
  | fuel + 1, depth + 1, '~' :: '~' :: rest => skipClass fuel (depth + 1) rest
  | fuel + 1, depth + 1, text => (skipClassRange text).bind (skipClass fuel (depth + 1))

/-! ## Groups -/

inductive GroupStart where
  | group
  /-- Flags that hold from here on. -/
  | flags
deriving DecidableEq, Repr

def areFlags (flags : List Char) : Bool :=
  flags.all ("msUuxR-".toList.contains ·) && flags.eraseDups.length == flags.length
    && flags.getLast? != some '-'

/-- What follows an opening parenthesis. -/
def readGroupStart (text : List Char) : Option (GroupStart × List Char) :=
  let named (text : List Char) : Option (GroupStart × List Char) :=
    let name := text.takeWhile (· != '>')
    match name, text.drop name.length with
    | c :: more, _ :: rest =>
      if (c == '_' || (isAlphanumeric c && !c.isDigit))
          && more.all (fun c => isAlphanumeric c || ['_', '.', '[', ']'].contains c) then
        some (.group, rest)
      else none
    | _, _ => none
  match text with
  | '?' :: 'P' :: '<' :: rest => named rest
  | '?' :: '<' :: rest => named rest
  | '?' :: rest =>
    let flags := rest.takeWhile fun c => c != ':' && c != ')'
    match rest.drop flags.length with
    | ':' :: rest => if areFlags flags then some (.group, rest) else none
    | ')' :: rest => if areFlags flags ∧ flags ≠ [] then some (.flags, rest) else none
    | _ => none
  | _ => some (.group, text)

/-! ## Whole expressions -/

/-- Whether the rest of an expression is well formed, with `depth` groups open;
`repeatable` says whether something precedes that can be repeated. -/
def isRest : Nat → Nat → Bool → List Char → Bool
  | 0, _, _, _ => false
  | _, depth, _, [] => depth == 0
  | fuel + 1, depth, _, '(' :: rest =>
    match readGroupStart rest with
    | some (.group, rest) => isRest fuel (depth + 1) false rest
    | some (.flags, rest) => isRest fuel depth false rest
    | none => false
  | fuel + 1, depth, _, ')' :: rest => depth != 0 && isRest fuel (depth - 1) true rest
  | fuel + 1, depth, _, '|' :: rest => isRest fuel depth false rest
  | fuel + 1, depth, repeatable, '*' :: rest
  | fuel + 1, depth, repeatable, '+' :: rest
  | fuel + 1, depth, repeatable, '?' :: rest => repeatable && isRest fuel depth true rest
  | _, _, _, '\x7b' :: _ => false
  | fuel + 1, depth, _, '[' :: rest =>
    match skipClass (rest.length + 1) 1 (skipClassStart rest) with
    | some rest => isRest fuel depth true rest
    | none => false
  | fuel + 1, depth, _, '\\' :: 'A' :: rest
  | fuel + 1, depth, _, '\\' :: 'z' :: rest => isRest fuel depth true rest
  | fuel + 1, depth, _, '\\' :: rest =>
    match readEscape rest with
    | some (_, rest) => isRest fuel depth true rest
    | none => false
  | fuel + 1, depth, _, _ :: rest => isRest fuel depth true rest

def isPattern (text : List Char) : Bool := isRest (text.length + 1) 0 false text

/-! ## Numbers -/

def isExponent : List Char → Bool
  | [] => true
  | c :: rest =>
    let digits :=
      match rest with
      | '+' :: digits | '-' :: digits => digits
      | _ => rest
    (c == 'e' || c == 'E') && !digits.isEmpty && digits.all fun c => (digit? c).isSome

/-- Whether a text without a sign is a number. -/
def isReal (text : List Char) : Bool :=
  let isDigit (c : Char) : Bool := (digit? c).isSome
  let whole := text.takeWhile isDigit
  let (fraction, rest) :=
    match text.drop whole.length with
    | '.' :: rest => (rest.takeWhile isDigit, rest.dropWhile isDigit)
    | rest => ([], rest)
  ["inf", "infinity", "nan"].contains (String.ofList (lowerAscii text))
    || (!(whole ++ fraction).isEmpty && isExponent rest)

/-- Whether a text can stand for the value of a field: as a number or as an expression.
Numbers without a plus sign are expressions too. -/
def isValue (text : List Char) : Bool :=
  match text with
  | '+' :: rest => isReal rest
  | _ => isPattern text

end WorkHost.Pattern
