import Snip36.Library.Hex

/-!
The two searches that the routes make in the text that `sncast` prints. Both
find the leftmost place that fits and read as many digits as there are.
-/

namespace Snip36.ToolOutput

open Library.Hex

/-- `std::process::Output` of a process that printed text. -/
structure Output where
  stdout : String
  stderr : String
  success : Bool
  deriving DecidableEq

def Output.combined (output : Output) : String := output.stdout ++ "\n" ++ output.stderr

def isHexDigit (c : Char) : Bool := (digitValue c).isSome

/-- `\s`, which has the ASCII spaces only. -/
def isSpace (c : Char) : Bool :=
  c = ' ' ∨ c = Char.ofNat 9 ∨ c = Char.ofNat 10 ∨ c = Char.ofNat 11 ∨ c = Char.ofNat 12 ∨
    c = Char.ofNat 13

/-- One character of a key, in either case. An underscore also fits a space. -/
def fitsKey (k c : Char) : Bool :=
  if k = '_' then c = '_' ∨ c = ' ' else k.toLower = c.toLower

/-- What stands after the key at the start of a text. -/
def afterKey : List Char → List Char → Option (List Char)
  | [], text => some text
  | _ :: _, [] => none
  | k :: key, c :: text => if fitsKey k c then afterKey key text else none

/-- Colons and spaces, at least one, and then a number. -/
def afterSeparators (text : List Char) : Option (List Char) :=
  let rest := text.dropWhile fun c => c = ':' ∨ isSpace c
  if rest.length < text.length then
    match rest with
    | '0' :: x :: more =>
        let digits := more.takeWhile isHexDigit
        if (x = 'x' ∨ x = 'X') ∧ digits ≠ [] then some ('0' :: x :: digits) else none
    | _ => none
  else none

def findHex (key : List Char) : List Char → Option (List Char)
  | [] => none
  | c :: text => ((afterKey key (c :: text)).bind afterSeparators).or (findHex key text)

/-- `parse_hex`. -/
def parseHexFor (key text : String) : Option String :=
  (findHex key.toList text.toList).map String.ofList

def findLongHex : List Char → Option (List Char)
  | '0' :: 'x' :: text =>
      let digits := text.takeWhile isHexDigit
      if 50 ≤ digits.length then some ('0' :: 'x' :: digits) else findLongHex ('x' :: text)
  | _ :: text => findLongHex text
  | [] => none

/-- `extract_long_hex`. -/
def extractLongHex (text : String) : Option String :=
  (findLongHex text.toList).map String.ofList

theorem afterSeparators_ne_nil {text hex : List Char} (h : afterSeparators text = some hex) :
    hex ≠ [] := by
  unfold afterSeparators at h
  grind

theorem findHex_ne_nil {key text hex : List Char} (h : findHex key text = some hex) :
    hex ≠ [] := by
  induction text with
  | nil => cases h
  | cons c text ih =>
      rw [findHex, Option.or_eq_some_iff] at h
      rcases h with hhere | ⟨-, hlater⟩
      · obtain ⟨rest, -, hrest⟩ := Option.bind_eq_some_iff.mp hhere
        exact afterSeparators_ne_nil hrest
      · exact ih hlater

/-- A hash that was found is not empty. -/
theorem parseHexFor_ne_empty {key text hex : String} (h : parseHexFor key text = some hex) :
    hex ≠ "" := by
  obtain ⟨digits, hdigits, rfl⟩ := Option.map_eq_some_iff.mp h
  intro hempty
  exact findHex_ne_nil hdigits (by simpa using congrArg String.toList hempty)

example : parseHexFor "transaction_hash" "command: invoke\nTransaction Hash: 0x1fA z" =
    some "0x1fA" := by decide

end Snip36.ToolOutput
