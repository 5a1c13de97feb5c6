import Snip36.ToolOutput
import Snip36.Library.Patterns

/-!
The search for the number of a key that goes line after line, and the pattern of
the other one, which reads the whole text.
-/

namespace Snip36.ToolKeys

open ToolOutput Library.Patterns

def newline : Char := Char.ofNat 10
def carriageReturn : Char := Char.ofNat 13

/-- `str::lines`: a line ends with a line feed, which a carriage return may
precede. The last line may end without one. -/
def splitLines : List Char → List (List Char)
  | [] => []
  | c :: text =>
      if c = newline then [] :: splitLines text
      else if c = carriageReturn ∧ text.head? = some newline then splitLines text
      else
        match splitLines text with
        | [] => [[c]]
        | line :: more => (c :: line) :: more

/-- The pattern of a key in which `_` has become `[_ ]`, in either case. -/
def keyPattern (key : List Char) : List (Piece Char) := key.map fun k => .one (fitsKey k)

/-- `0x[0-9a-fA-F]+`, with the class of its second character. -/
def numeral (x : Char → Bool) : List (Piece Char) :=
  [.one (· = '0'), .one x, .one isHexDigit, .many isHexDigit]

/-- `parse_hex_from_output`, for a key without special characters. -/
def parseHexFromOutput (key text : String) : Option String :=
  (splitLines text.toList).findSome? fun line =>
    if isMatch (keyPattern key.toList) line then
      (captures (numeral (· = 'x')) line).map fun chunks => String.ofList chunks.flatten
    else none

/-! ### The search in the whole text

It is the search for one pattern, of which the last group is returned. -/

def isSeparator (c : Char) : Bool := c = ':' ∨ isSpace c

/-- `[:\s]+\s*(0x[0-9a-fA-F]+)` in either case. -/
def valuePattern : List (Piece Char) :=
  .one isSeparator :: .many isSeparator :: .many isSpace ::
    numeral fun c => c = 'x' ∨ c = 'X'

theorem matchHere_numeral (x : Char → Bool) (text : List Char) :
    (matchHere (numeral x) text).map List.flatten =
      match text with
      | '0' :: c :: more =>
          let digits := more.takeWhile isHexDigit
          if x c ∧ digits ≠ [] then some ('0' :: c :: digits) else none
      | _ => none := by
  have hmany : ∀ more, matchHere [.many isHexDigit] more = some [more.takeWhile isHexDigit] := by
    intro more
    rw [matchHere, greedy_eq (by simp [matchHere])]
    rfl
  split
  · next c more =>
    by_cases hc : x c = true
    · cases more with
      | nil => simp [numeral, matchHere, hc]
      | cons d more =>
          by_cases hd : isHexDigit d = true
          · simp [numeral, matchHere_one_cons, hmany, hc, hd]
          · simp [numeral, matchHere_one_cons, hc, hd]
    · simp [numeral, matchHere, hc]
  · next hother =>
    cases text with
    | nil => rfl
    | cons c text =>
        by_cases hc : c = '0'
        · cases text with
          | nil => simp [numeral, matchHere, hc]
          | cons d more => exact absurd (by rw [hc]) (hother d more)
        · simp [numeral, matchHere, hc]

theorem matchHere_spaces (x : Char → Bool) (text : List Char) :
    matchHere (.many isSpace :: numeral x) text =
      (matchHere (numeral x) (text.dropWhile isSpace)).map (text.takeWhile isSpace :: ·) := by
  have hstop : ∀ c more, isSpace c = true → matchHere (numeral x) more = none →
      matchHere (numeral x) (c :: more) = none := by
    intro c more hc _
    have hzero : c ≠ '0' := by
      rintro rfl
      exact absurd hc (by decide)
    simp [numeral, matchHere, hzero]
  rw [matchHere, greedy_eq hstop, Option.map_map]
  rfl

theorem matchHere_separators (x : Char → Bool) (text : List Char) :
    (matchHere (.many isSeparator :: .many isSpace :: numeral x) text).map
        (fun chunks => (chunks.drop 2).flatten) =
      (matchHere (numeral x) (text.dropWhile isSeparator)).map List.flatten := by
  have hstop : ∀ c more, isSeparator c = true →
      matchHere (.many isSpace :: numeral x) more = none →
      matchHere (.many isSpace :: numeral x) (c :: more) = none := by
    intro c more hc hnone
    rw [matchHere_spaces] at hnone ⊢
    by_cases hspace : isSpace c = true
    · simpa [hspace] using hnone
    · have hcolon : c = ':' := by simpa [isSeparator, hspace] using hc
      subst hcolon
      simp [hspace, numeral, matchHere]
  have hdrop : (text.dropWhile isSeparator).dropWhile isSpace = text.dropWhile isSeparator := by
    cases hrest : text.dropWhile isSeparator with
    | nil => rfl
    | cons c rest =>
        have hc : ¬ isSeparator c = true := by
          have hhead := List.head?_dropWhile_not isSeparator text
          simp_all
        have hspace : ¬ isSpace c = true := by
          intro h
          exact hc (by simp [isSeparator, h])
        exact List.dropWhile_cons_of_neg hspace
  rw [matchHere, greedy_eq hstop, matchHere_spaces, hdrop]
  simp [Option.map_map, Function.comp_def]

theorem afterSeparators_of_not {c : Char} (hc : ¬ isSeparator c = true) (text : List Char) :
    afterSeparators (c :: text) = none := by
  have hrest : (c :: text).dropWhile isSeparator = c :: text := List.dropWhile_cons_of_neg hc
  change (if ((c :: text).dropWhile isSeparator).length < _ then _ else none) = none
  rw [hrest, if_neg (Nat.lt_irrefl _)]

/-- After a first separator the rest of them are passed over. -/
theorem afterSeparators_cons {c : Char} (hc : isSeparator c = true) (text : List Char) :
    afterSeparators (c :: text) =
      (matchHere (numeral fun c => c = 'x' ∨ c = 'X') (text.dropWhile isSeparator)).map
        List.flatten := by
  have hrest : (c :: text).dropWhile isSeparator = text.dropWhile isSeparator :=
    List.dropWhile_cons_of_pos hc
  have hlt : (text.dropWhile isSeparator).length < (c :: text).length :=
    Nat.lt_succ_of_le (List.dropWhile_suffix isSeparator).length_le
  have hdef : afterSeparators (c :: text) =
      let rest := (c :: text).dropWhile isSeparator
      if rest.length < (c :: text).length then
        match rest with
        | '0' :: x :: more =>
            let digits := more.takeWhile isHexDigit
            if (x = 'x' ∨ x = 'X') ∧ digits ≠ [] then some ('0' :: x :: digits) else none
        | _ => none
      else none := rfl
  simp only [hdef, hrest, hlt, if_true, matchHere_numeral, decide_eq_true_eq]

theorem afterSeparators_eq (text : List Char) :
    afterSeparators text =
      (matchHere valuePattern text).map fun chunks => (chunks.drop 3).flatten := by
  cases text with
  | nil => rfl
  | cons c text =>
      by_cases hc : isSeparator c = true
      · rw [afterSeparators_cons hc, ← matchHere_separators, valuePattern, matchHere_one_cons,
          if_pos hc, Option.map_map]
        rfl
      · rw [afterSeparators_of_not hc, valuePattern, matchHere_one_cons, if_neg hc]
        rfl

theorem matchHere_keyPattern (key : List Char) (pieces : List (Piece Char)) (text : List Char) :
    (matchHere (keyPattern key ++ pieces) text).map (List.drop key.length) =
      (afterKey key text).bind (matchHere pieces) := by
  induction key generalizing text with
  | nil =>
      have hdrop : (List.drop 0 : List (List Char) → List (List Char)) = id := rfl
      simp [keyPattern, afterKey, hdrop]
  | cons k key ih =>
      cases text with
      | nil => rfl
      | cons c text =>
          by_cases hc : fitsKey k c = true
          · have hih := ih text
            simp only [keyPattern] at hih
            simp [keyPattern, matchHere_one_cons, afterKey, hc, ← hih, Function.comp_def]
          · simp [keyPattern, matchHere_one_cons, afterKey, hc]

/-- What is returned is the part of the match that the last group takes. -/
theorem findHex_eq (key text : List Char) :
    findHex key text = (captures (keyPattern key ++ valuePattern) text).map
      fun chunks => (chunks.drop (key.length + 3)).flatten := by
  have hhere : ∀ text, (afterKey key text).bind afterSeparators =
      (matchHere (keyPattern key ++ valuePattern) text).map
        fun chunks => (chunks.drop (key.length + 3)).flatten := by
    intro text
    have hkey := congrArg (Option.map fun chunks => (chunks.drop 3).flatten)
      (matchHere_keyPattern key valuePattern text)
    rw [Option.map_map, Option.map_bind] at hkey
    rw [funext afterSeparators_eq, ← Function.comp_def (Option.map _), ← hkey]
    simp [Function.comp_def]
  induction text with
  | nil =>
      rw [captures, ← hhere]
      cases key <;> rfl
  | cons c text ih => rw [findHex, captures, hhere, ih, Option.map_or]

end Snip36.ToolKeys
