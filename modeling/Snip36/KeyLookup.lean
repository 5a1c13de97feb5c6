import Snip36.ToolKeys

/-!
What the two searches return on a text that has one line for each key, with its
number: when they are lookups, and when a line hides another one.
-/

namespace Snip36.KeyLookup

open ToolOutput ToolKeys Library.Patterns

/-! ### The text -/

/-- The letters of ASCII, and all that is beyond it. -/
def isLetter (c : Char) : Bool := c.isAlpha ∨ 128 ≤ c.toNat

def isKeyChar (c : Char) : Bool := isLetter c ∨ c = '_' ∨ c = ' '

/-- Letters with underscores or spaces. -/
structure IsKey (key : List Char) : Prop where
  chars : ∀ c ∈ key, isKeyChar c = true
  letter : ∃ c ∈ key, isLetter c = true

/-- One line: a key and the digits of its number. -/
structure Line where
  key : String
  digits : String
  isKey : IsKey key.toList
  digits_ne : digits.toList ≠ []
  isHex : ∀ c ∈ digits.toList, isHexDigit c = true

def Line.value (line : Line) : String := "0x" ++ line.digits

def Line.text (line : Line) : String := line.key ++ ": " ++ line.value

/-- The text is these lines and nothing else. -/
def Prints (text : String) (printed : List Line) : Prop :=
  splitLines text.toList = printed.map (String.toList ∘ Line.text)

instance {text : String} {printed : List Line} : Decidable (Prints text printed) :=
  inferInstanceAs (Decidable (_ = _))

/-- A key up to case, with underscores for spaces. -/
def normalKey (key : String) : List Char :=
  key.toList.map fun c => if c = ' ' then '_' else c.toLower

/-! ### What is asked of the parsers -/

/-- A parser that looks a key up, where a text has the lines that are printed. -/
structure LooksUp (parse : String → String → Option String) (key text : String)
    (printed : List Line) : Prop where
  found : ∀ line ∈ printed, line.key = key → parse key text = some line.value
  absent : (∀ line ∈ printed, normalKey line.key ≠ normalKey key) → parse key text = none

/-- The characters of a key, in either case and with underscores as spaces. -/
abbrev Spells (key text : List Char) : Prop :=
  List.Forall₂ (fun k c => fitsKey k c = true) key text

/-- The key stands somewhere in the line. -/
def OccursIn (key : String) (line : Line) : Prop :=
  ∃ front mid back, line.text.toList = front ++ (mid ++ back) ∧ Spells key.toList mid

/-- A text ends with the key, but for blanks. -/
def EndsWith (key text : List Char) : Prop :=
  ∃ front mid blanks, text = front ++ (mid ++ blanks) ∧ Spells key mid ∧ ∀ c ∈ blanks, c = ' '

/-- The key stands at the end of the key of the line. -/
def EndsIn (key : String) (line : Line) : Prop := EndsWith key.toList line.key.toList

/-- The first of some lines with a property. -/
inductive FirstOf (P : Line → Prop) : List Line → Line → Prop where
  | here {line : Line} {more : List Line} (h : P line) : FirstOf P (line :: more) line
  | later {other line : Line} {more : List Line} (h : ¬ P other) (hmore : FirstOf P more line) :
      FirstOf P (other :: more) line

/-- No other line hides the one with the key: the first line before it that has
the property carries the same number, and without such a key no line has it. -/
structure Unhidden (P : Line → Prop) (key : String) (printed : List Line) : Prop where
  before : ∀ front line back, printed = front ++ line :: back → line.key = key →
    ∀ first, FirstOf P front first → first.value = line.value
  absent : (∀ line ∈ printed, normalKey line.key ≠ normalKey key) → ∀ line ∈ printed, ¬ P line

/-! ### Characters of keys -/

/-- What stands in a line beside keys and digits, and ends it. -/
def isMark (c : Char) : Bool := c = ':' ∨ c = '0' ∨ c = newline ∨ c = carriageReturn

theorem eq_of_toLower_eq {k c : Char} (hc : c.toNat < 'a'.toNat) (h : k.toLower = c) :
    k = c := by
  by_cases hupper : 'A'.val ≤ k.val ∧ k.val ≤ 'Z'.val
  · exfalso
    have hlow : 65 ≤ k.toNat := hupper.1
    have hhigh : k.toNat ≤ 90 := hupper.2
    have hsum : (k.val + 32).toNat = k.toNat + 32 := by
      rw [UInt32.toNat_add]
      exact Nat.mod_eq_of_lt (by change k.toNat + 32 < _; omega)
    have hlower : k.toLower.val = k.val + 32 := congrArg Char.val (dif_pos hupper)
    have hval : k.toNat + 32 = c.toNat := by
      rw [← h, ← hsum, ← hlower]
      rfl
    have hbound : c.toNat < 97 := hc
    omega
  · have hsame : k.toLower = k := dif_neg hupper
    rw [← h, hsame]

theorem not_fitsKey_mark {k c : Char} (hk : isKeyChar k = true) (hc : isMark c = true) :
    ¬ fitsKey k c = true := by
  have hmark : c = ':' ∨ c = '0' ∨ c = newline ∨ c = carriageReturn := by
    simpa [isMark] using hc
  have hlow : c.toLower = c ∧ c.toNat < 'a'.toNat ∧ isKeyChar c = false := by
    rcases hmark with rfl | rfl | rfl | rfl <;> decide
  intro h
  rw [fitsKey] at h
  split at h
  · rcases hmark with rfl | rfl | rfl | rfl <;> exact absurd h (by decide)
  · rw [hlow.1, decide_eq_true_eq] at h
    rw [eq_of_toLower_eq hlow.2.1 h, hlow.2.2] at hk
    cases hk

theorem eq_blank_of_isSeparator {c : Char} (hc : isKeyChar c = true)
    (hsep : isSeparator c = true) : c = ' ' := by
  simp only [isSeparator, isSpace, decide_eq_true_eq] at hsep
  rcases hsep with rfl | rfl | rfl | rfl | rfl | rfl | rfl
  · exact absurd hc (by decide)
  · rfl
  all_goals exact absurd hc (by decide)

theorem not_isSeparator_of_isHexDigit {c : Char} (hc : isHexDigit c = true) :
    ¬ isSeparator c = true := by
  intro hsep
  simp only [isSeparator, isSpace, decide_eq_true_eq] at hsep
  rcases hsep with rfl | rfl | rfl | rfl | rfl | rfl | rfl
  all_goals exact absurd hc (by decide)

theorem fitsKey_self (c : Char) : fitsKey c c = true := by
  by_cases hc : c = '_' <;> simp [fitsKey, hc]

/-! ### Lines of a text -/

theorem splitLines_ne_nil {c : Char} {text : List Char} : splitLines (c :: text) ≠ [] := by
  induction text generalizing c with
  | nil => 
      rw [splitLines]
      split
      · simp
      · simp [splitLines]
  | cons d text ih =>
      rw [splitLines]
      split
      · simp
      · split
        · exact ih
        · split <;> simp

/-- What follows a line: its end and the other lines, or nothing. -/
def Ends (ending rest : List Char) : Prop :=
  ending = [newline] ∨ ending = [carriageReturn, newline] ∨ ending = [] ∧ rest = []

theorem splitLines_eq_cons {text line : List Char} {more : List (List Char)}
    (h : splitLines text = line :: more) :
    ∃ ending rest, text = line ++ (ending ++ rest) ∧ Ends ending rest ∧
      splitLines rest = more := by
  induction text generalizing line with
  | nil => cases h
  | cons c text ih =>
      rw [splitLines] at h
      split at h
      · next hc =>
        cases h
        exact ⟨[newline], text, by rw [hc]; rfl, Or.inl rfl, rfl⟩
      · split at h
        · next hc =>
          obtain ⟨rfl, hhead⟩ := hc
          obtain ⟨tail, rfl⟩ := List.head?_eq_some_iff.mp hhead
          rw [splitLines, if_pos rfl] at h
          cases h
          exact ⟨[carriageReturn, newline], tail, rfl, Or.inr (Or.inl rfl), rfl⟩
        · cases hlines : splitLines text with
          | nil =>
              rw [hlines] at h
              cases h
              cases text with
              | nil => exact ⟨[], [], rfl, Or.inr (Or.inr ⟨rfl, rfl⟩), rfl⟩
              | cons d text => exact absurd hlines splitLines_ne_nil
          | cons first others =>
              rw [hlines] at h
              cases h
              obtain ⟨ending, rest, rfl, hends, hmore⟩ := ih hlines
              exact ⟨ending, rest, rfl, hends, hmore⟩

theorem Ends.isMark {ending rest : List Char} (h : Ends ending rest) :
    ∀ c ∈ ending, isMark c = true := by
  apply List.all_eq_true.mp
  rcases h with rfl | rfl | ⟨rfl, -⟩ <;> decide

theorem Ends.isSeparator {ending rest : List Char} (h : Ends ending rest) :
    ∀ c ∈ ending, isSeparator c = true := by
  apply List.all_eq_true.mp
  rcases h with rfl | rfl | ⟨rfl, -⟩ <;> decide

/-! ### Where a key can stand -/

theorem afterKey_eq_some_iff {key text rest : List Char} :
    afterKey key text = some rest ↔ ∃ mid, text = mid ++ rest ∧ Spells key mid := by
  induction key generalizing text with
  | nil => simp [afterKey, eq_comm]
  | cons k key ih =>
      cases text with
      | nil => simp [afterKey]
      | cons c text =>
          rw [afterKey, Option.ite_none_right_eq_some, ih]
          constructor
          · rintro ⟨hc, mid, rfl, hmid⟩
            exact ⟨c :: mid, rfl, .cons hc hmid⟩
          · rintro ⟨mid, htext, hmid⟩
            cases hmid with
            | cons hc hmid =>
                cases htext
                exact ⟨hc, _, rfl, hmid⟩

variable {key : List Char}

theorem Spells.not_isMark {mid : List Char} (hmid : Spells key mid)
    (hkey : ∀ k ∈ key, isKeyChar k = true) : ∀ c ∈ mid, ¬ isMark c = true := by
  induction hmid with
  | nil => simp
  | cons hc _ ih =>
      obtain ⟨hk, hmore⟩ := List.forall_mem_cons.mp hkey
      exact List.forall_mem_cons.mpr ⟨fun hmark => not_fitsKey_mark hk hmark hc, ih hmore⟩

theorem spells_self (key : List Char) : Spells key key := by
  induction key with
  | nil => exact .nil
  | cons c key ih => exact .cons (fitsKey_self c) ih

/-- A key does not reach over a mark. -/
theorem afterKey_append (hkey : ∀ k ∈ key, isKeyChar k = true) {front tail rest : List Char}
    (htail : ∀ c ∈ tail.head?, isMark c = true) (h : afterKey key (front ++ tail) = some rest) :
    ∃ mid back, front = mid ++ back ∧ rest = back ++ tail ∧ Spells key mid := by
  obtain ⟨mid, happend, hmid⟩ := afterKey_eq_some_iff.mp h
  rcases List.append_eq_append_iff.mp happend with ⟨past, rfl, hpast⟩ | ⟨back, rfl, rfl⟩
  · cases past with
    | nil => exact ⟨front, [], by simp, by simpa using hpast.symm, by simpa using hmid⟩
    | cons c past =>
        have hmark : isMark c = true := htail c (by simp [hpast])
        exact absurd hmark (hmid.not_isMark hkey c (by simp))
  · exact ⟨mid, back, rfl, rfl, hmid⟩

/-- The search passes over a part of the text in which no key is followed by a
number. -/
theorem findHex_append (hkey : ∀ k ∈ key, isKeyChar k = true) {front tail : List Char}
    (htail : ∀ c ∈ tail.head?, isMark c = true)
    (hnone : ∀ before mid back, front = before ++ (mid ++ back) → Spells key mid →
      afterSeparators (back ++ tail) = none) :
    findHex key (front ++ tail) = findHex key tail := by
  induction front with
  | nil => rfl
  | cons c front ih =>
      have hlater : findHex key (front ++ tail) = findHex key tail := by
        apply ih
        intro before mid back hfront
        exact hnone (c :: before) mid back (by rw [hfront]; rfl)
      have hhere : (afterKey key (c :: front ++ tail)).bind afterSeparators = none := by
        rw [Option.bind_eq_none_iff]
        intro rest hrest
        obtain ⟨mid, back, hfront, rfl, hmid⟩ := afterKey_append hkey htail hrest
        exact hnone [] mid back hfront hmid
      rw [List.cons_append, findHex, ← List.cons_append, hhere, Option.none_or, hlater]

/-! ### What a number follows -/

theorem afterSeparators_eq_none {text : List Char}
    (h : ∀ c ∈ (text.dropWhile isSeparator).head?, c ≠ '0') : afterSeparators text = none := by
  cases text with
  | nil => rfl
  | cons c text =>
      by_cases hc : isSeparator c = true
      · rw [List.dropWhile_cons_of_pos hc] at h
        rw [afterSeparators_cons hc]
        cases hrest : text.dropWhile isSeparator with
        | nil => rfl
        | cons d rest =>
            have hd : d ≠ '0' := h d (by simp [hrest])
            simp [numeral, matchHere, hd]
      · exact afterSeparators_of_not hc text

/-- A part of a key that is not blank keeps the number away. -/
theorem afterSeparators_keyChars (front : List Char) {back tail : List Char}
    (hfront : ∀ c ∈ front, isSeparator c = true) (hback : ∀ c ∈ back, isKeyChar c = true)
    (hsome : ∃ c ∈ back, c ≠ ' ') : afterSeparators (front ++ (back ++ tail)) = none := by
  apply afterSeparators_eq_none
  rw [List.dropWhile_append_of_pos hfront]
  induction back with
  | nil => simp at hsome
  | cons c back ih =>
      obtain ⟨hc, hmore⟩ := List.forall_mem_cons.mp hback
      by_cases hsep : isSeparator c = true
      · have hblank := eq_blank_of_isSeparator hc hsep
        rw [List.cons_append, List.dropWhile_cons_of_pos hsep]
        apply ih hmore
        simpa [hblank] using hsome
      · rw [List.cons_append, List.dropWhile_cons_of_neg hsep]
        rintro d ⟨⟩ rfl
        exact absurd hc (by decide)

/-- What may stand behind a number. -/
structure Closes (tail : List Char) : Prop where
  mark : ∀ c ∈ tail.head?, isMark c = true
  separator : ∀ c ∈ tail.head?, isSeparator c = true
  no_number : afterSeparators tail = none

def Line.numeral (line : Line) : List Char := '0' :: 'x' :: line.digits.toList

theorem Line.toList_value (line : Line) : line.value.toList = line.numeral := by
  simp [Line.value, Line.numeral]

theorem Line.toList_text (line : Line) :
    line.text.toList = line.key.toList ++ (':' :: ' ' :: line.numeral) := by
  simp [Line.text, Line.toList_value]

theorem Line.not_isSeparator (line : Line) : ∀ c ∈ line.numeral, ¬ isSeparator c = true := by
  intro c hc
  rcases List.mem_cons.mp hc with rfl | hc
  · decide
  · rcases List.mem_cons.mp hc with rfl | hc
    · decide
    · exact not_isSeparator_of_isHexDigit (line.isHex c hc)

theorem takeWhile_digits (line : Line) {tail : List Char} (hclose : Closes tail) :
    (line.digits.toList ++ tail).takeWhile isHexDigit = line.digits.toList := by
  rw [List.takeWhile_append_of_pos line.isHex]
  cases tail with
  | nil => simp
  | cons c tail =>
      have hc : ¬ isHexDigit c = true :=
        fun h => not_isSeparator_of_isHexDigit h (hclose.separator c rfl)
      simp [hc]

theorem afterSeparators_value (line : Line) {blanks tail : List Char}
    (hblanks : ∀ c ∈ blanks, c = ' ') (hclose : Closes tail) :
    afterSeparators (blanks ++ (':' :: ' ' :: (line.numeral ++ tail))) = some line.numeral := by
  have hseparators : ∀ c ∈ blanks ++ [':', ' '], isSeparator c = true := by
    intro c hc
    rcases List.mem_append.mp hc with hc | hc
    · rw [hblanks c hc]
      decide
    · simp only [List.mem_cons, List.not_mem_nil, or_false] at hc
      rcases hc with rfl | rfl <;> decide
  have hdrop : (blanks ++ (':' :: ' ' :: (line.numeral ++ tail))).dropWhile isSeparator =
      line.numeral ++ tail := by
    have happend : blanks ++ (':' :: ' ' :: (line.numeral ++ tail)) =
        blanks ++ [':', ' '] ++ (line.numeral ++ tail) := by simp
    rw [happend, List.dropWhile_append_of_pos hseparators]
    exact List.dropWhile_cons_of_neg (by decide)
  cases htext : blanks ++ (':' :: ' ' :: (line.numeral ++ tail)) with
  | nil => simp at htext
  | cons c text =>
      have hc : isSeparator c = true := by
        cases blanks with
        | nil =>
            cases htext
            decide
        | cons b blanks =>
            cases htext
            exact hseparators c (by simp)
      rw [htext, List.dropWhile_cons_of_pos hc] at hdrop
      rw [afterSeparators_cons hc, hdrop, matchHere_numeral]
      simp [Line.numeral, takeWhile_digits line hclose, line.digits_ne]

/-! ### One line -/

/-- Behind the marks of a line there is nothing but the number. -/
theorem not_isSeparator_of_split (line : Line) {before mid back : List Char} {c : Char}
    (hmid_ne : mid ≠ []) (hmarks : ∀ c ∈ mid, ¬ isMark c = true)
    (hsplit : ':' :: ' ' :: line.numeral = before ++ (mid ++ c :: back)) :
    ¬ isSeparator c = true := by
  rw [← List.append_assoc] at hsplit
  cases hfront : before ++ mid with
  | nil => exact absurd (List.append_eq_nil_iff.mp hfront).2 hmid_ne
  | cons a front =>
      rw [hfront] at hsplit
      obtain ⟨rfl, hrest⟩ := List.cons.inj hsplit
      cases front with
      | nil =>
          -- The part before would have to be the colon.
          exfalso
          obtain ⟨b, hb⟩ := List.exists_mem_of_ne_nil mid hmid_ne
          have hcolon : b ∈ [':'] := hfront ▸ List.mem_append_right before hb
          rw [List.mem_singleton.mp hcolon] at hb
          exact hmarks ':' hb (by decide)
      | cons b front =>
          have hc : c ∈ line.numeral := by
            rw [(List.cons.inj hrest).2]
            simp
          exact line.not_isSeparator c hc

/-- No key is found in a number. -/
theorem findHex_value (hkey : IsKey key) (line : Line) {tail : List Char}
    (hclose : Closes tail) :
    findHex key (':' :: ' ' :: (line.numeral ++ tail)) = findHex key tail := by
  have hskip : findHex key ((':' :: ' ' :: line.numeral) ++ tail) = findHex key tail := by
    apply findHex_append hkey.chars hclose.mark
    intro before mid back hsplit hmid
    have hmid_ne : mid ≠ [] := by
      rintro rfl
      cases hmid
      simpa using hkey.letter
    cases back with
    | nil => exact hclose.no_number
    | cons c back =>
        apply afterSeparators_of_not
        exact not_isSeparator_of_split line hmid_ne (hmid.not_isMark hkey.chars) hsplit
  simpa using hskip

/-- The key stands at the start of a text, and only blanks come after it. -/
def Stands (key text : List Char) : Prop :=
  ∃ mid blanks, text = mid ++ blanks ∧ Spells key mid ∧ ∀ c ∈ blanks, c = ' '

theorem endsWith_cons_iff {c : Char} {text : List Char} :
    EndsWith key (c :: text) ↔ Stands key (c :: text) ∨ EndsWith key text := by
  constructor
  · rintro ⟨front, mid, blanks, hsplit, hmid, hblanks⟩
    cases front with
    | nil => exact Or.inl ⟨mid, blanks, hsplit, hmid, hblanks⟩
    | cons d front =>
        cases hsplit
        exact Or.inr ⟨front, mid, blanks, rfl, hmid, hblanks⟩
  · rintro (⟨mid, blanks, hsplit, h⟩ | ⟨front, mid, blanks, rfl, h⟩)
    · exact ⟨[], mid, blanks, hsplit, h⟩
    · exact ⟨c :: front, mid, blanks, rfl, h⟩

/-- Before a colon, the number is found exactly where the key stands. -/
theorem value_of_stands (line : Line) {front tail : List Char} (hclose : Closes tail)
    (h : Stands key front) :
    (afterKey key (front ++ (':' :: ' ' :: (line.numeral ++ tail)))).bind afterSeparators =
      some line.numeral := by
  obtain ⟨mid, blanks, rfl, hmid, hblanks⟩ := h
  have hafter : afterKey key (mid ++ blanks ++ (':' :: ' ' :: (line.numeral ++ tail))) =
      some (blanks ++ (':' :: ' ' :: (line.numeral ++ tail))) :=
    afterKey_eq_some_iff.mpr ⟨mid, List.append_assoc .., hmid⟩
  rw [hafter, Option.bind_some, afterSeparators_value line hblanks hclose]

theorem none_of_not_stands (hkey : ∀ k ∈ key, isKeyChar k = true) {front tail : List Char}
    (hfront : ∀ c ∈ front, isKeyChar c = true) (h : ¬ Stands key front) :
    (afterKey key (front ++ (':' :: tail))).bind afterSeparators = none := by
  rw [Option.bind_eq_none_iff]
  intro rest hrest
  obtain ⟨mid, back, rfl, rfl, hmid⟩ := afterKey_append hkey (by simp [isMark]) hrest
  have hsome : ∃ d ∈ back, d ≠ ' ' := by
    by_contra hblanks
    push Not at hblanks
    exact h ⟨mid, back, rfl, hmid, hblanks⟩
  exact afterSeparators_keyChars [] (by simp)
    (fun d hd => hfront d (List.mem_append_right mid hd)) hsome

/-- A key at the end of a key is found there, and one that is not at the end is not. -/
theorem findHex_key (hkey : IsKey key) (line : Line) {front tail : List Char}
    (hfront : ∀ c ∈ front, isKeyChar c = true) (hclose : Closes tail) :
    (EndsWith key front →
      findHex key (front ++ (':' :: ' ' :: (line.numeral ++ tail))) = some line.numeral) ∧
    (¬ EndsWith key front →
      findHex key (front ++ (':' :: ' ' :: (line.numeral ++ tail))) = findHex key tail) := by
  induction front with
  | nil =>
      refine ⟨?_, fun _ => findHex_value hkey line hclose⟩
      rintro ⟨_, mid, _, hnil, hmid, -⟩
      have hmid_nil : mid = [] := by simp_all
      subst hmid_nil
      cases hmid
      simpa using hkey.letter
  | cons c front ih =>
      have ih := ih (List.forall_mem_cons.mp hfront).2
      rw [List.cons_append, findHex, ← List.cons_append, endsWith_cons_iff]
      by_cases hstands : Stands key (c :: front)
      · rw [value_of_stands line hclose hstands]
        exact ⟨fun _ => rfl, fun h => absurd (Or.inl hstands) h⟩
      · rw [none_of_not_stands hkey.chars hfront hstands, Option.none_or]
        simpa [hstands] using ih

/-! ### All lines -/

theorem eq_nil_of_splitLines {text : List Char} (h : splitLines text = []) : text = [] := by
  cases text with
  | nil => rfl
  | cons c text => exact absurd h splitLines_ne_nil

theorem IsKey.not_blank (hkey : IsKey key) : ∃ c ∈ key, c ≠ ' ' := by
  obtain ⟨c, hc, hletter⟩ := hkey.letter
  refine ⟨c, hc, ?_⟩
  rintro rfl
  exact absurd hletter (by decide)

theorem dropWhile_separators {text : List Char} (h : ∀ c ∈ text, isSeparator c = true) :
    text.dropWhile isSeparator = [] := by
  simpa using h

/-- What is left of a printed text behind a number. -/
theorem closes_of_ends {ending rest : List Char} (hends : Ends ending rest)
    {more : List Line} (hmore : splitLines rest = more.map (String.toList ∘ Line.text)) :
    Closes (ending ++ rest) := by
  have hhead : ∀ c ∈ (ending ++ rest).head?, c ∈ ending := by
    rcases hends with rfl | rfl | ⟨rfl, rfl⟩ <;> simp
  refine ⟨fun c hc => hends.isMark c (hhead c hc),
    fun c hc => hends.isSeparator c (hhead c hc), ?_⟩
  cases more with
  | nil =>
      rw [eq_nil_of_splitLines hmore, List.append_nil]
      apply afterSeparators_eq_none
      simp [dropWhile_separators hends.isSeparator]
  | cons line more =>
      obtain ⟨_, _, rfl, -, -⟩ := splitLines_eq_cons hmore
      rw [Function.comp_apply, line.toList_text, List.append_assoc]
      exact afterSeparators_keyChars ending hends.isSeparator line.isKey.chars line.isKey.not_blank

theorem findHex_marks (hkey : IsKey key) {marks : List Char}
    (hmarks : ∀ c ∈ marks, isMark c = true) (text : List Char) :
    findHex key (marks ++ text) = findHex key text := by
  induction marks with
  | nil => rfl
  | cons c marks ih =>
      obtain ⟨hc, hmore⟩ := List.forall_mem_cons.mp hmarks
      have hhere : afterKey key (c :: (marks ++ text)) = none := by
        cases key with
        | nil => simpa using hkey.letter
        | cons k key => exact if_neg (not_fitsKey_mark (hkey.chars k (by simp)) hc)
      rw [List.cons_append, findHex, hhere, Option.bind_none, Option.none_or, ih hmore]

/-- A search that finds the number of the first line with a property. -/
structure FindsFirst (P : Line → Prop) (printed : List Line) (result : Option String) :
    Prop where
  first : ∀ line, FirstOf P printed line → result = some line.value
  absent : (∀ line ∈ printed, ¬ P line) → result = none

theorem FindsFirst.of_cons {P : Line → Prop} {line : Line} {more : List Line}
    {result later : Option String} (hlater : FindsFirst P more later)
    (hhere : P line → result = some line.value) (hskip : ¬ P line → result = later) :
    FindsFirst P (line :: more) result := by
  constructor
  · intro found hfound
    cases hfound with
    | here h => exact hhere h
    | later h hmore => rw [hskip h, hlater.first found hmore]
  · intro h
    obtain ⟨hline, hmore⟩ := List.forall_mem_cons.mp h
    rw [hskip hline, hlater.absent hmore]

theorem ofList_numeral (line : Line) : String.ofList line.numeral = line.value := by
  rw [← line.toList_value, String.ofList_toList]

variable {printed : List Line}

theorem findsFirst_findHex (hkey : IsKey key) {text : List Char}
    (h : splitLines text = printed.map (String.toList ∘ Line.text)) :
    FindsFirst (fun line => EndsWith key line.key.toList) printed
      ((findHex key text).map String.ofList) := by
  induction printed generalizing text with
  | nil =>
      rw [eq_nil_of_splitLines h]
      exact ⟨nofun, fun _ => rfl⟩
  | cons line more ih =>
      obtain ⟨ending, rest, rfl, hends, hmore⟩ := splitLines_eq_cons h
      have hclose := closes_of_ends hends hmore
      obtain ⟨hhere, hskip⟩ := findHex_key hkey line line.isKey.chars hclose
      rw [Function.comp_apply, line.toList_text, List.append_assoc, List.cons_append,
        List.cons_append]
      refine (ih hmore).of_cons ?_ ?_
      · intro hends
        rw [hhere hends, Option.map_some, ofList_numeral]
      · intro hnot
        rw [hskip hnot, findHex_marks hkey hends.isMark]

theorem findsFirst_parseHexFor {key text : String} (hkey : IsKey key.toList)
    (h : Prints text printed) : FindsFirst (EndsIn key) printed (parseHexFor key text) :=
  findsFirst_findHex hkey h

/-! ### Line after line -/

theorem isMatch_keyPattern_iff {text : List Char} :
    isMatch (keyPattern key) text = true ↔
      ∃ front mid back, text = front ++ (mid ++ back) ∧ Spells key mid := by
  have hchunks : ∀ chunks, List.Forall₂ Piece.Fits (keyPattern key) chunks ↔
      ∃ mid, chunks = mid.map ([·]) ∧ Spells key mid := by
    induction key with
    | nil => simp [keyPattern]
    | cons k key ih =>
        intro chunks
        rw [keyPattern, List.map_cons, List.forall₂_cons_left_iff]
        constructor
        · rintro ⟨_, more, ⟨hc⟩, hmore, rfl⟩
          obtain ⟨mid, rfl, hmid⟩ := (ih more).mp hmore
          exact ⟨_ :: mid, rfl, .cons hc hmid⟩
        · rintro ⟨_, rfl, ⟨⟩⟩
          next c mid hc hmid =>
          exact ⟨[c], mid.map ([·]), .one hc, (ih _).mpr ⟨mid, rfl, hmid⟩, rfl⟩
  rw [isMatch_iff]
  constructor
  · rintro ⟨front, chunks, back, rfl, hfits⟩
    obtain ⟨mid, rfl, hmid⟩ := (hchunks chunks).mp hfits
    exact ⟨front, mid, back, by rw [← List.flatMap_def, List.flatMap_singleton'], hmid⟩
  · rintro ⟨front, mid, back, rfl, hmid⟩
    exact ⟨front, mid.map ([·]), back, by rw [← List.flatMap_def, List.flatMap_singleton'],
      (hchunks _).mpr ⟨mid, rfl, hmid⟩⟩

theorem captures_text (line : Line) :
    (captures (numeral (· = 'x')) line.text.toList).map
      (fun chunks => String.ofList chunks.flatten) = some line.value := by
  have hfront : ∀ c ∈ line.key.toList ++ [':', ' '], decide (c = '0') = false := by
    intro c hc
    rw [decide_eq_false_iff_not]
    rintro rfl
    rcases List.mem_append.mp hc with hc | hc
    · exact absurd (line.isKey.chars '0' hc) (by decide)
    · exact absurd hc (by decide)
  have htext : line.text.toList = (line.key.toList ++ [':', ' ']) ++ line.numeral := by
    simp [line.toList_text]
  have hdigits : line.digits.toList.takeWhile isHexDigit = line.digits.toList := by
    simpa using line.isHex
  have hmatch : (matchHere (numeral (· = 'x')) line.numeral).map List.flatten =
      some line.numeral := by
    rw [matchHere_numeral]
    simp [Line.numeral, hdigits, line.digits_ne]
  obtain ⟨chunks, hchunks, hflatten⟩ := Option.map_eq_some_iff.mp hmatch
  have hcaptures : captures (numeral (· = 'x')) line.numeral = some chunks := by
    rw [Line.numeral, captures, ← Line.numeral, hchunks, Option.some_or]
  rw [htext, numeral, captures_one_append hfront, ← numeral, hcaptures, Option.map_some,
    hflatten, ofList_numeral]

theorem findsFirst_parseHexFromOutput {key text : String} (h : Prints text printed) :
    FindsFirst (OccursIn key) printed (parseHexFromOutput key text) := by
  rw [parseHexFromOutput, h]
  clear h
  induction printed with
  | nil => exact ⟨nofun, fun _ => rfl⟩
  | cons line more ih =>
      rw [List.map_cons, List.findSome?_cons]
      refine ih.of_cons ?_ ?_
      · intro hoccurs
        simp [isMatch_keyPattern_iff.mpr hoccurs, captures_text]
      · intro hnot
        simp [mt isMatch_keyPattern_iff.mp hnot]

theorem exists_firstOf {P : Line → Prop} (h : ∃ line ∈ printed, P line) :
    ∃ line, FirstOf P printed line := by
  induction printed with
  | nil => simp at h
  | cons line more ih =>
      by_cases hline : P line
      · exact ⟨line, .here hline⟩
      · obtain ⟨other, hmem, hother⟩ := h
        rcases List.mem_cons.mp hmem with rfl | hmem
        · exact absurd hother hline
        · obtain ⟨first, hfirst⟩ := ih ⟨other, hmem, hother⟩
          exact ⟨first, .later hline hfirst⟩

/-! ### When both are lookups -/

section FirstOf

variable {P : Line → Prop} {front back : List Line} {line : Line}

theorem FirstOf.holds (h : FirstOf P front line) : P line := by
  induction h with
  | here h => exact h
  | later _ _ ih => exact ih

theorem FirstOf.append (h : FirstOf P front line) : FirstOf P (front ++ back) line := by
  induction h with
  | here h => exact .here h
  | later h _ ih => exact .later h ih

theorem firstOf_append_cons (hfront : ∀ other ∈ front, ¬ P other) (hline : P line) :
    FirstOf P (front ++ line :: back) line := by
  induction front with
  | nil => exact .here hline
  | cons other front ih =>
      obtain ⟨hother, hmore⟩ := List.forall_mem_cons.mp hfront
      exact .later hother (ih hmore)

end FirstOf

/-- A search for the first line is a lookup exactly if no line hides another one. -/
theorem FindsFirst.looksUp_iff {parse : String → String → Option String} {key text : String}
    {P : Line → Prop} (hself : ∀ line, line.key = key → P line)
    (h : FindsFirst P printed (parse key text)) :
    LooksUp parse key text printed ↔ Unhidden P key printed := by
  constructor
  · intro hlooks
    constructor
    · intro front line back hsplit hline first hfirst
      have hmem : line ∈ printed := by simp [hsplit]
      have hwhole : FirstOf P printed first := hsplit ▸ hfirst.append
      have heq := (h.first first hwhole).symm.trans (hlooks.found line hmem hline)
      exact Option.some.inj heq
    · intro hkey line hmem hP
      obtain ⟨first, hfirst⟩ := exists_firstOf ⟨line, hmem, hP⟩
      have hsome := h.first first hfirst
      rw [hlooks.absent hkey] at hsome
      cases hsome
  · intro hunhidden
    constructor
    · intro line hmem hline
      obtain ⟨front, back, hsplit⟩ := List.append_of_mem hmem
      by_cases hfront : ∃ other ∈ front, P other
      · obtain ⟨first, hfirst⟩ := exists_firstOf hfront
        have hwhole : FirstOf P printed first := hsplit ▸ hfirst.append
        rw [h.first first hwhole, hunhidden.before front line back hsplit hline first hfirst]
      · push Not at hfront
        exact h.first line (hsplit ▸ firstOf_append_cons hfront (hself line hline))
    · intro hkey
      exact h.absent (hunhidden.absent hkey)

theorem endsIn_self (line : Line) : EndsIn line.key line :=
  ⟨[], line.key.toList, [], by simp, spells_self _, by simp⟩

theorem occursIn_self (line : Line) : OccursIn line.key line :=
  ⟨[], line.key.toList, _, line.toList_text, spells_self _⟩

/-- The parsers look keys up exactly if no key is hidden: by one that ends with
it from `parse_hex`, and by a line that it occurs in from the other one. -/
theorem parsers_lookUp_iff {key text : String} (hkey : IsKey key.toList)
    (h : Prints text printed) :
    (LooksUp parseHexFor key text printed ∧ LooksUp parseHexFromOutput key text printed) ↔
      Unhidden (EndsIn key) key printed ∧ Unhidden (OccursIn key) key printed := by
  have hroutes : LooksUp parseHexFor key text printed ↔ Unhidden (EndsIn key) key printed := by
    apply (findsFirst_parseHexFor hkey h).looksUp_iff
    rintro line rfl
    exact endsIn_self line
  have hcli : LooksUp parseHexFromOutput key text printed ↔
      Unhidden (OccursIn key) key printed := by
    apply (findsFirst_parseHexFromOutput h).looksUp_iff
    rintro line rfl
    exact occursIn_self line
  rw [hroutes, hcli]

theorem isKey_hash : IsKey "hash".toList :=
  ⟨List.all_eq_true.mp (by decide), 'h', by decide, by decide⟩

def classHashLine : Line where
  key := "class_hash"
  digits := "1"
  isKey := ⟨List.all_eq_true.mp (by decide), 'c', by decide, by decide⟩
  digits_ne := by decide
  isHex := List.all_eq_true.mp (by decide)

def hashLine : Line where
  key := "hash"
  digits := "2"
  isKey := isKey_hash
  digits_ne := by decide
  isHex := List.all_eq_true.mp (by decide)

theorem hash_lookUp_iff :
    (LooksUp parseHexFor "hash" "hash: 0x2\nclass_hash: 0x1\n" [hashLine, classHashLine] ∧
        LooksUp parseHexFromOutput "hash" "hash: 0x2\nclass_hash: 0x1\n"
          [hashLine, classHashLine]) ↔
      Unhidden (EndsIn "hash") "hash" [hashLine, classHashLine] ∧
        Unhidden (OccursIn "hash") "hash" [hashLine, classHashLine] :=
  parsers_lookUp_iff isKey_hash (by decide)

/-- The hash of the class is returned for another hash. -/
theorem hash_finds_class_hash :
    Prints "class_hash: 0x1\nhash: 0x2" [classHashLine, hashLine] ∧
      [classHashLine, hashLine].Pairwise (fun a b => normalKey a.key ≠ normalKey b.key) ∧
      ¬ LooksUp parseHexFor "hash" "class_hash: 0x1\nhash: 0x2" [classHashLine, hashLine] ∧
      ¬ LooksUp parseHexFromOutput "hash" "class_hash: 0x1\nhash: 0x2"
        [classHashLine, hashLine] := by
  refine ⟨by decide, by decide, ?_, ?_⟩
  · intro h
    exact absurd (h.found hashLine (by simp) rfl) (by decide)
  · intro h
    exact absurd (h.found hashLine (by simp) rfl) (by decide)

end Snip36.KeyLookup
