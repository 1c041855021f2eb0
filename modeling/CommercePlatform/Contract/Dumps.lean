import Mathlib.Data.Nat.Digits.Lemmas
import CommercePlatform.Contract.Json

/-!
`json.dumps`, and that `json.loads` reads what it renders.

The encoder writes objects and arrays without spaces. `ascii` is `ensure_ascii`: with
it, everything outside of the printable ASCII characters is escaped, astral characters
as a pair of surrogates. A float is not rendered here: `dumps` keeps its literal, and
the values that `fits` accepts hold none.
-/

namespace CommercePlatform.Contract

namespace Json

/-! ### Rendering -/

def hexChar (d : Nat) : Nat := if d < 10 then 0x30 + d else 0x57 + d

/-- `\\uXXXX`. -/
def unicodeEscape (c : Nat) : Text :=
  [0x5C, 0x75, hexChar (c / 4096), hexChar (c / 256 % 16), hexChar (c / 16 % 16), hexChar (c % 16)]

/-- The letter behind the backslash of a short escape. -/
def escapeLetter (c : Nat) : Option Nat :=
  if c = 0x22 then some 0x22
  else if c = 0x5C then some 0x5C
  else if c = 0x0A then some 0x6E
  else if c = 0x0D then some 0x72
  else if c = 0x09 then some 0x74
  else if c = 0x0C then some 0x66
  else if c = 0x08 then some 0x62
  else none

/-- A character of a string literal. -/
def escapePoint (ascii : Bool) (c : Nat) : Text :=
  match escapeLetter c with
  | some letter => [0x5C, letter]
  | none =>
    if c < 0x20 then unicodeEscape c
    else if !ascii || decide (c ≤ 0x7E) then [c]
    else if c < 0x10000 then unicodeEscape c
    else unicodeEscape (0xD800 + (c - 0x10000) / 1024) ++
      unicodeEscape (0xDC00 + (c - 0x10000) % 1024)

def dumpString (ascii : Bool) (t : Text) : Text := 0x22 :: t.flatMap (escapePoint ascii) ++ [0x22]

/-- The decimal digits of a number. -/
def dumpNat (n : Nat) : Text :=
  if n = 0 then [0x30] else (Nat.digits 10 n).reverse.map (0x30 + ·)

/-- `int.__repr__`. -/
def dumpInt : Int → Text
  | .ofNat n => dumpNat n
  | .negSucc n => 0x2D :: dumpNat (n + 1)

mutual

/-- `json.dumps(.., separators=(",", ":"))`. -/
def dumps (ascii : Bool) : Json → Text
  | null => Text.ofString "null"
  | bool true => Text.ofString "true"
  | bool false => Text.ofString "false"
  | int n => dumpInt n
  | float literal => literal
  | str t => dumpString ascii t
  | arr items => 0x5B :: dumpItems ascii items
  | obj members => 0x7B :: dumpMembers ascii members

/-- The items of an array, with its closing bracket. -/
def dumpItems (ascii : Bool) : List Json → Text
  | [] => [0x5D]
  | [item] => dumps ascii item ++ [0x5D]
  | item :: next :: rest => dumps ascii item ++ 0x2C :: dumpItems ascii (next :: rest)

/-- The members of an object, with its closing brace. -/
def dumpMembers (ascii : Bool) : List (Text × Json) → Text
  | [] => [0x7D]
  | [(key, value)] => dumpString ascii key ++ 0x3A :: (dumps ascii value ++ [0x7D])
  | (key, value) :: next :: rest =>
    dumpString ascii key ++ 0x3A :: (dumps ascii value ++ 0x2C :: dumpMembers ascii (next :: rest))

end

mutual

/-- The value holds no float, no integer that is too long for `int`, only scalar text, and
nests at most this deep. -/
def fits : Json → Nat → Bool
  | null, _ => true
  | bool _, _ => true
  | int n, _ => decide ((dumpNat n.natAbs).length ≤ maxStrDigits)
  | float _, _ => false
  | str t, _ => t.scalar
  | arr _, 0 => false
  | arr items, levels + 1 => fitsItems items levels
  | obj _, 0 => false
  | obj members, levels + 1 => fitsMembers members levels

def fitsItems : List Json → Nat → Bool
  | [], _ => true
  | item :: rest, levels => fits item levels && fitsItems rest levels

def fitsMembers : List (Text × Json) → Nat → Bool
  | [], _ => true
  | (key, value) :: rest, levels => key.scalar && fits value levels && fitsMembers rest levels

end

mutual

/-- More levels are no harm. -/
theorem fits_succ (j : Json) {levels : Nat} (fit : j.fits levels = true) :
    j.fits (levels + 1) = true := by
  match j, levels with
  | null, _ | bool _, _ => rfl
  | int _, _ | str _, _ => exact fit
  | arr items, levels + 1 => exact fitsItems_succ items fit
  | obj members, levels + 1 => exact fitsMembers_succ members fit

theorem fitsItems_succ (items : List Json) {levels : Nat} (fit : fitsItems items levels = true) :
    fitsItems items (levels + 1) = true := by
  match items with
  | [] => rfl
  | item :: rest =>
    obtain ⟨here, more⟩ := (Bool.and_eq_true _ _).mp fit
    simp [fitsItems, fits_succ item here, fitsItems_succ rest more]

theorem fitsMembers_succ (members : List (Text × Json)) {levels : Nat}
    (fit : fitsMembers members levels = true) : fitsMembers members (levels + 1) = true := by
  match members with
  | [] => rfl
  | (key, value) :: rest =>
    obtain ⟨front, more⟩ := (Bool.and_eq_true _ _).mp fit
    obtain ⟨scalar, here⟩ := (Bool.and_eq_true _ _).mp front
    simp [fitsMembers, scalar, fits_succ value here, fitsMembers_succ rest more]

end

theorem fits_le {j : Json} {levels more : Nat} (le : levels ≤ more) (fit : j.fits levels = true) :
    j.fits more = true := by
  induction le with
  | refl => exact fit
  | step _ ih => exact fits_succ j ih

/-- The scanner has read `value` and leaves `rest`. -/
def Reads {α : Type} {t : Text} (scanned : Except PyException (Scanned t α)) (value : α)
    (rest : Text) : Prop :=
  ∃ shorter, scanned = .ok ⟨value, rest, shorter⟩

/-! ### Strings -/

theorem hexValue_hexChar {d : Nat} (digit : d < 16) : hexValue (hexChar d) = some d := by
  unfold hexChar hexValue
  split
  · rw [if_pos (by omega)]
    congr 1
    omega
  · rw [if_neg (by omega), if_pos (by omega)]
    congr 1
    omega

theorem hexFour_escape {c : Nat} (short : c < 0x10000) :
    hexFour (hexChar (c / 4096)) (hexChar (c / 256 % 16)) (hexChar (c / 16 % 16)) (hexChar (c % 16)) =
      some c := by
  unfold hexFour
  rw [hexValue_hexChar (by omega), hexValue_hexChar (by omega), hexValue_hexChar (by omega),
    hexValue_hexChar (by omega)]
  simp only [Option.bind_eq_bind, Option.bind_some, Option.pure_def, Option.some.injEq]
  omega

/-- What the scanner makes of a character. -/
def unitsOf (ascii : Bool) (c : Nat) : List Unit16 :=
  if (escapeLetter c).isSome then [(c, false)]
  else if c < 0x20 then [(c, true)]
  else if !ascii || decide (c ≤ 0x7E) then [(c, false)]
  else if c < 0x10000 then [(c, true)]
  else [(0xD800 + (c - 0x10000) / 1024, true), (0xDC00 + (c - 0x10000) % 1024, true)]

theorem escapeLetter_some {c letter : Nat} (short : escapeLetter c = some letter) :
    simpleEscape letter = some c ∧ letter ≠ 0x75 := by
  unfold escapeLetter at short
  repeat' split at short
  all_goals first
    | (cases short; subst_vars; decide)
    | cases short

theorem scanUnits_escape {c : Nat} (short : c < 0x10000) (rest : Text) :
    scanUnits (unicodeEscape c ++ rest) =
      (scanUnits rest).map fun s => ((c, true) :: s.1, s.2) := by
  simp only [unicodeEscape, List.cons_append, List.nil_append]
  rw [scanUnits]
  simp [hexFour_escape short]

theorem scanUnits_point (ascii : Bool) {c : Nat} (small : c < 0x110000) (rest : Text) :
    scanUnits (escapePoint ascii c ++ rest) =
      (scanUnits rest).map fun s => (unitsOf ascii c ++ s.1, s.2) := by
  unfold escapePoint unitsOf
  split
  · rename_i letter short
    obtain ⟨reads, notU⟩ := escapeLetter_some short
    simp only [List.cons_append, List.nil_append]
    rw [scanUnits.eq_def]
    simp [notU, reads, short]
  rename_i plain
  simp only [plain, Option.isSome_none, Bool.false_eq_true, if_false]
  split
  · exact scanUnits_escape (by omega) rest
  rename_i printable
  split
  · have notQuote : c ≠ 0x22 := fun same => by simp [same, escapeLetter] at plain
    have notSlash : c ≠ 0x5C := fun same => by simp [same, escapeLetter] at plain
    simp only [List.cons_append, List.nil_append]
    rw [scanUnits.eq_def]
    simp [notQuote, notSlash, printable]
  split
  · exact scanUnits_escape (by omega) rest
  · -- An astral character is a pair of escapes.
    rw [List.append_assoc, scanUnits_escape (by omega), scanUnits_escape (by omega), Option.map_map]
    rfl

/-- The scanner reads a rendered string up to its closing quote. -/
theorem scanUnits_dump (ascii : Bool) {t : Text} (scalar : t.scalar = true) (rest : Text) :
    scanUnits (t.flatMap (escapePoint ascii) ++ 0x22 :: rest) =
      some (t.flatMap (unitsOf ascii), rest) := by
  induction t with
  | nil =>
    rw [List.flatMap_nil, List.nil_append, scanUnits.eq_def]
    rfl
  | cons c t ih =>
    obtain ⟨point, later⟩ := (Bool.and_eq_true _ _).mp scalar
    have small := of_decide_eq_true ((Bool.and_eq_true _ _).mp point).1
    rw [List.flatMap_cons, List.append_assoc, scanUnits_point ascii small, ih later]
    rfl

/-- A unit that opens no pair is a character. -/
theorem joinEscapes_single {c : Nat} {escaped : Bool} (single : ¬ (0xD800 ≤ c ∧ c ≤ 0xDBFF))
    (units : List Unit16) : joinEscapes ((c, escaped) :: units) = c :: joinEscapes units := by
  rw [joinEscapes.eq_def]
  split
  · rename_i high low rest eq
    cases eq
    rw [if_neg fun pair => single ⟨pair.1, pair.2.1⟩]
  · rename_i unit rest other eq
    cases eq
    rfl
  · rename_i eq
    cases eq

theorem joinEscapes_point (ascii : Bool) {c : Nat} (scalar : Text.isScalar c = true)
    (units : List Unit16) : joinEscapes (unitsOf ascii c ++ units) = c :: joinEscapes units := by
  obtain ⟨small, valid⟩ := (Bool.and_eq_true _ _).mp scalar
  simp only [Text.isSurrogate, Bool.not_eq_true', decide_eq_false_iff_not, decide_eq_true_eq]
    at small valid
  have single : ¬ (0xD800 ≤ c ∧ c ≤ 0xDBFF) := by omega
  unfold unitsOf
  repeat' split
  all_goals first
    | exact joinEscapes_single single units
    | skip
  rename_i astral
  simp only [List.cons_append, List.nil_append]
  rw [joinEscapes, if_pos (by omega),
    show 0x10000 + (0xD800 + (c - 0x10000) / 1024 - 0xD800) * 1024 +
      (0xDC00 + (c - 0x10000) % 1024 - 0xDC00) = c by omega]

/-- The escapes of a text are joined to its characters. -/
theorem joinEscapes_units (ascii : Bool) {t : Text} (scalar : t.scalar = true) :
    joinEscapes (t.flatMap (unitsOf ascii)) = t := by
  induction t with
  | nil => rfl
  | cons c t ih =>
    obtain ⟨point, later⟩ := (Bool.and_eq_true _ _).mp scalar
    rw [List.flatMap_cons, joinEscapes_point ascii point, ih later]

/-- `json.loads` reads a rendered string. -/
theorem scanString_dump (ascii : Bool) {t : Text} (scalar : t.scalar = true) (rest : Text) :
    Reads (scanString (t.flatMap (escapePoint ascii) ++ 0x22 :: rest)) t rest := by
  have units := scanUnits_dump ascii scalar rest
  refine ⟨by simp only [List.length_append, List.length_cons]; omega, ?_⟩
  unfold scanString
  split
  · rename_i s scanned
    rw [units] at scanned
    cases scanned
    simp only [joinEscapes_units ascii scalar]
  · rename_i none_
    rw [units] at none_
    cases none_

/-! ### Numbers -/

theorem isDigit_dump {d : Nat} (digit : d < 10) : isDigit (0x30 + d) = true := by
  simp only [isDigit, decide_eq_true_eq]
  omega

theorem dumpNat_digits (n : Nat) : ∀ c ∈ dumpNat n, isDigit c = true := by
  unfold dumpNat
  split
  · simp [isDigit]
  · intro c mem
    obtain ⟨d, held, rfl⟩ := List.mem_map.mp mem
    exact isDigit_dump (Nat.digits_lt_base (by omega) (List.mem_reverse.mp held))

theorem digitsValue_append (digits : Text) (c : Nat) :
    digitsValue (digits ++ [c]) = digitsValue digits * 10 + (c - 0x30) := by
  simp [digitsValue]

/-- The digits of a number stand for it. -/
theorem digitsValue_dump (n : Nat) : digitsValue (dumpNat n) = n := by
  unfold dumpNat
  split
  · rename_i zero
    rw [zero]
    rfl
  · have value : ∀ ds : List Nat, digitsValue (ds.reverse.map (0x30 + ·)) = Nat.ofDigits 10 ds := by
      intro ds
      induction ds with
      | nil => rfl
      | cons d ds ih =>
        rw [List.reverse_cons, List.map_append, List.map_singleton, digitsValue_append, ih,
          Nat.ofDigits_cons]
        omega
    rw [value, Nat.ofDigits_digits]

/-- A positive number does not start with a zero. -/
theorem dumpNat_head {n : Nat} (positive : n ≠ 0) :
    ∃ c rest, dumpNat n = c :: rest ∧ c ≠ 0x30 := by
  have some_ : Nat.digits 10 n ≠ [] := Nat.digits_ne_nil_iff_ne_zero.mpr positive
  have last := Nat.getLast_digit_ne_zero 10 positive
  obtain ⟨init, top, split⟩ := List.eq_nil_or_concat (Nat.digits 10 n) |>.resolve_left some_
  refine ⟨0x30 + top, (init.reverse).map (0x30 + ·), ?_, ?_⟩
  · rw [dumpNat, if_neg positive, split]
    simp
  · have nonzero : top ≠ 0 := by
      simpa [split] using last
    omega

theorem dumpNat_cons (n : Nat) : ∃ c digits, dumpNat n = c :: digits ∧ isDigit c = true := by
  have all := dumpNat_digits n
  by_cases zero : n = 0
  · exact ⟨0x30, [], by rw [zero]; rfl, by decide⟩
  · obtain ⟨c, digits, eq, -⟩ := dumpNat_head zero
    exact ⟨c, digits, eq, all c (by rw [eq]; exact List.mem_cons_self)⟩

/-- What may follow a number. -/
def Stops (rest : Text) : Prop :=
  ∀ c, rest.head? = some c → isDigit c = false ∧ c ≠ 0x2E ∧ c ≠ 0x65 ∧ c ≠ 0x45

theorem scanDigits_stops {digits rest : Text} (all : ∀ c ∈ digits, isDigit c = true)
    (stops : Stops rest) : scanDigits (digits ++ rest) = (digits, rest) := by
  have none_ : rest.takeWhile isDigit = [] ∧ rest.dropWhile isDigit = rest := by
    cases rest with
    | nil => simp
    | cons c rest => simp [(stops c rfl).1]
  rw [scanDigits, List.takeWhile_append_of_pos all, List.dropWhile_append_of_pos all, none_.1, none_.2,
    List.append_nil]

theorem scanFraction_stops {rest : Text} (stops : Stops rest) : scanFraction rest = ([], rest) := by
  unfold scanFraction
  split
  · rename_i c d rest
    rw [if_neg fun point => (stops c rfl).2.1 point.1]
  · rfl

theorem scanExponent_stops {rest : Text} (stops : Stops rest) : scanExponent rest = ([], rest) := by
  unfold scanExponent
  split
  · rename_i c d rest
    obtain ⟨-, -, lower, upper⟩ := stops c rfl
    rw [if_neg (by simp [lower, upper])]
  · rfl

theorem scanNumber_digits (negative : Bool) {c : Nat} {digits rest : Text}
    (digit : isDigit c = true)
    (whole : (if c = 0x30 then ([], digits ++ rest) else scanDigits (digits ++ rest)) = (digits, rest))
    (stops : Stops rest) (short : (c :: digits).length ≤ maxStrDigits) :
    Reads (scanNumber negative (c :: (digits ++ rest)))
      (.int (if negative then -(digitsValue (c :: digits) : Int) else digitsValue (c :: digits)))
      rest := by
  refine ⟨by simp, ?_⟩
  unfold scanNumber
  simp only [digit, if_true, whole, scanFraction_stops stops, scanExponent_stops stops,
    List.isEmpty_nil, and_self, intOfDigits, not_lt.mpr short, if_false]
  rfl

/-- `json.loads` reads a rendered number. -/
theorem scanNumber_dump (negative : Bool) {n : Nat} (short : (dumpNat n).length ≤ maxStrDigits)
    {rest : Text} (stops : Stops rest) :
    Reads (scanNumber negative (dumpNat n ++ rest)) (.int (if negative then -(n : Int) else n))
      rest := by
  have all := dumpNat_digits n
  have value := digitsValue_dump n
  by_cases zero : n = 0
  · subst zero
    exact @scanNumber_digits negative _ [] _ (by decide) (by simp) stops (by decide)
  · obtain ⟨c, digits, eq, nonzero⟩ := dumpNat_head zero
    rw [eq] at all value short ⊢
    have whole : (if c = 0x30 then ([], digits ++ rest) else scanDigits (digits ++ rest)) =
        (digits, rest) := by
      rw [if_neg nonzero]
      exact scanDigits_stops (fun d mem => all d (List.mem_cons_of_mem _ mem)) stops
    have scanned := scanNumber_digits negative (all c List.mem_cons_self) whole stops short
    rw [value] at scanned
    exact scanned

/-! ### Values -/

theorem skipWhitespace_head {c : Nat} (solid : isWhitespace c = false) (rest : Text) :
    skipWhitespace (c :: rest) = c :: rest := by
  simp [skipWhitespace, solid]

theorem expect_here {c : Nat} (solid : isWhitespace c = false) (rest : Text) :
    Reads (expect c (c :: rest)) () rest := by
  refine ⟨by simp, ?_⟩
  unfold expect
  split
  · rename_i empty
    rw [skipWhitespace_head solid] at empty
    cases empty
  · rename_i d rest' seen
    rw [skipWhitespace_head solid] at seen
    cases seen
    rw [if_pos rfl]

theorem expect_other {c d : Nat} (solid : isWhitespace d = false) (other : d ≠ c) (rest : Text) :
    expect c (d :: rest) = .error .jsonDecodeError := by
  unfold expect
  split
  · rfl
  · rename_i e rest' seen
    rw [skipWhitespace_head solid] at seen
    cases seen
    rw [if_neg other]

theorem scanWord_none {t : Text} (other : ∀ word ∈ words, ¬ Text.ofString word.1 <+: t) :
    scanWord t = none := by
  refine List.findSome?_eq_none_iff.mpr fun word mem => ?_
  exact dif_neg fun found => other word mem found.1

/-- A word is read when no word before it is there. -/
theorem scanWord_here {name : String} {value : Json} {before after : List (String × Json)}
    (split : words = before ++ (name, value) :: after) (nonempty : 0 < name.length) (rest : Text)
    (other : ∀ word ∈ before, ¬ Text.ofString word.1 <+: Text.ofString name ++ rest) :
    ∃ shorter, scanWord (Text.ofString name ++ rest) = some ⟨value, rest, shorter⟩ := by
  have length : (Text.ofString name).length = name.length := by
    simp [Text.ofString, String.length_toList]
  have dropped : (Text.ofString name ++ rest).drop name.length = rest := by
    rw [← length, List.drop_left]
  refine ⟨by simp only [List.length_append, length]; omega, ?_⟩
  unfold scanWord
  rw [split, List.findSome?_append, List.findSome?_eq_none_iff.mpr fun word mem =>
    dif_neg fun found => other word mem found.1, Option.none_or, List.findSome?_cons]
  simp only [dropped]
  rw [dif_pos ⟨List.prefix_append _ _, by simp only [List.length_append, length]; omega⟩]

/-- No word starts like this. -/
theorem scanWord_digit {c : Nat} (digit : isDigit c = true) (rest : Text) :
    scanWord (c :: rest) = none := by
  simp only [isDigit, decide_eq_true_eq] at digit
  refine scanWord_none fun word mem => ?_
  simp only [words, List.mem_cons, List.not_mem_nil, or_false] at mem
  rcases mem with rfl | rfl | rfl | rfl | rfl | rfl <;>
    simp [Text.ofString, List.cons_prefix_cons] <;> omega

theorem isWhitespace_digit {c : Nat} (digit : isDigit c = true) : isWhitespace c = false := by
  simp only [isDigit, decide_eq_true_eq] at digit
  simp only [isWhitespace, decide_eq_false_iff_not]
  omega

/-- A value starts with no bracket that closes. -/
theorem dumps_head (ascii : Bool) {j : Json} {levels : Nat} (fit : j.fits levels = true) :
    ∃ c rest, j.dumps ascii = c :: rest ∧ isWhitespace c = false ∧ c ≠ 0x5D := by
  cases j with
  | null => exact ⟨_, _, rfl, by decide, by decide⟩
  | bool b => cases b <;> exact ⟨_, _, rfl, by decide, by decide⟩
  | int n =>
    cases n with
    | negSucc n => exact ⟨_, _, rfl, by decide, by decide⟩
    | ofNat n =>
      obtain ⟨c, rest, eq, digit⟩ := dumpNat_cons n
      refine ⟨c, rest, eq, isWhitespace_digit digit, fun bracket => ?_⟩
      rw [bracket] at digit
      cases digit
  | float literal => cases fit
  | str t => exact ⟨_, _, rfl, by decide, by decide⟩
  | arr items => exact ⟨_, _, rfl, by decide, by decide⟩
  | obj members => exact ⟨_, _, rfl, by decide, by decide⟩

theorem stops_of {c : Nat} (ends : c = 0x2C ∨ c = 0x5D ∨ c = 0x7D) (rest : Text) :
    Stops (c :: rest) := by
  intro d eq
  cases eq
  rcases ends with rfl | rfl | rfl <;> decide

theorem scanOnce_string {levels : Nat} {t rest after : Text} (read : Reads (scanString rest) t after) :
    Reads (scanOnce levels (0x22 :: rest)) (.str t) after := by
  obtain ⟨shorter, scanned⟩ := read
  refine ⟨by simp only [List.length_cons]; omega, ?_⟩
  rw [scanOnce.eq_def]
  simp only [if_true, scanned]
  rfl

theorem scanOnce_number {levels c : Nat} {rest after : Text} {j : Json} (digit : isDigit c = true)
    (read : Reads (scanNumber false (c :: rest)) j after) :
    Reads (scanOnce levels (c :: rest)) j after := by
  obtain ⟨shorter, scanned⟩ := read
  refine ⟨shorter, ?_⟩
  have word := scanWord_digit digit rest
  simp only [isDigit, decide_eq_true_eq] at digit
  rw [scanOnce.eq_def]
  simp only [word, scanned]
  rw [if_neg (by omega), if_neg (by omega), if_neg (by omega), if_neg (by omega)]

theorem scanOnce_minus {levels c : Nat} {rest after : Text} {j : Json} (digit : isDigit c = true)
    (read : Reads (scanNumber true (c :: rest)) j after) :
    Reads (scanOnce levels (0x2D :: c :: rest)) j after := by
  obtain ⟨shorter, scanned⟩ := read
  refine ⟨by simp only [List.length_cons] at shorter ⊢; omega, ?_⟩
  have word : scanWord (0x2D :: c :: rest) = none := by
    simp only [isDigit, decide_eq_true_eq] at digit
    refine scanWord_none fun word mem => ?_
    simp only [words, List.mem_cons, List.not_mem_nil, or_false] at mem
    rcases mem with rfl | rfl | rfl | rfl | rfl | rfl <;>
      simp [Text.ofString, List.cons_prefix_cons]
    omega
  rw [scanOnce.eq_def]
  simp only [word, scanned]
  rfl

theorem scanOnce_word {levels c : Nat} {rest after : Text} {j : Json} {shorter}
    (word : scanWord (c :: rest) = some ⟨j, after, shorter⟩)
    (letter : c ≠ 0x22 ∧ c ≠ 0x7B ∧ c ≠ 0x5B) : Reads (scanOnce levels (c :: rest)) j after := by
  refine ⟨shorter, ?_⟩
  rw [scanOnce.eq_def]
  simp only [word, letter.1, letter.2.1, letter.2.2, if_false]

theorem scanOnce_int {n : Int} {levels : Nat} (ascii : Bool) (fit : (int n).fits levels = true)
    {rest : Text} (stops : Stops rest) :
    Reads (scanOnce levels ((int n).dumps ascii ++ rest)) (int n) rest := by
  have short := of_decide_eq_true fit
  cases n with
  | ofNat n =>
    have read := scanNumber_dump false short stops
    obtain ⟨c, digits, eq, digit⟩ := dumpNat_cons n
    change Reads (scanOnce levels (dumpNat n ++ rest)) (int n) rest
    rw [show (Int.ofNat n).natAbs = n from rfl, eq] at read
    rw [eq]
    exact scanOnce_number digit read
  | negSucc n =>
    have read := scanNumber_dump true short stops
    obtain ⟨c, digits, eq, digit⟩ := dumpNat_cons (n + 1)
    change Reads (scanOnce levels (0x2D :: dumpNat (n + 1) ++ rest)) (int (.negSucc n)) rest
    rw [Int.natAbs_negSucc, Nat.succ_eq_add_one, eq] at read
    rw [eq]
    exact scanOnce_minus digit read

/-! ### Arrays and objects -/

theorem dumpString_append (ascii : Bool) (t rest : Text) :
    dumpString ascii t ++ rest = 0x22 :: (t.flatMap (escapePoint ascii) ++ 0x22 :: rest) := by
  simp [dumpString]

section

variable {levels : Nat} {t next after : Text} {j : Json}

theorem scanItems_last (read : Reads (scanOnce levels (skipWhitespace t)) j (0x5D :: after)) :
    Reads (scanItems levels t) [j] after := by
  obtain ⟨short, scanned⟩ := read
  obtain ⟨closeShort, close⟩ := @expect_here 0x5D (by decide) after
  have bound := skipWhitespace_le t
  refine ⟨by simp only [List.length_cons] at short; omega, ?_⟩
  rw [scanItems.eq_def]
  simp only [scanned, bind, Except.bind, close]
  rfl

theorem scanItems_more {items : List Json}
    (read : Reads (scanOnce levels (skipWhitespace t)) j (0x2C :: next))
    (more : Reads (scanItems levels next) items after) :
    Reads (scanItems levels t) (j :: items) after := by
  obtain ⟨short, scanned⟩ := read
  obtain ⟨moreShort, more⟩ := more
  obtain ⟨commaShort, comma⟩ := @expect_here 0x2C (by decide) next
  have open_ := @expect_other 0x5D 0x2C (by decide) (by decide) next
  have bound := skipWhitespace_le t
  refine ⟨by simp only [List.length_cons] at short; omega, ?_⟩
  rw [scanItems.eq_def]
  simp only [scanned, bind, Except.bind, open_, comma, more]
  rfl

variable {key rest : Text}

theorem scanMembers_last (named : Reads (scanString rest) key (0x3A :: next))
    (read : Reads (scanOnce levels (skipWhitespace next)) j (0x7D :: after)) :
    Reads (scanMembers levels (0x22 :: rest)) [(key, j)] after := by
  obtain ⟨quoteShort, quote⟩ := @expect_here 0x22 (by decide) rest
  obtain ⟨keyShort, named⟩ := named
  obtain ⟨colonShort, colon⟩ := @expect_here 0x3A (by decide) next
  obtain ⟨short, scanned⟩ := read
  obtain ⟨closeShort, close⟩ := @expect_here 0x7D (by decide) after
  have bound := skipWhitespace_le next
  refine ⟨by simp only [List.length_cons] at short keyShort ⊢; omega, ?_⟩
  rw [scanMembers.eq_def]
  simp only [quote, named, colon, scanned, bind, Except.bind, close]
  rfl

theorem scanMembers_more {members : List (Text × Json)} {later : Text}
    (named : Reads (scanString rest) key (0x3A :: next))
    (read : Reads (scanOnce levels (skipWhitespace next)) j (0x2C :: later))
    (more : Reads (scanMembers levels later) members after) :
    Reads (scanMembers levels (0x22 :: rest)) ((key, j) :: members) after := by
  obtain ⟨quoteShort, quote⟩ := @expect_here 0x22 (by decide) rest
  obtain ⟨keyShort, named⟩ := named
  obtain ⟨colonShort, colon⟩ := @expect_here 0x3A (by decide) next
  obtain ⟨short, scanned⟩ := read
  obtain ⟨moreShort, more⟩ := more
  obtain ⟨commaShort, comma⟩ := @expect_here 0x2C (by decide) later
  have open_ := @expect_other 0x7D 0x2C (by decide) (by decide) later
  have bound := skipWhitespace_le next
  refine ⟨by simp only [List.length_cons] at short keyShort ⊢; omega, ?_⟩
  rw [scanMembers.eq_def]
  simp only [quote, named, colon, scanned, bind, Except.bind, open_, comma, more]
  rfl

/-- An array or an object that is empty. -/
theorem scanOnce_empty (rest : Text) :
    Reads (scanOnce (levels + 1) (0x5B :: 0x5D :: rest)) (.arr []) rest ∧
      Reads (scanOnce (levels + 1) (0x7B :: 0x7D :: rest)) (.obj []) rest := by
  obtain ⟨_, bracket⟩ := @expect_here 0x5D (by decide) rest
  obtain ⟨_, brace⟩ := @expect_here 0x7D (by decide) rest
  refine ⟨⟨by simp only [List.length_cons]; omega, ?_⟩, ⟨by simp only [List.length_cons]; omega, ?_⟩⟩
  · rw [scanOnce.eq_def]
    simp only [bracket]
    rfl
  · rw [scanOnce.eq_def]
    simp only [brace]
    rfl

theorem scanOnce_items {items : List Json} (open_ : expect 0x5D t = .error .jsonDecodeError)
    (read : Reads (scanItems levels t) items after) :
    Reads (scanOnce (levels + 1) (0x5B :: t)) (.arr items) after := by
  obtain ⟨short, scanned⟩ := read
  refine ⟨by simp only [List.length_cons]; omega, ?_⟩
  rw [scanOnce.eq_def]
  simp only [open_, scanned]
  rfl

theorem scanOnce_members {members : List (Text × Json)}
    (open_ : expect 0x7D t = .error .jsonDecodeError)
    (read : Reads (scanMembers levels t) members after) :
    Reads (scanOnce (levels + 1) (0x7B :: t)) (.obj members) after := by
  obtain ⟨short, scanned⟩ := read
  refine ⟨by simp only [List.length_cons]; omega, ?_⟩
  rw [scanOnce.eq_def]
  simp only [open_, scanned]
  rfl

end

mutual

/-- `json.loads` reads what `json.dumps` renders. -/
theorem scanOnce_dumps (ascii : Bool) (j : Json) {levels : Nat} (fit : j.fits levels = true)
    {rest : Text} (stops : Stops rest) :
    Reads (scanOnce levels (j.dumps ascii ++ rest)) j rest := by
  match j, levels with
  | null, levels =>
    obtain ⟨shorter, word⟩ := @scanWord_here "null" .null [] _ rfl (by decide) rest (by simp)
    exact scanOnce_word word (by decide)
  | bool true, levels =>
    obtain ⟨shorter, word⟩ := @scanWord_here "true" (.bool true) [("null", .null)] _ rfl (by decide)
      rest (by simp [Text.ofString, List.cons_prefix_cons])
    exact scanOnce_word word (by decide)
  | bool false, levels =>
    obtain ⟨shorter, word⟩ := @scanWord_here "false" (.bool false)
      [("null", .null), ("true", .bool true)] _ rfl (by decide) rest
      (by simp [Text.ofString, List.cons_prefix_cons])
    exact scanOnce_word word (by decide)
  | int n, levels => exact scanOnce_int ascii fit stops
  | float _, _ => cases fit
  | str t, levels =>
    change Reads (scanOnce levels (dumpString ascii t ++ rest)) (str t) rest
    rw [dumpString_append]
    exact scanOnce_string (scanString_dump ascii fit rest)
  | arr [], levels + 1 => exact (scanOnce_empty rest).1
  | arr (item :: items), levels + 1 =>
    have fit : fitsItems (item :: items) levels = true := fit
    obtain ⟨c, tail, eq, solid, notClose⟩ := dumps_head ascii ((Bool.and_eq_true _ _).mp fit).1
    have open_ : expect 0x5D (dumpItems ascii (item :: items) ++ rest) = .error .jsonDecodeError := by
      cases items <;> rw [dumpItems, eq] <;> exact expect_other solid notClose _
    exact scanOnce_items open_ (scanItems_dumps ascii item items fit rest)
  | obj [], levels + 1 => exact (scanOnce_empty rest).2
  | obj ((key, value) :: members), levels + 1 =>
    have fit : fitsMembers ((key, value) :: members) levels = true := fit
    have open_ : expect 0x7D (dumpMembers ascii ((key, value) :: members) ++ rest) =
        .error .jsonDecodeError := by
      cases members <;>
        simp only [dumpMembers, dumpString, List.cons_append] <;>
        exact expect_other (by decide) (by decide) _
    exact scanOnce_members open_ (scanMembers_dumps ascii key value members fit rest)
termination_by sizeOf j

theorem scanItems_dumps (ascii : Bool) (item : Json) (items : List Json) {levels : Nat}
    (fit : fitsItems (item :: items) levels = true) (rest : Text) :
    Reads (scanItems levels (dumpItems ascii (item :: items) ++ rest)) (item :: items) rest := by
  obtain ⟨first, others⟩ := (Bool.and_eq_true _ _).mp fit
  obtain ⟨c, tail, eq, solid, -⟩ := dumps_head ascii first
  have start : ∀ after, skipWhitespace (dumps ascii item ++ after) = dumps ascii item ++ after := by
    intro after
    rw [eq]
    exact skipWhitespace_head solid _
  match items with
  | [] =>
    have text : dumpItems ascii [item] ++ rest = dumps ascii item ++ 0x5D :: rest := by
      simp [dumpItems]
    rw [text]
    refine scanItems_last ?_
    rw [start]
    exact scanOnce_dumps ascii item first (stops_of (by simp) rest)
  | next :: items =>
    have text : dumpItems ascii (item :: next :: items) ++ rest =
        dumps ascii item ++ 0x2C :: (dumpItems ascii (next :: items) ++ rest) := by
      simp [dumpItems]
    rw [text]
    refine scanItems_more ?_ (scanItems_dumps ascii next items others rest)
    rw [start]
    exact scanOnce_dumps ascii item first (stops_of (by simp) _)
termination_by sizeOf (item :: items)

theorem scanMembers_dumps (ascii : Bool) (key : Text) (value : Json) (members : List (Text × Json))
    {levels : Nat} (fit : fitsMembers ((key, value) :: members) levels = true) (rest : Text) :
    Reads (scanMembers levels (dumpMembers ascii ((key, value) :: members) ++ rest))
      ((key, value) :: members) rest := by
  obtain ⟨both, others⟩ := (Bool.and_eq_true _ _).mp fit
  obtain ⟨scalar, first⟩ := (Bool.and_eq_true _ _).mp both
  obtain ⟨c, tail, eq, solid, -⟩ := dumps_head ascii first
  have start : ∀ after, skipWhitespace (dumps ascii value ++ after) = dumps ascii value ++ after := by
    intro after
    rw [eq]
    exact skipWhitespace_head solid _
  match members with
  | [] =>
    have text : dumpMembers ascii [(key, value)] ++ rest =
        0x22 :: (key.flatMap (escapePoint ascii) ++ 0x22 :: 0x3A :: (dumps ascii value ++
          0x7D :: rest)) := by
      simp [dumpMembers, dumpString]
    rw [text]
    refine scanMembers_last (scanString_dump ascii scalar _) ?_
    rw [start]
    exact scanOnce_dumps ascii value first (stops_of (by simp) rest)
  | next :: members =>
    have text : dumpMembers ascii ((key, value) :: next :: members) ++ rest =
        0x22 :: (key.flatMap (escapePoint ascii) ++ 0x22 :: 0x3A :: (dumps ascii value ++
          0x2C :: (dumpMembers ascii (next :: members) ++ rest))) := by
      simp [dumpMembers, dumpString]
    rw [text]
    refine scanMembers_more (scanString_dump ascii scalar _) ?_
      (scanMembers_dumps ascii next.1 next.2 members others rest)
    rw [start]
    exact scanOnce_dumps ascii value first (stops_of (by simp) _)
termination_by sizeOf ((key, value) :: members)

end

/-! ### Bytes -/

theorem scalar_append {t u : Text} (first : t.scalar = true) (next : u.scalar = true) :
    Text.scalar (t ++ u) = true := by
  rw [Text.scalar, List.all_append]
  exact (Bool.and_eq_true _ _).mpr ⟨first, next⟩

/-- ASCII text. -/
theorem scalar_of_ascii {t : Text} (small : ∀ c ∈ t, c < 0x80) : t.scalar = true := by
  refine List.all_eq_true.mpr fun c mem => ?_
  have bound := small c mem
  simp only [Text.isScalar, Text.isSurrogate, Bool.and_eq_true, Bool.not_eq_true',
    decide_eq_true_eq, decide_eq_false_iff_not]
  omega

theorem unicodeEscape_scalar {c : Nat} (short : c < 0x10000) : (unicodeEscape c).scalar = true := by
  have small : ∀ d, d < 16 → hexChar d < 0x80 := by
    intro d digit
    unfold hexChar
    split <;> omega
  refine scalar_of_ascii fun d mem => ?_
  simp only [unicodeEscape, List.mem_cons, List.not_mem_nil, or_false] at mem
  rcases mem with rfl | rfl | rfl | rfl | rfl | rfl
  · omega
  · omega
  all_goals exact small _ (by omega)

theorem escapePoint_scalar (ascii : Bool) {c : Nat} (scalar : Text.isScalar c = true) :
    (escapePoint ascii c).scalar = true := by
  obtain ⟨small, -⟩ := (Bool.and_eq_true _ _).mp scalar
  have small := of_decide_eq_true small
  unfold escapePoint
  split
  · rename_i letter short
    unfold escapeLetter at short
    repeat' split at short
    all_goals first
      | (cases short; decide)
      | cases short
  split
  · exact unicodeEscape_scalar (by omega)
  split
  · simpa [Text.scalar] using scalar
  split
  · exact unicodeEscape_scalar (by omega)
  · exact scalar_append (unicodeEscape_scalar (by omega)) (unicodeEscape_scalar (by omega))

theorem dumpString_scalar (ascii : Bool) {t : Text} (scalar : t.scalar = true) :
    (dumpString ascii t).scalar = true := by
  have inside : Text.scalar (t.flatMap (escapePoint ascii)) = true := by
    rw [Text.scalar, List.all_flatMap]
    exact List.all_eq_true.mpr fun c mem => escapePoint_scalar ascii (List.all_eq_true.mp scalar c mem)
  exact scalar_append (t := [0x22]) rfl (scalar_append inside rfl)

theorem dumpNat_scalar (n : Nat) : (dumpNat n).scalar = true := by
  refine scalar_of_ascii fun c mem => ?_
  have digit := dumpNat_digits n c mem
  simp only [isDigit, decide_eq_true_eq] at digit
  omega

mutual

theorem dumps_scalar (ascii : Bool) (j : Json) {levels : Nat} (fit : j.fits levels = true) :
    (j.dumps ascii).scalar = true := by
  match j, levels with
  | null, _ => exact Text.ofString_scalar _
  | bool true, _ => exact Text.ofString_scalar _
  | bool false, _ => exact Text.ofString_scalar _
  | int (.ofNat n), _ => exact dumpNat_scalar n
  | int (.negSucc n), _ => exact scalar_append (t := [0x2D]) rfl (dumpNat_scalar (n + 1))
  | float _, _ => cases fit
  | str t, _ => exact dumpString_scalar ascii fit
  | arr items, levels + 1 =>
    exact scalar_append (t := [0x5B]) rfl (dumpItems_scalar ascii items fit)
  | obj members, levels + 1 =>
    exact scalar_append (t := [0x7B]) rfl (dumpMembers_scalar ascii members fit)

theorem dumpItems_scalar (ascii : Bool) (items : List Json) {levels : Nat}
    (fit : fitsItems items levels = true) : (dumpItems ascii items).scalar = true := by
  match items with
  | [] => rfl
  | [item] =>
    exact scalar_append (dumps_scalar ascii item ((Bool.and_eq_true _ _).mp fit).1) rfl
  | item :: next :: rest =>
    obtain ⟨first, others⟩ := (Bool.and_eq_true _ _).mp fit
    exact scalar_append (dumps_scalar ascii item first)
      (scalar_append (t := [0x2C]) rfl (dumpItems_scalar ascii (next :: rest) others))

theorem dumpMembers_scalar (ascii : Bool) (members : List (Text × Json)) {levels : Nat}
    (fit : fitsMembers members levels = true) : (dumpMembers ascii members).scalar = true := by
  match members with
  | [] => rfl
  | [(key, value)] =>
    obtain ⟨both, -⟩ := (Bool.and_eq_true _ _).mp fit
    obtain ⟨named, first⟩ := (Bool.and_eq_true _ _).mp both
    exact scalar_append (dumpString_scalar ascii named) (scalar_append (t := [0x3A]) rfl
      (scalar_append (dumps_scalar ascii value first) rfl))
  | (key, value) :: next :: rest =>
    obtain ⟨both, others⟩ := (Bool.and_eq_true _ _).mp fit
    obtain ⟨named, first⟩ := (Bool.and_eq_true _ _).mp both
    exact scalar_append (dumpString_scalar ascii named) (scalar_append (t := [0x3A]) rfl
      (scalar_append (dumps_scalar ascii value first) (scalar_append (t := [0x2C]) rfl
        (dumpMembers_scalar ascii (next :: rest) others))))

end

/-- Text that starts like an object is taken for UTF-8. -/
theorem decodeJsonBytes_object {b : UInt8} (nonzero : b ≠ 0) (rest : List UInt8) :
    decodeJsonBytes (0x7B :: b :: rest) = decodeUtf8 true (0x7B :: b :: rest) := by
  unfold decodeJsonBytes
  split
  all_goals first
    | (rename_i eq; simp at eq; done)
    | skip
  split
  · rename_i eq
    cases eq
    simp [nonzero]
  · rename_i eq
    cases eq
    simp [nonzero]
  · rfl

/-- The scanner reads a rendered object to its end. -/
theorem scanOnce_object (ascii : Bool) {members : List (Text × Json)} {limit : Nat}
    (fit : (obj members).fits limit = true) :
    Reads (scanOnce limit (skipWhitespace ((obj members).dumps ascii))) (obj members) [] := by
  have read := @scanOnce_dumps ascii (obj members) _ fit [] (by simp [Stops])
  have start : skipWhitespace ((obj members).dumps ascii) = (obj members).dumps ascii :=
    skipWhitespace_head (by decide) _
  rwa [List.append_nil, ← start] at read

/-- `json.loads` of the bytes of a rendered object. -/
theorem loads_dumps (ascii : Bool) {members : List (Text × Json)} {limit : Nat}
    (fit : (obj members).fits limit = true) :
    loads limit (((obj members).dumps ascii).flatMap Text.encodePoint) = .ok (obj members) := by
  have scalar := dumps_scalar ascii (obj members) fit
  obtain ⟨b, rest, eq, nonzero⟩ : ∃ b rest, ((obj members).dumps ascii).flatMap Text.encodePoint =
      0x7B :: b :: rest ∧ b ≠ 0 := by
    match members with
    | [] => exact ⟨0x7D, [], rfl, by decide⟩
    | [(key, value)] => exact ⟨0x22, _, rfl, by decide⟩
    | (key, value) :: next :: more => exact ⟨0x22, _, rfl, by decide⟩
  have decoded := decodeUtf8_encode true scalar
  rw [eq, ← decodeJsonBytes_object nonzero rest, ← eq] at decoded
  obtain ⟨shorter, scanned⟩ := scanOnce_object ascii fit
  simp only [loads, bind, Except.bind, decoded, scanned]
  rfl

/-- `json.loads` of a rendered object. -/
theorem loadsStr_dumps (ascii : Bool) {members : List (Text × Json)} {limit : Nat}
    (fit : (obj members).fits limit = true) :
    loadsStr limit ((obj members).dumps ascii) = .ok (obj members) := by
  have brace : ((obj members).dumps ascii).head? = some 0x7B := rfl
  obtain ⟨shorter, scanned⟩ := scanOnce_object ascii fit
  simp only [loadsStr, brace, bind, Except.bind, scanned]
  rfl

end Json

end CommercePlatform.Contract
