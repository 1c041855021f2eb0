import Mathlib.Tactic.Common
import CommercePlatform.Contract.Text

/-!
`json.loads`, as the C scanner of Python 3.12 runs it on decoded text.

Every scanner takes the text and gives back what is left of it, which is shorter
(`Scanned`). Three exceptions are told apart: `JSONDecodeError` for what is no JSON,
the plain `ValueError` of `int` for literals over 4300 digits, and `RecursionError` for
nesting deeper than the interpreter's limit, which is a parameter.
-/

namespace CommercePlatform.Contract

/-- A decoded JSON value. A float is kept by its literal. -/
inductive Json where
  | null
  | bool (value : Bool)
  | int (value : Int)
  | float (literal : Text)
  | str (value : Text)
  | arr (items : List Json)
  | obj (members : List (Text × Json))

/-- `decoded.get(name)` of a `dict`: the last of equal keys is kept. -/
def Json.lookup (members : List (Text × Json)) (name : String) : Option Json :=
  (members.reverse.find? fun entry => entry.1 = Text.ofString name).map (·.2)

namespace Json

/-- What a scanner read off the front of `t`. -/
structure Scanned (t : Text) (α : Type) where
  value : α
  rest : Text
  shorter : rest.length < t.length

variable {α β : Type} {t : Text}

def Scanned.map (s : Scanned t α) (f : α → β) : Scanned t β := ⟨f s.value, s.rest, s.shorter⟩

/-- What was read off a later part of the text was read off the text. -/
def Scanned.within {u : Text} (s : Scanned u α) (later : u.length ≤ t.length) : Scanned t α :=
  ⟨s.value, s.rest, s.shorter.trans_le later⟩

def isWhitespace (c : Nat) : Bool := c = 0x20 ∨ c = 0x09 ∨ c = 0x0A ∨ c = 0x0D

def skipWhitespace (t : Text) : Text := t.dropWhile isWhitespace

theorem skipWhitespace_le (t : Text) : (skipWhitespace t).length ≤ t.length :=
  (List.dropWhile_suffix _).length_le

def isDigit (c : Nat) : Bool := 0x30 ≤ c ∧ c ≤ 0x39

def hexValue (c : Nat) : Option Nat :=
  if 0x30 ≤ c ∧ c ≤ 0x39 then some (c - 0x30)
  else if 0x61 ≤ c ∧ c ≤ 0x66 then some (c - 0x57)
  else if 0x41 ≤ c ∧ c ≤ 0x46 then some (c - 0x37)
  else none

/-- The four digits of a `\\u` escape. -/
def hexFour (a b c d : Nat) : Option Nat := do
  return (((← hexValue a) * 16 + (← hexValue b)) * 16 + (← hexValue c)) * 16 + (← hexValue d)

/-- The escapes of one character. -/
def simpleEscape (c : Nat) : Option Nat :=
  match Char.ofNat c with
  | '"' => some 0x22
  | '\\' => some 0x5C
  | '/' => some 0x2F
  | 'b' => some 0x08
  | 'f' => some 0x0C
  | 'n' => some 0x0A
  | 'r' => some 0x0D
  | 't' => some 0x09
  | _ => none

/-- A code point of a string literal, and whether a `\\u` escape stands for it. -/
abbrev Unit16 := Nat × Bool

/-- Two escapes that form a surrogate pair are one code point. -/
def joinEscapes : List Unit16 → Text
  | (high, true) :: (low, true) :: rest =>
    if 0xD800 ≤ high ∧ high ≤ 0xDBFF ∧ 0xDC00 ≤ low ∧ low ≤ 0xDFFF then
      (0x10000 + (high - 0xD800) * 1024 + (low - 0xDC00)) :: joinEscapes rest
    else high :: joinEscapes ((low, true) :: rest)
  | unit :: rest => unit.1 :: joinEscapes rest
  | [] => []

/-- A string literal after its opening quote, and the text after its closing quote. -/
def scanUnits : Text → Option (List Unit16 × Text)
  | [] => none
  | c :: rest =>
    if c = 0x22 then some ([], rest)
    else if c = 0x5C then
      match rest with
      | [] => none
      | e :: rest =>
        if e = 0x75 then
          match rest with
          | a :: b :: c :: d :: rest =>
            (hexFour a b c d).bind fun code =>
              (scanUnits rest).map fun s => ((code, true) :: s.1, s.2)
          | _ => none
        else
          (simpleEscape e).bind fun code =>
            (scanUnits rest).map fun s => ((code, false) :: s.1, s.2)
    else if c < 0x20 then none
    else (scanUnits rest).map fun s => ((c, false) :: s.1, s.2)

theorem scanUnits_lt {t : Text} {s : List Unit16 × Text} (scanned : scanUnits t = some s) :
    s.2.length < t.length := by
  fun_induction scanUnits t generalizing s <;>
    grind [Option.bind_eq_some_iff, Option.map_eq_some_iff]

def scanString (t : Text) : Except PyException (Scanned t Text) :=
  match scanned : scanUnits t with
  | some s => .ok ⟨joinEscapes s.1, s.2, scanUnits_lt scanned⟩
  | none => .error .jsonDecodeError

/-! ### Numbers -/

/-- The literal a number starts with, and whether it is a float. -/
def scanDigits (t : Text) : Text × Text := (t.takeWhile isDigit, t.dropWhile isDigit)

/-- `.` and digits, if they follow. -/
def scanFraction : Text → Text × Text
  | c :: d :: rest =>
    if c = 0x2E ∧ isDigit d then (c :: d :: (scanDigits rest).1, (scanDigits rest).2)
    else ([], c :: d :: rest)
  | t => ([], t)

/-- An exponent, if one follows. -/
def scanExponent : Text → Text × Text
  | c :: d :: rest =>
    if c = 0x65 ∨ c = 0x45 then
      if isDigit d then (c :: d :: (scanDigits rest).1, (scanDigits rest).2)
      else
        match rest with
        | e :: rest' =>
          if (d = 0x2B ∨ d = 0x2D) ∧ isDigit e then
            (c :: d :: e :: (scanDigits rest').1, (scanDigits rest').2)
          else ([], c :: d :: rest)
        | [] => ([], c :: d :: rest)
    else ([], c :: d :: rest)
  | t => ([], t)

theorem scanDigits_le (t : Text) : (scanDigits t).2.length ≤ t.length :=
  (List.dropWhile_suffix _).length_le

theorem scanFraction_le (t : Text) : (scanFraction t).2.length ≤ t.length := by
  unfold scanFraction
  split
  · split
    · have := scanDigits_le (by assumption)
      simp only [List.length_cons]
      grind
    · exact le_refl _
  · exact le_refl _

theorem scanExponent_le (t : Text) : (scanExponent t).2.length ≤ t.length := by
  unfold scanExponent
  repeat' split
  all_goals first
    | exact le_refl _
    | (have shorter := scanDigits_le (by assumption); simp only [List.length_cons]; grind)

/-- The digits of an integer literal, most significant first. -/
def digitsValue (digits : Text) : Nat := digits.foldl (fun n c => n * 10 + (c - 0x30)) 0

/-- `sys.int_info.default_max_str_digits`. -/
def maxStrDigits : Nat := 4300

/-- `int(literal)`. -/
def intOfDigits (negative : Bool) (digits : Text) : Except PyException Json :=
  if maxStrDigits < digits.length then .error .valueError
  else .ok (.int (if negative then -(digitsValue digits : Int) else digitsValue digits))

/-- `_match_number_unicode` behind an optional sign. -/
def scanNumber (negative : Bool) (t : Text) : Except PyException (Scanned t Json) :=
  match t with
  | [] => .error .jsonDecodeError
  | c :: rest =>
    if isDigit c then
      let whole := if c = 0x30 then ([], rest) else scanDigits rest
      let fraction := scanFraction whole.2
      let exponent := scanExponent fraction.2
      have le : exponent.2.length < (c :: rest).length := by
        have first : whole.2.length ≤ rest.length := by
          simp only [whole]
          split
          · exact le_refl _
          · exact scanDigits_le rest
        have second : fraction.2.length ≤ whole.2.length := scanFraction_le _
        have third : exponent.2.length ≤ fraction.2.length := scanExponent_le _
        simp only [List.length_cons]
        omega
      if fraction.1.isEmpty ∧ exponent.1.isEmpty then do
        return ⟨← intOfDigits negative (c :: whole.1), exponent.2, le⟩
      else
        let sign : Text := if negative then [0x2D] else []
        return ⟨.float (sign ++ c :: whole.1 ++ fraction.1 ++ exponent.1), exponent.2, le⟩
    else .error .jsonDecodeError

/-! ### Values -/

/-- The words that stand for values. -/
def words : List (String × Json) :=
  [("null", .null), ("true", .bool true), ("false", .bool false),
    ("NaN", .float (Text.ofString "nan")), ("Infinity", .float (Text.ofString "inf")),
    ("-Infinity", .float (Text.ofString "-inf"))]

def scanWord (t : Text) : Option (Scanned t Json) :=
  words.findSome? fun (name, value) =>
    let rest := t.drop name.length
    if h : Text.ofString name <+: t ∧ rest.length < t.length then some ⟨value, rest, h.2⟩ else none

/-- The character `c`, after white space. -/
def expect (c : Nat) (t : Text) : Except PyException (Scanned t Unit) :=
  match seen : skipWhitespace t with
  | [] => .error .jsonDecodeError
  | d :: rest =>
    if d = c then
      .ok ⟨(), rest, by
        have := skipWhitespace_le t
        rw [seen] at this
        exact this⟩
    else .error .jsonDecodeError

mutual

/-- `scan_once_unicode`; `levels` is how much deeper the value may nest. -/
def scanOnce (levels : Nat) (t : Text) : Except PyException (Scanned t Json) :=
  match t with
  | [] => .error .jsonDecodeError
  | c :: rest =>
    have up : rest.length ≤ (c :: rest).length := Nat.le_succ _
    if c = 0x22 then do return ((← scanString rest).map .str).within up
    else if c = 0x7B then
      match levels with
      | 0 => .error .recursionError
      | levels + 1 =>
        match expect 0x7D rest with
        | .ok s => .ok ((s.map fun _ => .obj []).within up)
        | .error _ => do return ((← scanMembers levels rest).map .obj).within up
    else if c = 0x5B then
      match levels with
      | 0 => .error .recursionError
      | levels + 1 =>
        match expect 0x5D rest with
        | .ok s => .ok ((s.map fun _ => .arr []).within up)
        | .error _ => do return ((← scanItems levels rest).map .arr).within up
    else
      match scanWord (c :: rest) with
      | some s => .ok s
      | none =>
        if c = 0x2D then do return (← scanNumber true rest).within up
        else scanNumber false (c :: rest)
termination_by 2 * t.length

/-- The members of an object, from a key on. -/
def scanMembers (levels : Nat) (t : Text) : Except PyException (Scanned t (List (Text × Json))) := do
  let quote ← expect 0x22 t
  let key ← scanString quote.rest
  let colon ← expect 0x3A key.rest
  have h₁ := quote.shorter
  have h₂ := key.shorter
  have h₃ := colon.shorter
  have h₄ := skipWhitespace_le colon.rest
  let value ← scanOnce levels (skipWhitespace colon.rest)
  have h₅ := value.shorter
  match expect 0x7D value.rest with
  | .ok close => return ⟨[(key.value, value.value)], close.rest, by have := close.shorter; omega⟩
  | .error _ => do
    let comma ← expect 0x2C value.rest
    have h₆ := comma.shorter
    let more ← scanMembers levels comma.rest
    return ⟨(key.value, value.value) :: more.value, more.rest, by have := more.shorter; omega⟩
termination_by 2 * t.length

/-- The items of an array, from a value on. -/
def scanItems (levels : Nat) (t : Text) : Except PyException (Scanned t (List Json)) := do
  have h₁ := skipWhitespace_le t
  let value ← scanOnce levels (skipWhitespace t)
  have h₂ := value.shorter
  match expect 0x5D value.rest with
  | .ok close => return ⟨[value.value], close.rest, by have := close.shorter; omega⟩
  | .error _ => do
    let comma ← expect 0x2C value.rest
    have h₃ := comma.shorter
    let more ← scanItems levels comma.rest
    return ⟨value.value :: more.value, more.rest, by have := more.shorter; omega⟩
termination_by 2 * t.length + 1

end

/-- `json.loads(value)`, for bytes. -/
def loads (recursionLimit : Nat) (bytes : List UInt8) : Except PyException Json := do
  let text ← decodeJsonBytes bytes
  let scanned ← scanOnce recursionLimit (skipWhitespace text)
  if (skipWhitespace scanned.rest).isEmpty then return scanned.value
  else .error .jsonDecodeError

/-- `json.loads(value)`, for a `str`. -/
def loadsStr (recursionLimit : Nat) (text : Text) : Except PyException Json :=
  if text.head? = some 0xFEFF then .error .jsonDecodeError
  else do
    let scanned ← scanOnce recursionLimit (skipWhitespace text)
    if (skipWhitespace scanned.rest).isEmpty then return scanned.value
    else .error .jsonDecodeError

end Json

end CommercePlatform.Contract
