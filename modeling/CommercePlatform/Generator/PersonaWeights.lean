import Mathlib.Data.List.TakeWhile
import CommercePlatform.Contract.Dumps
import CommercePlatform.Contract.Parsing
import CommercePlatform.Generator.Config

/-!
The text of the persona weights (`parse_persona_weights`).

`weightEntries` splits the text into the entries that `parsePersonaWeights` goes on with.
A rendered entry is read back as it was written (`parseEntry_render`), and so is a joined
list of them (`weightEntries_join`).
-/

namespace CommercePlatform.Generator

open Contract Contract.Json

/-! ### str -/

/-- `str.isspace`, of one character. -/
def isStrSpace (c : Nat) : Bool :=
  (0x9 ≤ c ∧ c ≤ 0xD) ∨ (0x1C ≤ c ∧ c ≤ 0x20) ∨ c = 0x85 ∨ c = 0xA0 ∨ c = 0x1680 ∨
    (0x2000 ≤ c ∧ c ≤ 0x200A) ∨ c = 0x2028 ∨ c = 0x2029 ∨ c = 0x202F ∨ c = 0x205F ∨ c = 0x3000

/-- `text.strip()`. -/
def stripText (t : Text) : Text := ((t.dropWhile isStrSpace).reverse.dropWhile isStrSpace).reverse

theorem dropWhile_bare {t : Text} (bare : ∀ c ∈ t, isStrSpace c = false) :
    t.dropWhile isStrSpace = t := by
  cases t with
  | nil => rfl
  | cons c rest => exact List.dropWhile_cons_of_neg (by simp [bare c List.mem_cons_self])

theorem stripText_bare {t : Text} (bare : ∀ c ∈ t, isStrSpace c = false) : stripText t = t := by
  unfold stripText
  rw [dropWhile_bare bare, dropWhile_bare, List.reverse_reverse]
  intro c mem
  exact bare c (List.mem_reverse.mp mem)

/-- `entry.split("=", 1)` in two, each part stripped. -/
def splitEntry (entry : Text) : Option (Text × Text) :=
  match entry.dropWhile (· ≠ 0x3D) with
  | [] => none
  | _ :: weight => some (stripText (entry.takeWhile (· ≠ 0x3D)), stripText weight)

/-! ### float -/

section

variable (decimal : Nat → Option Nat)

/-- The digits of other scripts in ASCII; `decimal` is `unicodedata.decimal`. -/
def asciiDigit (c : Nat) : Nat :=
  if c < 0x80 then c else ((decimal c).map (0x30 + ·)).getD c

/-- The text without its underscores, each of which stands between two digits. -/
def dropUnderscores (before : Nat) : Text → Option Text
  | [] => some []
  | c :: rest =>
    if c = 0x5F then
      if isDigit before ∧ rest.head?.any isDigit then dropUnderscores c rest else none
    else (c :: ·) <$> dropUnderscores c rest

def lower (c : Nat) : Nat := if 0x41 ≤ c ∧ c ≤ 0x5A then c + 0x20 else c

/-- A sign, if the text starts with one. -/
def takeSign : Text → Bool × Text
  | [] => (false, [])
  | c :: rest =>
    if c = 0x2D then (true, rest) else if c = 0x2B then (false, rest) else (false, c :: rest)

/-- The exponent of a number, which ends the text. -/
def exponentOf : Text → Option Int
  | [] => some 0
  | c :: rest =>
    let (negative, digits) := takeSign rest
    if lower c = 0x65 ∧ digits ≠ [] ∧ digits.all isDigit then
      some (if negative then -(digitsValue digits : Int) else digitsValue digits)
    else none

/-- A point and digits, if they follow. -/
def pointDigits : Text → Text × Text
  | [] => ([], [])
  | c :: rest => if c = 0x2E then scanDigits rest else ([], c :: rest)

/-- A float behind its sign. -/
def floatMagnitude (negative : Bool) (t : Text) : Option PyFloat :=
  if t.map lower = Text.ofString "inf" ∨ t.map lower = Text.ofString "infinity" then
    some (.infinite negative)
  else if t.map lower = Text.ofString "nan" then some .nan
  else
    let whole := scanDigits t
    let fraction := pointDigits whole.2
    if whole.1 = [] ∧ fraction.1 = [] then none
    else (exponentOf fraction.2).map fun exponent =>
      let number : Decimal := {
        negative
        coefficient := digitsValue (whole.1 ++ fraction.1)
        exponent := exponent - fraction.1.length }
      .finite number.value

/-- `float(text)`, of stripped text. -/
def floatOf (t : Text) : Option PyFloat := do
  let plain ← dropUnderscores 0 (t.map (asciiDigit decimal))
  let (negative, magnitude) := takeSign plain
  floatMagnitude negative magnitude

/-! ### The entries -/

/-- `CustomerPersona(name)`. -/
def personaNamed (name : Text) : Option CustomerPersona :=
  (Contract.personas.find? fun entry => Text.ofString entry.1 = name).map (·.2)

def parseEntry (entry : Text) : Option (CustomerPersona × PyFloat) := do
  let (name, raw) ← splitEntry entry
  let persona ← personaNamed name
  let weight ← floatOf decimal raw
  return (persona, weight)

/-- The entries of the text, if every one of them is well formed. -/
def weightEntries (value : Text) : Option Weights :=
  (((value.splitOn 0x2C).map stripText).filter fun entry => !entry.isEmpty).mapM
    (parseEntry decimal)

/-- `parse_persona_weights`. -/
def parseWeightText (value : Text) : Option Weights :=
  (weightEntries decimal value).bind parsePersonaWeights

/-- `DEFAULT_PERSONA_WEIGHTS`, as it is written. -/
def defaultWeightText : Text :=
  Text.ofString ("normal=0.50,indecisive=0.15,discount_hunter=0.15," ++
    "suspicious=0.10,bot=0.05,account_takeover=0.05")

/-! ### Reading what was written -/

/-- Digits, which a rendered weight consists of. -/
def Plain (t : Text) : Prop := ∀ c ∈ t, isDigit c = true

theorem plain_dumpNat (n : Nat) : Plain (dumpNat n) := dumpNat_digits n

theorem ascii_of_digit {c : Nat} (digit : isDigit c = true) : c < 0x80 ∧ 0x30 ≤ c ∧ c ≤ 0x39 := by
  simp only [isDigit, decide_eq_true_eq] at digit
  omega

theorem map_asciiDigit {t : Text} (ascii : ∀ c ∈ t, c < 0x80) : t.map (asciiDigit decimal) = t := by
  rw [List.map_congr_left (g := id) fun c mem => ?_, List.map_id]
  exact if_pos (ascii c mem)

theorem dropUnderscores_plain {t : Text} (plain : Plain t) (before : Nat) :
    dropUnderscores before t = some t := by
  induction t generalizing before with
  | nil => rfl
  | cons c rest ih =>
    have digit := ascii_of_digit (plain c List.mem_cons_self)
    have tail := ih (fun d mem => plain d (List.mem_cons_of_mem c mem)) c
    simp only [dropUnderscores, if_neg (show c ≠ 0x5F by omega), tail]
    rfl

theorem map_lower {t : Text} (plain : Plain t) : t.map lower = t := by
  rw [List.map_congr_left (g := id) fun c mem => ?_, List.map_id]
  have digit := ascii_of_digit (plain c mem)
  exact if_neg (by omega)

theorem scanDigits_plain {t : Text} (plain : Plain t) : scanDigits t = (t, []) := by
  unfold scanDigits
  rw [List.takeWhile_eq_self_iff.mpr plain, List.dropWhile_eq_nil_iff.mpr plain]

/-- A rendered number is read as it was written. -/
theorem floatOf_dumpNat (n : Nat) : floatOf decimal (dumpNat n) = some (.finite n) := by
  have plain := plain_dumpNat n
  obtain ⟨c, digits, eq, digit⟩ := dumpNat_cons n
  have first := ascii_of_digit digit
  have ascii : ∀ d ∈ dumpNat n, d < 0x80 := fun d mem => (ascii_of_digit (plain d mem)).1
  have unsigned : takeSign (dumpNat n) = (false, dumpNat n) := by
    rw [eq]
    simp only [takeSign, if_neg (show c ≠ 0x2D by omega), if_neg (show c ≠ 0x2B by omega)]
  have word : ∀ d rest, 0x39 < d → dumpNat n ≠ d :: rest := by
    intro d rest letter same
    obtain ⟨rfl, -⟩ := List.cons.inj (eq.symm.trans same)
    omega
  have magnitude : floatMagnitude false (dumpNat n) = some (.finite n) := by
    unfold floatMagnitude
    rw [map_lower plain, if_neg, if_neg, scanDigits_plain plain]
    · have nonempty : dumpNat n ≠ [] := by
        rw [eq]
        exact List.cons_ne_nil c digits
      simp [nonempty, pointDigits, exponentOf, digitsValue_dump, Decimal.value]
    · exact word _ _ (by decide)
    · rintro (inf | infinity)
      · exact word _ _ (by decide) inf
      · exact word _ _ (by decide) infinity
  simp [floatOf, map_asciiDigit decimal ascii, dropUnderscores_plain plain, unsigned, magnitude]

/-- `f"{name}={value}"`. -/
def renderEntry (entry : Text × Int) : Text := entry.1 ++ 0x3D :: dumpInt entry.2

/-- The names of the personas. -/
def personaNames : List Text := Contract.personas.map fun entry => Text.ofString entry.1

theorem personaNamed_mem {name : Text} {persona : CustomerPersona}
    (named : personaNamed name = some persona) : name ∈ personaNames := by
  obtain ⟨entry, found, -⟩ := Option.map_eq_some_iff.mp named
  have same := List.find?_some found
  exact List.mem_map.mpr ⟨entry, List.mem_of_find?_eq_some found, of_decide_eq_true same⟩

theorem personaNamed_known {name : Text} (known : name ∈ personaNames) :
    ∃ persona, personaNamed name = some persona := by
  obtain ⟨entry, mem, rfl⟩ := List.mem_map.mp known
  unfold personaNamed
  rw [← Option.isSome_iff_exists, Option.isSome_map, List.find?_isSome]
  exact ⟨entry, mem, decide_eq_true rfl⟩

/-- A name has neither white space nor a separator. -/
theorem personaNames_bare : ∀ name ∈ personaNames, ∀ c ∈ name,
    isStrSpace c = false ∧ c ≠ 0x3D ∧ c ≠ 0x2C := by
  decide +kernel

theorem bare_dumpNat {n c : Nat} (mem : c ∈ dumpNat n) : isStrSpace c = false ∧ c ≠ 0x2C := by
  have digit := ascii_of_digit (plain_dumpNat n c mem)
  constructor
  · simp only [isStrSpace, decide_eq_false_iff_not]
    omega
  · omega

/-- A rendered entry is read as it was written. -/
theorem parseEntry_render {name : Text} {persona : CustomerPersona}
    (named : personaNamed name = some persona) (n : Nat) :
    parseEntry decimal (renderEntry (name, n)) = some (persona, .finite n) := by
  have bare := personaNames_bare name (personaNamed_mem named)
  have inName : ∀ c ∈ name, decide (c ≠ 0x3D) = true := fun c mem => decide_eq_true (bare c mem).2.1
  have split : splitEntry (renderEntry (name, n)) = some (name, dumpNat n) := by
    unfold splitEntry renderEntry
    rw [List.dropWhile_append_of_pos inName, List.takeWhile_append_of_pos inName]
    simp [dumpInt, stripText_bare fun c mem => (bare c mem).1,
      stripText_bare fun c mem => (bare_dumpNat mem).1]
  simp [parseEntry, split, named, floatOf_dumpNat decimal]

theorem mapM_parts {α β γ δ : Type} {f : α → Option β} {part : γ → α} {typed : γ → Option δ}
    {value : δ → β} {xs : List γ}
    (each : ∀ x ∈ xs, ∃ y, typed x = some y ∧ f (part x) = some (value y)) :
    (xs.map part).mapM f = some ((xs.filterMap typed).map value) := by
  induction xs with
  | nil => rfl
  | cons x xs ih =>
    have rest := ih fun y mem => each y (List.mem_cons_of_mem x mem)
    obtain ⟨y, isTyped, isRead⟩ := each x List.mem_cons_self
    simp [isTyped, isRead, rest]

theorem mapM_same {α β : Type} {f g : α → Option β} {xs : List α} (same : ∀ x ∈ xs, f x = g x) :
    xs.mapM f = xs.mapM g := by
  induction xs with
  | nil => rfl
  | cons x xs ih =>
    have rest := ih fun y mem => same y (List.mem_cons_of_mem x mem)
    simp only [List.mapM_cons, same x List.mem_cons_self, rest]

/-- An entry of a distribution, when its name is the name of a persona. -/
def namedEntry (entry : Text × Int) : Option (CustomerPersona × Nat) :=
  (personaNamed entry.1).map fun persona => (persona, entry.2.toNat)

/-- The entry is one of a distribution that the API accepts. -/
def Wellformed (entry : Text × Int) : Prop := entry.1 ∈ personaNames ∧ 0 ≤ entry.2

theorem renderEntry_bare {entry : Text × Int} (wellformed : Wellformed entry) :
    ∀ c ∈ renderEntry entry, isStrSpace c = false ∧ c ≠ 0x2C := by
  obtain ⟨name, value⟩ := entry
  obtain ⟨known, nonneg⟩ := wellformed
  obtain ⟨n, rfl⟩ := Int.eq_ofNat_of_zero_le nonneg
  intro c mem
  rcases List.mem_append.mp mem with inName | inRest
  · have bare := personaNames_bare name known c inName
    exact ⟨bare.1, bare.2.2⟩
  · rcases List.mem_cons.mp inRest with rfl | digit
    · decide
    · exact bare_dumpNat digit

/-- So is a joined list of them. -/
theorem weightEntries_join {entries : List (Text × Int)} (nonempty : entries ≠ [])
    (wellformed : ∀ entry ∈ entries, Wellformed entry) :
    weightEntries decimal (List.intercalate [0x2C] (entries.map renderEntry)) =
      some ((entries.filterMap namedEntry).map fun entry => (entry.1, .finite entry.2)) := by
  have noComma : ∀ part ∈ entries.map renderEntry, 0x2C ∉ part := by
    intro part mem comma
    obtain ⟨entry, inEntries, rfl⟩ := List.mem_map.mp mem
    exact (renderEntry_bare (wellformed entry inEntries) _ comma).2 rfl
  have stripped : (entries.map renderEntry).map stripText = entries.map renderEntry := by
    rw [List.map_map]
    refine List.map_congr_left fun entry mem => ?_
    exact stripText_bare fun c inPart => (renderEntry_bare (wellformed entry mem) c inPart).1
  have kept : ∀ part ∈ entries.map renderEntry, (!part.isEmpty) = true := by
    intro part mem
    obtain ⟨entry, -, rfl⟩ := List.mem_map.mp mem
    simp [renderEntry]
  unfold weightEntries
  rw [List.splitOn_intercalate _ noComma (by simpa using nonempty), stripped,
    List.filter_eq_self.mpr kept]
  refine mapM_parts fun entry mem => ?_
  obtain ⟨name, value⟩ := entry
  obtain ⟨known, nonneg⟩ := wellformed _ mem
  obtain ⟨n, rfl⟩ := Int.eq_ofNat_of_zero_le nonneg
  obtain ⟨persona, named⟩ := personaNamed_known known
  refine ⟨(persona, n), ?_, parseEntry_render decimal named n⟩
  simp [namedEntry, named]

/-- ASCII text is read the same whatever `decimal` is. -/
theorem parseEntry_ascii {entry : Text} (ascii : ∀ c ∈ entry, c < 0x80) :
    parseEntry decimal entry = parseEntry (fun _ => none) entry := by
  unfold parseEntry
  cases parts : splitEntry entry with
  | none => rfl
  | some part =>
    have within : ∀ c ∈ part.2, c < 0x80 := by
      unfold splitEntry at parts
      split at parts
      · cases parts
      · rename_i d weight after
        obtain rfl := Option.some.inj parts
        intro c mem
        have inWeight : c ∈ weight :=
          (List.dropWhile_suffix _).subset
            (List.mem_reverse.mp ((List.dropWhile_suffix _).subset (List.mem_reverse.mp mem)))
        exact ascii c ((List.dropWhile_suffix _).subset (after ▸ List.mem_cons_of_mem d inWeight))
    simp only [bind, Option.bind_some, floatOf, map_asciiDigit _ within]

/-- The default text stands for the default weights. -/
theorem weightEntries_default :
    weightEntries decimal defaultWeightText = some defaultPersonaWeights := by
  have ascii : ∀ entry ∈ ((defaultWeightText.splitOn 0x2C).map stripText).filter
      (fun entry => !entry.isEmpty), ∀ c ∈ entry, c < 0x80 := by
    decide +kernel
  have read : weightEntries (fun _ => none) defaultWeightText = some defaultPersonaWeights := by
    decide +kernel
  rw [← read]
  unfold weightEntries
  exact mapM_same fun entry mem => parseEntry_ascii decimal (ascii entry mem)

end

end CommercePlatform.Generator
