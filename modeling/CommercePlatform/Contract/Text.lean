import CommercePlatform.Models

/-!
Python text and its codecs.

A `str` is a sequence of code points, and may hold surrogates: `json.loads` produces
them from escapes and, since it decodes bytes with `surrogatepass`, from the encoded
input as well. Such text has no UTF-8 encoding.
-/

namespace CommercePlatform.Contract

/-- A Python `str`, by its code points. -/
abbrev Text := List Nat

namespace Text

def ofString (s : String) : Text := s.toList.map Char.toNat

def isSurrogate (c : Nat) : Bool := 0xD800 ≤ c ∧ c ≤ 0xDFFF

/-- The text can be encoded in UTF-8. -/
def encodable (t : Text) : Bool := t.all fun c => !isSurrogate c

theorem encodable_append (t u : Text) : encodable (t ++ u) = (encodable t && encodable u) :=
  List.all_append

theorem ofString_encodable (s : String) : encodable (ofString s) = true := by
  refine List.all_eq_true.mpr fun c mem => ?_
  obtain ⟨char, -, rfl⟩ := List.mem_map.mp mem
  have valid := char.valid
  simp only [isSurrogate, Char.toNat, UInt32.isValidChar, Nat.isValidChar] at valid ⊢
  simp only [Bool.not_eq_true', decide_eq_false_iff_not]
  omega

/-- A Unicode scalar value. -/
def isScalar (c : Nat) : Bool := decide (c < 0x110000) && !isSurrogate c

/-- Text of scalar values, which is what UTF-8 carries. -/
def scalar (t : Text) : Bool := t.all isScalar

theorem ofString_scalar (s : String) : scalar (ofString s) = true := by
  refine List.all_eq_true.mpr fun c mem => ?_
  have encodable := List.all_eq_true.mp (ofString_encodable s) c mem
  obtain ⟨char, -, rfl⟩ := List.mem_map.mp mem
  have small : char.toNat < 0x110000 := by
    have valid := char.valid
    simp only [UInt32.isValidChar, Nat.isValidChar] at valid
    simp only [Char.toNat]
    omega
  exact (Bool.and_eq_true _ _).mpr ⟨decide_eq_true small, encodable⟩

theorem encodable_of_scalar {t : Text} (holds : scalar t = true) : encodable t = true := by
  refine List.all_eq_true.mpr fun c mem => ?_
  exact ((Bool.and_eq_true _ _).mp (List.all_eq_true.mp holds c mem)).2

/-- The bytes of a code point in UTF-8. -/
def encodePoint (c : Nat) : List UInt8 :=
  if c < 0x80 then [UInt8.ofNat c]
  else if c < 0x800 then [UInt8.ofNat (0xC0 + c / 64), UInt8.ofNat (0x80 + c % 64)]
  else if c < 0x10000 then
    [UInt8.ofNat (0xE0 + c / 4096), UInt8.ofNat (0x80 + c / 64 % 64), UInt8.ofNat (0x80 + c % 64)]
  else
    [UInt8.ofNat (0xF0 + c / 262144), UInt8.ofNat (0x80 + c / 4096 % 64),
      UInt8.ofNat (0x80 + c / 64 % 64), UInt8.ofNat (0x80 + c % 64)]

/-- `text.encode()`. -/
def encode (t : Text) : Except PyException (List UInt8) :=
  if t.encodable then .ok (t.flatMap encodePoint) else .error .unicodeEncodeError

end Text

/-! ### Decoding bytes -/

/-- The continuation bytes of UTF-8. -/
def isTail (b : Nat) : Bool := 0x80 ≤ b ∧ b ≤ 0xBF

/-- `bytes.decode("utf-8")`; `pass` is the error handler `surrogatepass`. -/
def decodeUtf8 (pass : Bool) : List UInt8 → Except PyException Text
  | [] => .ok []
  | a :: rest =>
    let a := a.toNat
    if a < 0x80 then (a :: ·) <$> decodeUtf8 pass rest
    else
      match rest with
      | [] => .error .unicodeDecodeError
      | b :: rest =>
        let b := b.toNat
        if !isTail b then .error .unicodeDecodeError
        else if 0xC2 ≤ a ∧ a ≤ 0xDF then
          (((a - 0xC0) * 64 + (b - 0x80)) :: ·) <$> decodeUtf8 pass rest
        else
          match rest with
          | [] => .error .unicodeDecodeError
          | c :: rest =>
            let c := c.toNat
            let three := (a - 0xE0) * 4096 + (b - 0x80) * 64 + (c - 0x80)
            if !isTail c then .error .unicodeDecodeError
            else if 0xE0 ≤ a ∧ a ≤ 0xEF then
              if three < 0x800 ∨ (Text.isSurrogate three ∧ !pass) then .error .unicodeDecodeError
              else (three :: ·) <$> decodeUtf8 pass rest
            else
              match rest with
              | [] => .error .unicodeDecodeError
              | d :: rest =>
                let d := d.toNat
                let four := (a - 0xF0) * 262144 + (b - 0x80) * 4096 + (c - 0x80) * 64 + (d - 0x80)
                if isTail d ∧ 0xF0 ≤ a ∧ 0x10000 ≤ four ∧ four < 0x110000 then
                  (four :: ·) <$> decodeUtf8 pass rest
                else .error .unicodeDecodeError

theorem toNat_ofNat {n : Nat} (byte : n < 256) : (UInt8.ofNat n).toNat = n := by
  simp [UInt8.toNat_ofNat', Nat.mod_eq_of_lt byte]

theorem isTail_of {n : Nat} (low : n < 64) : isTail (0x80 + n) = true := by
  simp only [isTail, decide_eq_true_eq]
  omega

/-- A code point is decoded as it was encoded. -/
theorem decodeUtf8_encodePoint (pass : Bool) {c : Nat} (small : c < 0x110000)
    (scalar : Text.isSurrogate c = false) (rest : List UInt8) :
    decodeUtf8 pass (Text.encodePoint c ++ rest) = (c :: ·) <$> decodeUtf8 pass rest := by
  unfold Text.encodePoint
  split
  · rename_i one
    simp only [List.cons_append, List.nil_append]
    rw [decodeUtf8.eq_def]
    simp only [toNat_ofNat (show c < 256 by omega), one, if_true]
  split
  · rename_i one two
    have lead : (UInt8.ofNat (0xC0 + c / 64)).toNat = 0xC0 + c / 64 := toNat_ofNat (by omega)
    have last : (UInt8.ofNat (0x80 + c % 64)).toNat = 0x80 + c % 64 := toNat_ofNat (by omega)
    simp only [List.cons_append, List.nil_append]
    rw [decodeUtf8.eq_def]
    simp only [lead, last, isTail_of (Nat.mod_lt c (by omega : 0 < 64)), Bool.not_true,
      Bool.false_eq_true, if_false]
    rw [if_neg (by omega), if_pos (by omega)]
    rw [show (0xC0 + c / 64 - 0xC0) * 64 + (0x80 + c % 64 - 0x80) = c by omega]
  split
  · rename_i one two three
    have lead : (UInt8.ofNat (0xE0 + c / 4096)).toNat = 0xE0 + c / 4096 := toNat_ofNat (by omega)
    have mid : (UInt8.ofNat (0x80 + c / 64 % 64)).toNat = 0x80 + c / 64 % 64 := toNat_ofNat (by omega)
    have last : (UInt8.ofNat (0x80 + c % 64)).toNat = 0x80 + c % 64 := toNat_ofNat (by omega)
    have value : (0xE0 + c / 4096 - 0xE0) * 4096 + (0x80 + c / 64 % 64 - 0x80) * 64 +
        (0x80 + c % 64 - 0x80) = c := by omega
    simp only [List.cons_append, List.nil_append]
    rw [decodeUtf8.eq_def]
    simp only [lead, mid, last, isTail_of (Nat.mod_lt _ (by omega : 0 < 64)), Bool.not_true,
      Bool.false_eq_true, if_false, value, scalar, false_and, or_false]
    rw [if_neg (by omega), if_neg (by omega), if_pos (by omega), if_neg two]
  · rename_i one two three
    have lead : (UInt8.ofNat (0xF0 + c / 262144)).toNat = 0xF0 + c / 262144 :=
      toNat_ofNat (by omega)
    have high : (UInt8.ofNat (0x80 + c / 4096 % 64)).toNat = 0x80 + c / 4096 % 64 :=
      toNat_ofNat (by omega)
    have mid : (UInt8.ofNat (0x80 + c / 64 % 64)).toNat = 0x80 + c / 64 % 64 := toNat_ofNat (by omega)
    have last : (UInt8.ofNat (0x80 + c % 64)).toNat = 0x80 + c % 64 := toNat_ofNat (by omega)
    have value : (0xF0 + c / 262144 - 0xF0) * 262144 + (0x80 + c / 4096 % 64 - 0x80) * 4096 +
        (0x80 + c / 64 % 64 - 0x80) * 64 + (0x80 + c % 64 - 0x80) = c := by omega
    simp only [List.cons_append, List.nil_append]
    rw [decodeUtf8.eq_def]
    simp only [lead, high, mid, last, isTail_of (Nat.mod_lt _ (by omega : 0 < 64)), Bool.not_true,
      Bool.false_eq_true, if_false, value, true_and]
    rw [if_neg (by omega), if_neg (by omega), if_neg (by omega), if_pos (by omega)]

/-- Scalar text is decoded as it was encoded. -/
theorem decodeUtf8_encode (pass : Bool) {t : Text} (scalar : t.scalar = true) :
    decodeUtf8 pass (t.flatMap Text.encodePoint) = .ok t := by
  induction t with
  | nil => rfl
  | cons c t ih =>
    obtain ⟨point, rest⟩ := (Bool.and_eq_true _ _).mp scalar
    obtain ⟨small, valid⟩ := (Bool.and_eq_true _ _).mp point
    rw [List.flatMap_cons, decodeUtf8_encodePoint pass (of_decide_eq_true small) (by simpa using valid),
      ih rest]
    rfl

/-- Two bytes, or four, as a number. -/
def word (little : Bool) (bytes : List UInt8) : Nat :=
  (if little then bytes.reverse else bytes).foldl (fun n b => n * 256 + b.toNat) 0

/-- The 16-bit units of UTF-16. -/
def units16 (little : Bool) : List UInt8 → Except PyException (List Nat)
  | [] => .ok []
  | [_] => .error .unicodeDecodeError
  | a :: b :: rest => (word little [a, b] :: ·) <$> units16 little rest

/-- A high and a low surrogate are one code point; lone ones are passed. -/
def joinSurrogates : List Nat → Text
  | high :: low :: rest =>
    if 0xD800 ≤ high ∧ high ≤ 0xDBFF ∧ 0xDC00 ≤ low ∧ low ≤ 0xDFFF then
      (0x10000 + (high - 0xD800) * 1024 + (low - 0xDC00)) :: joinSurrogates rest
    else high :: joinSurrogates (low :: rest)
  | units => units

def decodeUtf16 (little : Bool) (bytes : List UInt8) : Except PyException Text :=
  joinSurrogates <$> units16 little bytes

def decodeUtf32 (little : Bool) : List UInt8 → Except PyException Text
  | [] => .ok []
  | a :: b :: c :: d :: rest =>
    let code := word little [a, b, c, d]
    if code < 0x110000 then (code :: ·) <$> decodeUtf32 little rest
    else .error .unicodeDecodeError
  | _ => .error .unicodeDecodeError

/-- `detect_encoding` of the `json` module, and the decoding with it. -/
def decodeJsonBytes : List UInt8 → Except PyException Text
  | 0x00 :: 0x00 :: 0xFE :: 0xFF :: rest => decodeUtf32 false rest
  | 0xFF :: 0xFE :: 0x00 :: 0x00 :: rest => decodeUtf32 true rest
  | 0xFE :: 0xFF :: rest => decodeUtf16 false rest
  | 0xFF :: 0xFE :: rest => decodeUtf16 true rest
  | 0xEF :: 0xBB :: 0xBF :: rest => decodeUtf8 true rest
  | bytes =>
    match bytes with
    | a :: b :: c :: d :: _ =>
      if a = 0 then if b = 0 then decodeUtf32 false bytes else decodeUtf16 false bytes
      else if b = 0 then
        if c = 0 ∧ d = 0 then decodeUtf32 true bytes else decodeUtf16 true bytes
      else decodeUtf8 true bytes
    | [a, b] =>
      if a = 0 then decodeUtf16 false bytes
      else if b = 0 then decodeUtf16 true bytes
      else decodeUtf8 true bytes
    | _ => decodeUtf8 true bytes

/-! ### Lean strings -/

theorem encodePoint_toNat (c : Char) : Text.encodePoint c.toNat = String.utf8EncodeChar c := by
  have small : c.val.toNat < 0x110000 := by
    have valid := c.valid
    simp only [UInt32.isValidChar, Nat.isValidChar] at valid
    omega
  unfold Text.encodePoint String.utf8EncodeChar
  simp only [Char.toNat]
  split
  · rw [if_pos (by omega)]
  split
  · rw [if_neg (by omega), if_pos (by omega), Nat.mod_eq_of_lt (a := c.val.toNat / 64) (by omega),
      Nat.add_comm 0xC0, Nat.add_comm 0x80]
  split
  · rw [if_neg (by omega), if_neg (by omega), if_pos (by omega),
      Nat.mod_eq_of_lt (a := c.val.toNat / 4096) (by omega), Nat.add_comm 0xE0, Nat.add_comm 0x80,
      Nat.add_comm 0x80]
  · rw [if_neg (by omega), if_neg (by omega), if_neg (by omega),
      Nat.mod_eq_of_lt (a := c.val.toNat / 262144) (by omega), Nat.add_comm 0xF0,
      Nat.add_comm 0x80, Nat.add_comm 0x80, Nat.add_comm 0x80]

theorem toList_loop (bytes : ByteArray) (i : Nat) (read : List UInt8) :
    ByteArray.toList.loop bytes i read = read.reverse ++ bytes.data.toList.drop i := by
  fun_induction ByteArray.toList.loop bytes i read with
  | case1 i read inside ih =>
    have bound : i < bytes.data.toList.length := by simpa using inside
    have here : bytes.get! i = bytes.data.toList[i] := by
      simp [ByteArray.get!, getElem!_pos bytes.data i inside]
    rw [ih, List.drop_eq_getElem_cons bound]
    simp [here]
  | case2 i read outside =>
    have past : bytes.data.toList.length ≤ i := by simpa using outside
    rw [List.drop_eq_nil_of_le past, List.append_nil]

/-- Scalar text is the text of a Lean string. -/
theorem ofString_ofNat {t : Text} (scalar : t.scalar = true) :
    Text.ofString (String.ofList (t.map Char.ofNat)) = t := by
  have each : ∀ c ∈ t, (Char.ofNat c).toNat = c := by
    intro c mem
    have holds := (Bool.and_eq_true _ _).mp (List.all_eq_true.mp scalar c mem)
    have small : c < 0x110000 := of_decide_eq_true holds.1
    have valid : c.isValidChar := by
      simp only [Text.isSurrogate, Bool.not_eq_true', decide_eq_false_iff_not] at holds
      simp only [Nat.isValidChar]
      omega
    rw [Char.ofNat, dif_pos valid]
    rfl
  simp only [Text.ofString, String.toList_ofList, List.map_map]
  exact (List.map_congr_left each).trans (List.map_id t)

/-- The bytes of a Lean string are those of its text. -/
theorem toUTF8_toList (s : String) :
    s.toUTF8.toList = (Text.ofString s).flatMap Text.encodePoint := by
  rw [String.toUTF8, ← String.utf8Encode_toList, List.utf8Encode, ByteArray.toList, toList_loop]
  simp [Text.ofString, List.flatMap_map, encodePoint_toNat]

end CommercePlatform.Contract
