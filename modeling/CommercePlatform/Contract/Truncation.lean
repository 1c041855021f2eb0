import CommercePlatform.Contract.Dumps

/-!
Truncated documents: `json.loads` refuses a rendered object without its last byte.
-/

namespace CommercePlatform.Contract

namespace Json

section

variable {levels : Nat} {next key rest later : Text} {j : Json}

theorem expect_nil (c : Nat) : expect c [] = .error .jsonDecodeError := rfl

/-- A member with nothing behind it. -/
theorem scanMembers_cut (named : Reads (scanString rest) key (0x3A :: next))
    (read : Reads (scanOnce levels (skipWhitespace next)) j []) :
    scanMembers levels (0x22 :: rest) = .error .jsonDecodeError := by
  obtain ⟨_, quote⟩ := @expect_here 0x22 (by decide) rest
  obtain ⟨_, named⟩ := named
  obtain ⟨_, colon⟩ := @expect_here 0x3A (by decide) next
  obtain ⟨_, scanned⟩ := read
  rw [scanMembers.eq_def]
  simp only [quote, named, colon, scanned, bind, Except.bind, expect_nil]

/-- A member with something behind it that is none. -/
theorem scanMembers_fails {e : PyException} (named : Reads (scanString rest) key (0x3A :: next))
    (read : Reads (scanOnce levels (skipWhitespace next)) j (0x2C :: later))
    (fails : scanMembers levels later = .error e) :
    scanMembers levels (0x22 :: rest) = .error e := by
  obtain ⟨_, quote⟩ := @expect_here 0x22 (by decide) rest
  obtain ⟨_, named⟩ := named
  obtain ⟨_, colon⟩ := @expect_here 0x3A (by decide) next
  obtain ⟨_, scanned⟩ := read
  obtain ⟨_, comma⟩ := @expect_here 0x2C (by decide) later
  have open_ := @expect_other 0x7D 0x2C (by decide) (by decide) later
  rw [scanMembers.eq_def]
  simp only [quote, named, colon, scanned, bind, Except.bind, open_, comma, fails]

end

/-- Without its closing brace an object cannot be read. -/
theorem scanMembers_truncated (ascii : Bool) (key : Text) (value : Json)
    (members : List (Text × Json)) {levels : Nat}
    (fit : fitsMembers ((key, value) :: members) levels = true) :
    ∃ rest, dumpMembers ascii ((key, value) :: members) = 0x22 :: rest ++ [0x7D] ∧
      scanMembers levels (0x22 :: rest) = .error .jsonDecodeError := by
  induction members generalizing key value with
  | nil =>
    obtain ⟨both, -⟩ := (Bool.and_eq_true _ _).mp fit
    obtain ⟨scalar, first⟩ := (Bool.and_eq_true _ _).mp both
    obtain ⟨c, tail, eq, solid, -⟩ := dumps_head ascii first
    have read := @scanOnce_dumps ascii value _ first [] (by simp [Stops])
    refine ⟨key.flatMap (escapePoint ascii) ++ 0x22 :: 0x3A :: dumps ascii value, ?_, ?_⟩
    · simp [dumpMembers, dumpString]
    · rw [List.append_nil] at read
      refine scanMembers_cut (j := value) (scanString_dump ascii scalar _) ?_
      rw [eq, skipWhitespace_head solid, ← eq]
      exact read
  | cons next members ih =>
    obtain ⟨both, others⟩ := (Bool.and_eq_true _ _).mp fit
    obtain ⟨scalar, first⟩ := (Bool.and_eq_true _ _).mp both
    obtain ⟨c, tail, eq, solid, -⟩ := dumps_head ascii first
    obtain ⟨rest, text, fails⟩ := ih next.1 next.2 others
    refine ⟨key.flatMap (escapePoint ascii) ++ 0x22 :: 0x3A :: (dumps ascii value ++
      0x2C :: 0x22 :: rest), ?_, ?_⟩
    · have text : dumpMembers ascii (next :: members) = 0x22 :: rest ++ [0x7D] := text
      simp [dumpMembers, dumpString, text]
    · refine scanMembers_fails (j := value) (scanString_dump ascii scalar _) ?_ fails
      rw [eq, List.cons_append, skipWhitespace_head solid, ← List.cons_append, ← eq]
      exact scanOnce_dumps ascii value first (stops_of (by simp) _)

/-- `json.loads` of the bytes of a rendered object without the last one. -/
theorem loads_truncated (ascii : Bool) {members : List (Text × Json)} {limit : Nat}
    (fit : (obj members).fits limit = true) (nonempty : members ≠ []) :
    loads limit (((obj members).dumps ascii).flatMap Text.encodePoint).dropLast =
      .error .jsonDecodeError := by
  obtain ⟨⟨key, value⟩, others, rfl⟩ := List.exists_cons_of_ne_nil nonempty
  match limit with
  | levels + 1 =>
    obtain ⟨rest, text, fails⟩ := scanMembers_truncated ascii key value others fit
    have dumped : (obj ((key, value) :: others)).dumps ascii = (0x7B :: 0x22 :: rest) ++ [0x7D] :=
      congrArg (0x7B :: ·) text
    have bytes : (((obj ((key, value) :: others)).dumps ascii).flatMap Text.encodePoint).dropLast =
        (0x7B :: 0x22 :: rest).flatMap Text.encodePoint := by
      rw [dumped, List.flatMap_append]
      exact List.dropLast_concat
    have scalar : Text.scalar (0x7B :: 0x22 :: rest) = true := by
      have whole := dumps_scalar ascii (obj ((key, value) :: others)) fit
      rw [dumped, Text.scalar, List.all_append, Bool.and_eq_true] at whole
      exact whole.1
    have decoded : decodeJsonBytes ((0x7B :: 0x22 :: rest).flatMap Text.encodePoint) =
        .ok (0x7B :: 0x22 :: rest) :=
      (decodeJsonBytes_object (b := 0x22) (by decide) _).trans (decodeUtf8_encode true scalar)
    have scanned : scanOnce (levels + 1) (skipWhitespace (0x7B :: 0x22 :: rest)) =
        .error .jsonDecodeError := by
      have start : skipWhitespace (0x7B :: 0x22 :: rest) = 0x7B :: 0x22 :: rest :=
        skipWhitespace_head (by decide) _
      have open_ := @expect_other 0x7D 0x22 (by decide) (by decide) rest
      rw [start, scanOnce.eq_def]
      simp only [open_, fails]
      rfl
    rw [bytes]
    simp only [loads, bind, Except.bind, decoded, scanned]

end Json

end CommercePlatform.Contract
