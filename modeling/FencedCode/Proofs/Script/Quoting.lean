import FencedCode.Script.Json

/-!
# Quoted texts

A text between its marks is read back as it was, whatever its units are.  What is written goes along
the code points of a text and what is read along its units.  The two keep in step since a pair of
units is one code point that is written as it is, and half of a pair that stands alone is written by
its number.
-/

namespace FencedCode.Script.Json

open Text

/-! ### Units of code points -/

theorem ofCodePoint_toNat (code : UInt16) : Units.ofCodePoint code.toNat = [code] := by
  rw [Units.ofCodePoint, if_pos code.toNat_lt, UInt16.ofNat_toNat]

/-- The code point of a pair of units. -/
def pairCode (high low : UInt16) : Nat :=
  0x10000 + (high.toNat - 0xD800) * 0x400 + (low.toNat - 0xDC00)

theorem isHighHalf_iff {code : UInt16} :
    Units.isHighHalf code ↔ 0xD800 ≤ code.toNat ∧ code.toNat < 0xDC00 := by
  rw [Units.isHighHalf, Bool.and_eq_true, decide_eq_true_eq, decide_eq_true_eq]
  exact Iff.rfl

theorem isLowHalf_iff {code : UInt16} :
    Units.isLowHalf code ↔ 0xDC00 ≤ code.toNat ∧ code.toNat < 0xE000 := by
  rw [Units.isLowHalf, Bool.and_eq_true, decide_eq_true_eq, decide_eq_true_eq]
  exact Iff.rfl

/-- The code point of a pair has the pair as its units. -/
theorem ofCodePoint_pairCode {high low : UInt16} (isHigh : Units.isHighHalf high)
    (isLow : Units.isLowHalf low) : Units.ofCodePoint (pairCode high low) = [high, low] := by
  rw [isHighHalf_iff] at isHigh
  rw [isLowHalf_iff] at isLow
  have first : 0xD800 + (pairCode high low - 0x10000) / 0x400 = high.toNat := by
    unfold pairCode
    omega
  have second : 0xDC00 + (pairCode high low - 0x10000) % 0x400 = low.toNat := by
    unfold pairCode
    omega
  have beyond : ¬pairCode high low < 0x10000 := by
    unfold pairCode
    omega
  rw [Units.ofCodePoint, if_neg beyond, first, second, UInt16.ofNat_toNat, UInt16.ofNat_toNat]

/-! ### One unit -/

variable {limit : Nat} {read : Array UInt16} {rest : List UInt16} {code : UInt16}

theorem readUnits_mark :
    readUnits (limit + 1) read (unit '"' :: rest) = some (⟨read⟩, rest) := rfl

theorem readUnits_plain (noMark : code ≠ unit '"') (noEscape : code ≠ unit '\\')
    (printed : ¬code < 32) :
    readUnits (limit + 1) read (code :: rest) = readUnits limit (read.push code) rest := by
  have first : next (code :: rest) = some (code, rest) := rfl
  simp [readUnits, bind, StateT.bind, first, noMark, noEscape, printed]

/-- The units of pairs are read as they are. -/
theorem readUnits_half (half : 0xD800 ≤ code.toNat) :
    readUnits (limit + 1) read (code :: rest) = readUnits limit (read.push code) rest := by
  have other (printed : UInt16) (small : printed.toNat < 0xD800) : code ≠ printed := by
    rintro rfl
    omega
  refine readUnits_plain (other _ (by decide)) (other _ (by decide)) ?_
  rw [UInt16.lt_iff_toNat_lt]
  exact Nat.not_lt.mpr (Nat.le_trans (by decide) half)

/-- What is read behind a backslash is one unit. -/
theorem readUnits_escape {more : List UInt16} (isEscaped : escaped rest = some (code, more)) :
    readUnits (limit + 1) read (unit '\\' :: rest) = readUnits limit (read.push code) more := by
  have first : next (unit '\\' :: rest) = some (unit '\\', rest) := rfl
  have noMark : unit '\\' ≠ unit '"' := by decide
  simp [readUnits, bind, StateT.bind, first, noMark, isEscaped]

/-! ### Numbers of units -/

/-- The digit of a number below sixteen in base sixteen. -/
def smallDigit (digit : Nat) : UInt16 :=
  unit (if digit < 10 then .ofNat (48 + digit) else .ofNat (87 + digit))

/-- The digits of a unit in base sixteen. -/
def fourDigits (code : Nat) : List UInt16 :=
  [code / 4096, code / 256 % 16, code / 16 % 16, code % 16].map smallDigit

theorem hexDigit_smallDigit {digit : Nat} (isDigit : digit < 16) :
    hexDigit (smallDigit digit :: rest) = some (.ofNat digit, rest) := by
  have values : ∀ digit < 16, hexValue? (smallDigit digit) = some (.ofNat digit) := by decide
  have first : next (smallDigit digit :: rest) = some (smallDigit digit, rest) := rfl
  simp only [hexDigit, bind, StateT.bind, first, Option.bind, values digit isDigit]
  rfl

/-- The four digits of a unit are read back. -/
theorem escaped_fourDigits (code : UInt16) :
    escaped (unit 'u' :: (fourDigits code.toNat ++ rest)) = some (code, rest) := by
  have bound := code.toNat_lt
  have joined : ((UInt16.ofNat (code.toNat / 4096) * 16 + .ofNat (code.toNat / 256 % 16)) * 16 +
      .ofNat (code.toNat / 16 % 16)) * 16 + .ofNat (code.toNat % 16) = code := by
    apply UInt16.toNat_inj.mp
    simp only [UInt16.toNat_add, UInt16.toNat_mul, UInt16.toNat_ofNat', UInt16.reduceToNat]
    omega
  have opened (digits : List UInt16) : escaped (unit 'u' :: digits) = (do
      let first ← hexDigit
      let second ← hexDigit
      let third ← hexDigit
      let fourth ← hexDigit
      return ((first * 16 + second) * 16 + third) * 16 + fourth : Reader UInt16) digits := rfl
  rw [opened]
  simp only [bind, StateT.bind, Option.bind, fourDigits, List.map_cons, List.map_nil,
    List.cons_append, List.nil_append,
    hexDigit_smallDigit (show code.toNat / 4096 < 16 by omega),
    hexDigit_smallDigit (show code.toNat / 256 % 16 < 16 by omega),
    hexDigit_smallDigit (show code.toNat / 16 % 16 < 16 by omega),
    hexDigit_smallDigit (show code.toNat % 16 < 16 by omega), joined]
  rfl

/-- The units of an escape by number. -/
theorem flatMap_ofCodePoint_number {code : Nat} (small : code < 0x10000) :
    (('\\' :: 'u' :: Units.hexDigits false code).map Char.toNat).flatMap Units.ofCodePoint =
      unit '\\' :: unit 'u' :: fourDigits code := by
  have digits : ∀ digit < 16,
      Units.ofCodePoint (if digit < 10 then Char.ofNat (48 + digit)
        else Char.ofNat (87 + digit)).toNat = [smallDigit digit] := by decide
  have backslash : Units.ofCodePoint '\\'.toNat = [unit '\\'] := by decide
  have letter : Units.ofCodePoint 'u'.toNat = [unit 'u'] := by decide
  simp only [Units.hexDigits, Bool.false_eq_true, if_false, List.map_cons, List.map_nil,
    List.flatMap_cons, List.flatMap_nil, backslash, letter,
    digits (code / 4096) (by omega), digits (code / 256 % 16) (by omega),
    digits (code / 16 % 16) (by omega), digits (code % 16) (by omega)]
  rfl

/-! ### Code points -/

/-- The units that a code point is written as. -/
def writtenCode (code : Nat) : List UInt16 := (escapeCode code).flatMap Units.ofCodePoint

theorem readUnits_writtenCode (code : UInt16) :
    readUnits (limit + 1) read (writtenCode code.toNat ++ rest) =
      readUnits limit (read.push code) rest := by
  have isCode : code = .ofNat code.toNat := UInt16.ofNat_toNat.symm
  rw [writtenCode, escapeCode.eq_def]
  split
  -- The first seven are written by a letter, which is read as the unit it stands for.
  iterate 7
    next same =>
      rw [same] at isCode
      subst isCode
      exact readUnits_escape rfl
  next noBackspace noTab noFeed noForm noReturn noMark noEscape =>
    split
    next =>
      rw [flatMap_ofCodePoint_number code.toNat_lt]
      exact readUnits_escape (escaped_fourDigits code)
    next printed =>
      rw [Bool.or_eq_true, decide_eq_true_eq, not_or] at printed
      rw [List.flatMap_singleton, ofCodePoint_toNat]
      exact readUnits_plain (mt (congrArg UInt16.toNat) noMark)
        (mt (congrArg UInt16.toNat) noEscape) printed.1

theorem writtenCode_pairCode {high low : UInt16} (isHigh : Units.isHighHalf high)
    (isLow : Units.isLowHalf low) : writtenCode (pairCode high low) = [high, low] := by
  have units := ofCodePoint_pairCode isHigh isLow
  rw [isHighHalf_iff] at isHigh
  rw [isLowHalf_iff] at isLow
  have beyond : 0x10000 ≤ pairCode high low := by
    unfold pairCode
    omega
  have valid : (pairCode high low).isValidChar := by
    refine Or.inr ⟨by omega, ?_⟩
    unfold pairCode
    omega
  rw [writtenCode, escapeCode.eq_def]
  split
  iterate 7
    next same => omega
  next =>
    have printed : (decide (pairCode high low < 32) || !decide (pairCode high low).isValidChar) =
        false := by
      rw [decide_eq_true valid, decide_eq_false (by omega)]
      rfl
    rw [printed, if_neg Bool.false_ne_true, List.flatMap_singleton, units]

/-! ### Texts -/

theorem ofCodePoint_ne_nil (code : Nat) : Units.ofCodePoint code ≠ [] := by
  rw [Units.ofCodePoint]
  split <;> exact List.cons_ne_nil _ _

theorem escapeCode_ne_nil (code : Nat) : escapeCode code ≠ [] := by
  rw [escapeCode.eq_def]
  split
  iterate 7 exact List.cons_ne_nil _ _
  split <;> exact List.cons_ne_nil _ _

theorem length_writtenCode_pos (code : Nat) : 0 < (writtenCode code).length := by
  obtain ⟨first, rest, escaped⟩ := List.exists_cons_of_ne_nil (escapeCode_ne_nil code)
  rw [writtenCode, escaped, List.flatMap_cons, List.length_append]
  have := List.length_pos_iff.mpr (ofCodePoint_ne_nil first)
  omega

/-- What is written is not shorter than the text. -/
theorem length_le_written (units : List UInt16) :
    units.length ≤ ((Units.codePointsOf units).flatMap writtenCode).length := by
  fun_induction Units.codePointsOf units with
  | case1 => exact Nat.le_refl 0
  | case2 code =>
    rw [List.flatMap_singleton]
    exact length_writtenCode_pos code.toNat
  | case3 high low more isPair ih =>
    rw [Bool.and_eq_true] at isPair
    have written := writtenCode_pairCode isPair.1 isPair.2
    unfold pairCode at written
    rw [List.flatMap_cons, written]
    exact Nat.add_le_add_right (Nat.add_le_add_right ih 1) 1
  | case4 high low more noPair ih =>
    have := length_writtenCode_pos high.toNat
    rw [List.flatMap_cons, List.length_append, List.length_cons]
    omega

/-- What stands behind the opening mark of a text is read as its units. -/
theorem readUnits_written (units : List UInt16) (enough : units.length < limit) :
    readUnits limit read ((Units.codePointsOf units).flatMap writtenCode ++ unit '"' :: rest) =
      some (⟨read ++ units.toArray⟩, rest) := by
  obtain ⟨limit, rfl⟩ := Nat.exists_eq_succ_of_ne_zero (Nat.ne_zero_of_lt enough)
  -- A unit is read at each step, a pair at two; what is left of the limit stays beyond what is left.
  fun_induction Units.codePointsOf units generalizing limit read with
  | case1 => rw [List.flatMap_nil, List.nil_append, readUnits_mark, Array.append_empty]
  | case2 code =>
    obtain ⟨limit, rfl⟩ : ∃ more, limit = more + 1 := ⟨limit - 1, by grind⟩
    rw [List.flatMap_singleton, readUnits_writtenCode, readUnits_mark, ← List.push_append_toArray,
      Array.append_empty]
  | case3 high low more isPair ih =>
    rw [Bool.and_eq_true] at isPair
    obtain ⟨limit, rfl⟩ : ∃ more, limit = more + 2 := ⟨limit - 2, by grind⟩
    have written := writtenCode_pairCode isPair.1 isPair.2
    rw [isHighHalf_iff, isLowHalf_iff] at isPair
    unfold pairCode at written
    rw [List.flatMap_cons, written, List.append_assoc, List.cons_append, List.cons_append,
      List.nil_append, readUnits_half isPair.1.1, readUnits_half (by omega), ih limit (by grind),
      List.push_append_toArray, List.push_append_toArray]
  | case4 high low more noPair ih =>
    obtain ⟨limit, rfl⟩ : ∃ more, limit = more + 1 := ⟨limit - 1, by grind⟩
    rw [List.flatMap_cons, List.append_assoc, readUnits_writtenCode, ih limit (by grind),
      List.push_append_toArray]

theorem readText_written (text : Units) :
    readText (text.codePoints.flatMap writtenCode ++ [unit '"']) = some (text, []) := by
  have enough := length_le_written text.codes.toList
  rw [readText, Units.codePoints, readUnits_written]
  · rw [Array.toArray_toList, Array.empty_append]
  · rw [List.length_append]
    exact Nat.lt_succ_of_le (Nat.le_add_right_of_le enough)

theorem codes_quote (text : Units) : (quote text).codes.toList =
    unit '"' :: (text.codePoints.flatMap writtenCode ++ [unit '"']) := by
  have mark : (Units.ofString "\"").codes.toList = [unit '"'] := by decide
  have appended (left right : Units) :
      (left ++ right).codes.toList = left.codes.toList ++ right.codes.toList :=
    Array.toList_append
  rw [quote, appended, appended, mark, Units.ofCodePoints, List.flatMap_assoc]
  rfl

/-- A text between its marks is the structured value that the text is. -/
theorem parse?_quote (text : Units) : parse? (quote text) = some (.string text) := by
  have opened (units : List UInt16) : (readValue depthLimit).run (unit '"' :: units) =
      (readText units).bind fun read => some (.string read.1, read.2) := by
    rfl
  rw [parse?, codes_quote, opened, readText_written]
  rfl

theorem quote_inj {left right : Units} : quote left = quote right ↔ left = right := by
  refine ⟨fun same => ?_, congrArg quote⟩
  have values := congrArg parse? same
  rwa [parse?_quote, parse?_quote, Option.some.injEq, Json.string.injEq] at values

end FencedCode.Script.Json
