import Lexis.Proofs.Lexeme.Escape.Extent
import Lexis.Proofs.Lexer.Strings
import Mathlib.Algebra.Ring.Nat

/-!
# Escapes ahead of a cursor

A literal decodes an escape by looking ahead from the backslash.  It counts the digits of a code
point and puts them together in 32 bits on its way, up to the first character that is no digit.

* `Escape.HasRoom` is what keeps the number within 32 bits.  `Escape.accumulate?_of_hasRoom` keeps
  it over one digit, and `Escape.foldlM_accumulate?` is about any number of digits.
* `Cursor.digitsAhead?` is the loop over the digits, and `Cursor.digitsAhead?_eq` says which digits
  it goes over.
* `Cursor.escape?` decodes an escape, and `Cursor.escape?_eq` says that it finds what the scan of
  the text behind the backslash finds.
* `Cursor.escape_sequences` says what that is, and how far it reaches.
-/

namespace Lexis

namespace Escape

/-! ## Numbers of 32 bits -/

/-- Puts one more digit behind a number.  There is no answer if 32 bits are too few for what comes
out. -/
def accumulate? (base : Nat) (value : UInt32) (c : Char) : Option UInt32 :=
  let next := value.toNat * base + (hexValue? c).getD 0
  if next < UInt32.size then some (.ofNat next) else none

/-- There is room in 32 bits for `count` more digits behind the number. -/
def HasRoom (base count value : Nat) : Prop :=
  (value + 1) * base ^ count ≤ UInt32.size

namespace HasRoom

variable {base count value : Nat}

/-- A digit takes one place of the room. -/
theorem behind {digit : Nat} (h : HasRoom base (count + 1) value) (hdigit : digit < base) :
    HasRoom base count (value * base + digit) := by
  have hnext : value * base + digit + 1 ≤ (value + 1) * base := by
    rw [Nat.add_mul, Nat.one_mul]
    omega
  unfold HasRoom at h ⊢
  calc (value * base + digit + 1) * base ^ count
      ≤ (value + 1) * base * base ^ count := Nat.mul_le_mul_right _ hnext
    _ = (value + 1) * base ^ (count + 1) := by rw [Nat.pow_succ', Nat.mul_assoc]
    _ ≤ UInt32.size := h

theorem lt_size (h : HasRoom base count value) (hbase : 0 < base) : value < UInt32.size := by
  unfold HasRoom at h
  calc value < value + 1 := Nat.lt_succ_self value
    _ ≤ (value + 1) * base ^ count := Nat.le_mul_of_pos_right _ (Nat.pow_pos hbase)
    _ ≤ UInt32.size := h

theorem mono {more : Nat} (h : HasRoom base count value) (hle : more ≤ count) (hbase : 0 < base) :
    HasRoom base more value := by
  unfold HasRoom at h ⊢
  exact Nat.le_trans (Nat.mul_le_mul_left _ (Nat.pow_le_pow_right hbase hle)) h

/-- Eight hexadecimal digits fill 32 bits. -/
theorem hexadecimal (hle : count ≤ 8) : HasRoom 16 count 0 := by
  have hall : HasRoom 16 8 0 := by
    unfold HasRoom
    decide
  exact hall.mono hle (by decide)

theorem octal : HasRoom 8 3 0 := by
  unfold HasRoom
  decide

end HasRoom

section Accumulate

variable {base count : Nat} {value : UInt32}

theorem accumulate?_of_hasRoom {c : Char} (hdigit : isDigitIn base c = true)
    (hroom : HasRoom base (count + 1) value.toNat) :
    ∃ next, accumulate? base value c = some next ∧
      next.toNat = value.toNat * base + (hexValue? c).getD 0 ∧ HasRoom base count next.toNat := by
  obtain ⟨digit, hvalue, hlt⟩ := isDigitIn_iff.1 hdigit
  have hnext : HasRoom base count (value.toNat * base + digit) := hroom.behind hlt
  have hsize : value.toNat * base + digit < UInt32.size := hnext.lt_size (by omega)
  have htoNat : (UInt32.ofNat (value.toNat * base + digit)).toNat = value.toNat * base + digit :=
    UInt32.toNat_ofNat_of_lt' hsize
  unfold accumulate?
  rw [hvalue, Option.getD_some, if_pos hsize]
  refine ⟨_, rfl, htoNat, ?_⟩
  rw [htoNat]
  exact hnext

/-- Where there is room for all digits, the number that they write is what comes out. -/
theorem foldlM_accumulate? {digits : List Char}
    (hdigits : ∀ digit ∈ digits, isDigitIn base digit = true)
    (hroom : HasRoom base digits.length value.toNat) :
    ∃ word, digits.foldlM (accumulate? base) value = some word ∧
      word.toNat =
        digits.foldl (fun value c => value * base + (hexValue? c).getD 0) value.toNat := by
  induction digits generalizing value with
  | nil => exact ⟨value, rfl, rfl⟩
  | cons digit digits ih =>
      rw [List.forall_mem_cons] at hdigits
      obtain ⟨next, hnext, hvalue, hrest⟩ := accumulate?_of_hasRoom hdigits.1 hroom
      obtain ⟨word, hword, hlast⟩ := ih hdigits.2 hrest
      refine ⟨word, ?_, ?_⟩
      · rw [List.foldlM_cons, hnext]
        exact hword
      · rw [hlast, hvalue]
        rfl

/-- Eight hexadecimal digits come to the greatest number, and a ninth is one too many. -/
example : "ffffffff".toList.foldlM (accumulate? 16) 0 = some 0xffffffff ∧
    accumulate? 16 0xffffffff '0' = none := by
  decide

end Accumulate

end Escape

open Escape

namespace Cursor

/-! ## Looking ahead -/

/-- Goes over digits from the place `ahead` on, `count` at most, up to the first character that is
none.  The answer is the place behind them, and the number with these digits behind `value`. -/
def digitsAhead? (cursor : Cursor) (base : Nat) : Nat → Nat → UInt32 → Option (Nat × UInt32)
  | ahead, 0, value => some (ahead, value)
  | ahead, count + 1, value =>
      match (cursor.peek ahead).filter (isDigitIn base) with
      | some c => do
          let next ← accumulate? base value c
          cursor.digitsAhead? base (ahead + 1) count next
      | none => some (ahead, value)

/-- Looks for exactly `count` digits from the place `ahead` on that write an admissible code point.
The answer is the verdict, and the place behind the last digit. -/
def codeAhead? (cursor : Cursor) (base count : Nat) (admit? : Nat → Option Char) (fault : Fault)
    (ahead : Nat) : Option (Except Fault Char × Nat) := do
  let (place, value) ← cursor.digitsAhead? base ahead count 0
  if place = ahead + count then
    match admit? value.toNat with
    | some c => return (.ok c, place)
    | none => return (.error fault, place)
  else return (.error fault, place)

/-- Decodes the escape whose backslash stands at the cursor, by looking ahead.  The answer is the
character or the fault, and how many characters there are of it, the backslash included.  There is
none if 32 bits are too few for a code point. -/
def escape? (cursor : Cursor) : Option (Except Fault Char × Nat) :=
  match cursor.peek 1 with
  | none => some (.error (.unknownEscape '\\'), 1)
  | some c =>
      match letter? c, digitCount? c with
      | some value, _ => some (.ok value, 2)
      | none, some count => cursor.codeAhead? 16 count scalar? .unicodeEscape 2
      | none, none =>
          if isOctalDigit c then cursor.codeAhead? 8 3 byte? .octalEscape 1
          else if c = '\n' then some (.error (.unknownEscape c), 1)
          else some (.error (.unknownEscape c), 2)

variable {cursor : Cursor} {text : List Char}

/-- The loop goes over the longest run of digits, and puts them together one by one. -/
theorem digitsAhead?_eq (cursor : Cursor) (base ahead count : Nat) (value : UInt32) :
    cursor.digitsAhead? base ahead count value =
      let found := ((cursor.rest.drop ahead).take count).takeWhile (isDigitIn base)
      (found.foldlM (accumulate? base) value).map fun word => (ahead + found.length, word) := by
  induction count generalizing ahead value with
  | zero => rfl
  | succ count ih =>
      have hpeek : cursor.peek ahead = (cursor.rest.drop ahead).head? := List.head?_drop.symm
      have hnext : cursor.rest.drop (ahead + 1) = (cursor.rest.drop ahead).tail :=
        List.tail_drop.symm
      unfold digitsAhead?
      rw [hpeek]
      cases htext : cursor.rest.drop ahead with
      | nil => rfl
      | cons c text =>
          rw [htext, List.tail_cons] at hnext
          rw [List.take_succ_cons, List.takeWhile_cons, List.head?_cons, Option.filter_some]
          cases hdigit : isDigitIn base c with
          | false => rfl
          | true =>
              simp only [if_true, List.foldlM_cons, List.length_cons, Option.bind_eq_bind,
                Option.map_bind]
              refine congrArg (Option.bind _) (funext fun next => ?_)
              rw [ih, hnext]
              simp only [Nat.add_assoc, Nat.add_comm 1]
              rfl

/-- Digits of a code point are found, and found to be admissible, as the scan of them does.  There
is always an answer, if 32 bits are enough for as many digits. -/
theorem codeAhead?_eq {base count : Nat} (hroom : HasRoom base count 0) (hbase : 0 < base)
    (admit? : Nat → Option Char) (fault : Fault) (ahead : Nat) :
    cursor.codeAhead? base count admit? fault ahead =
      some ((digits base count admit? fault (cursor.rest.drop ahead)).verdict,
        ahead + (digits base count admit? fault (cursor.rest.drop ahead)).read.length) := by
  have hrun := isLongestRun_takeWhile (isDigitIn base) ((cursor.rest.drop ahead).take count)
  have hle : (((cursor.rest.drop ahead).take count).takeWhile (isDigitIn base)).length ≤ count :=
    Nat.le_trans hrun.isPrefix.length_le (List.length_take_le _ _)
  unfold codeAhead? digits
  rw [digitsAhead?_eq]
  simp only
  generalize ((cursor.rest.drop ahead).take count).takeWhile (isDigitIn base) = found at hrun hle ⊢
  have hall : HasRoom base found.length (0 : UInt32).toNat := hroom.mono hle hbase
  obtain ⟨word, hword, hvalue⟩ := foldlM_accumulate? hrun.pass hall
  have hnumeral : word.toNat = numeralValue base found := hvalue
  simp only [hword, Option.map_some, Option.bind_eq_bind, Option.bind_some, hnumeral]
  by_cases hcount : found.length = count
  · rw [if_pos hcount, if_pos (congrArg (ahead + ·) hcount)]
    cases admit? (numeralValue base found) with
    | none => rfl
    | some c => rfl
  · have hplace : ¬ ahead + found.length = ahead + count := by omega
    rw [if_neg hcount, if_neg hplace]
    rfl

/-- Looking ahead from the backslash finds what the scan of the text behind it finds, and 32 bits
are always enough. -/
theorem escape?_eq (hrest : cursor.rest = '\\' :: text) :
    cursor.escape? = some ((scan text).verdict, (scan text).read.length + 1) := by
  have hpeek : cursor.peek 1 = text.head? := by
    show cursor.rest[1]? = text.head?
    rw [hrest, List.getElem?_cons_succ, List.head?_eq_getElem?]
  have hbehind : ∀ ahead, cursor.rest.drop (ahead + 1) = text.drop ahead := by
    intro ahead
    rw [hrest, List.drop_succ_cons]
  unfold escape?
  rw [hpeek]
  cases text with
  | nil => rfl
  | cons c text =>
      simp only [List.head?_cons, scan]
      cases hletter : letter? c with
      | some value => rfl
      | none =>
          cases hcount : digitCount? c with
          | some count =>
              have hle : count ≤ 8 := by
                rcases digitCount?_eq_some_iff.1 hcount with ⟨-, rfl⟩ | ⟨-, rfl⟩ <;> decide
              simp only
              rw [codeAhead?_eq (HasRoom.hexadecimal hle) (by decide), hbehind 1]
              simp [Scan.behind, Nat.add_comm 2]
          | none =>
              by_cases hdigit : isOctalDigit c = true
              · simp only [if_pos hdigit]
                rw [codeAhead?_eq HasRoom.octal (by decide), hbehind 0, Nat.add_comm 1]
                rfl
              · simp only [if_neg hdigit]
                split
                · rfl
                · rfl

/-- What is decoded at a cursor on a backslash, without moving it.  There is always an answer, as 32
bits are enough for eight hexadecimal digits.  It is a character just where one of the escapes
stands at the cursor, and else a fault: that of the character behind the backslash, with the digits
behind it that are in order.  In either case the answer tells how many characters these are.  They
stand on one line, and the cursor can be moved over just them. -/
theorem escape_sequences (hrest : cursor.rest = '\\' :: text) :
    (∀ c len, cursor.escape? = some (.ok c, len) ↔ AtHead text c len) ∧
    (∀ fault len, cursor.escape? = some (.error fault, len) ↔
      (∀ c len, ¬ AtHead text c len) ∧
        ∃ read, Refuses text read fault ∧ len = read.length + 1) ∧
    (∃ verdict len read rest, cursor.escape? = some (verdict, len) ∧
      scan text = ⟨read, rest, verdict⟩ ∧ 1 ≤ len ∧ len ≤ 10 ∧ len = read.length + 1 ∧
      cursor.rest = '\\' :: read ++ rest ∧ IsTaken read ∧
      cursor.advanceBy len = cursor.past ('\\' :: read) rest) ∧
    ∀ digits, digits.length ≤ 8 → (∀ digit ∈ digits, isHexDigit digit = true) →
      ∃ word, digits.foldlM (accumulate? 16) 0 = some word ∧
        word.toNat = numeralValue 16 digits := by
  have hsplits : cursor.rest = '\\' :: (scan text).read ++ (scan text).rest := by
    rw [hrest, List.cons_append, scan_splits text]
  have htaken := isTaken_scan text
  rw [escape?_eq hrest]
  simp only [Option.some.injEq, Prod.mk.injEq]
  refine ⟨fun _ _ => atHead_iff_scan.symm, fun _ _ => refused_iff_scan.symm, ?_, ?_⟩
  · exact ⟨_, _, _, _, ⟨rfl, rfl⟩, rfl, Nat.le_add_left _ _, Nat.succ_le_succ htaken.length_le,
      rfl, hsplits, htaken, advanceBy_of_rest hsplits⟩
  · intro digits hlength hdigits
    exact foldlM_accumulate? hdigits (HasRoom.hexadecimal hlength)

/-- A full-width digit is none, and is left to the literal. -/
theorem escape_sequences_fullWidth :
    let cursor := ofSource "\\u00\uff141\"" 3
    cursor.rest = '\\' :: "u00\uff141\"".toList ∧
      cursor.escape? = some (.error .unicodeEscape, 4) ∧
      (∀ c len, ¬ AtHead "u00\uff141\"".toList c len) ∧
      ∃ read, Refuses "u00\uff141\"".toList read .unicodeEscape ∧ 4 = read.length + 1 := by
  intro cursor
  have hrest : cursor.rest = '\\' :: "u00\uff141\"".toList := rfl
  have hfound : cursor.escape? = some (.error .unicodeEscape, 4) := rfl
  exact ⟨hrest, hfound, ((escape_sequences hrest).2.1 _ _).1 hfound⟩

end Cursor

end Lexis
