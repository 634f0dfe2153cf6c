/-
**Which texts are channel masks.**

A mask is a decimal numeral, or a hexadecimal one behind `0x` or `0X`. A text may seem to begin in
more than one way, but a zero and an `x` are no decimal numeral and are not too large, so the first
way that fits is the only one. Reading therefore accepts exactly the numerals below `2 ^ 32`, and
says of every other text what is wrong with it.

* `exists_form_iff`: what holds of a text behind some beginning holds behind the first that fits;
* `read_eq_ok_iff`, `read_eq_empty_iff`, `read_eq_tooLarge_iff`: the three answers;
* `masks_are_read`: **all answers together**, and the texts of every mask.
-/
import Playout.Proofs.Numeral

namespace Playout.ChannelMask

open Numeral (Spelled TooLarge Writes)

/-! ### How a mask begins -/

/-- The ways in which a mask begins, with the radix of the digits behind. -/
def forms : List (List Char × Nat) := [([], 10), (['0', 'x'], 16), (['0', 'X'], 16)]

/-- The radix of a text, and what is behind its beginning. -/
def split : List Char → Nat × List Char
  | '0' :: 'x' :: rest => (16, rest)
  | '0' :: 'X' :: rest => (16, rest)
  | text => (10, text)

theorem read_eq (text : String) :
    read text =
      (Numeral.read (split text.toList).1 wordMax (split text.toList).2).map UInt32.ofNat := by
  unfold read
  generalize text.toList = characters
  split
  · rfl
  · rfl
  · next small large => rw [split.eq_3 _ small large]

/-- A zero and an `x` are no decimal digits. -/
theorem read_decimal_of_mark {mark : Char} (isMark : mark = 'x' ∨ mark = 'X') (rest : List Char) :
    Numeral.read 10 wordMax ('0' :: mark :: rest) = .error .invalidDigit := by
  rcases isMark with rfl | rfl <;> rfl

/-- **What is read behind some beginning is read behind the first that fits**, unless it is that
some character is no digit. -/
theorem exists_form_iff {text : List Char} {answer : Except Numeral.Flaw Nat}
    (other : answer ≠ .error .invalidDigit) :
    (∃ form ∈ forms, ∃ rest, text = form.1 ++ rest ∧
        Numeral.read form.2 wordMax rest = answer) ↔
      Numeral.read (split text).1 wordMax (split text).2 = answer := by
  have unfolded : (∃ form ∈ forms, ∃ rest, text = form.1 ++ rest ∧
        Numeral.read form.2 wordMax rest = answer) ↔
      Numeral.read 10 wordMax text = answer ∨
        (∃ rest, text = '0' :: 'x' :: rest ∧ Numeral.read 16 wordMax rest = answer) ∨
          ∃ rest, text = '0' :: 'X' :: rest ∧ Numeral.read 16 wordMax rest = answer := by
    simp [forms]
  rw [unfolded]
  unfold split
  split
  · next rest => simp [read_decimal_of_mark (.inl rfl), other.symm]
  · next rest => simp [read_decimal_of_mark (.inr rfl), other.symm]
  · next small large =>
    refine or_iff_left ?_
    rintro (⟨rest, same, -⟩ | ⟨rest, same, -⟩)
    · exact small rest same
    · exact large rest same

/-! ### What is read -/

/-- A text that writes a number the way a mask is written. -/
def Writing (text : String) (number : Nat) : Prop :=
  ∃ form ∈ forms, ∃ rest, text.toList = form.1 ++ rest ∧ Spelled form.2 rest number

/-- Behind the beginning of a mask, and a sign or none, the text goes on with digits whose number
already takes more than 32 bits. -/
def Overflowing (text : String) : Prop :=
  ∃ form ∈ forms, ∃ rest, text.toList = form.1 ++ rest ∧ TooLarge form.2 wordMax rest

theorem radix_of_mem_forms : ∀ form ∈ forms, form.2 ≤ 16 ∧ 1 < form.2 := by
  decide

theorem radix_of_split (text : List Char) : (split text).1 ≤ 16 ∧ 1 < (split text).1 := by
  unfold split
  split <;> simp

/-- **A mask is read as its number**, and nothing else is. -/
theorem read_eq_ok_iff {text : String} {mask : UInt32} :
    read text = .ok mask ↔ Writing text mask.toNat := by
  have within : mask.toNat ≤ wordMax := Nat.le_of_lt_succ mask.toNat_lt
  have found : read text = .ok mask ↔
      Numeral.read (split text.toList).1 wordMax (split text.toList).2 = .ok mask.toNat := by
    rw [read_eq]
    cases number : Numeral.read (split text.toList).1 wordMax (split text.toList).2 with
    | error flaw => simp [Except.map]
    | ok value =>
      obtain ⟨small, several⟩ := radix_of_split text.toList
      have kept := ((Numeral.read_eq_ok_iff small (Nat.zero_lt_of_lt several)).1 number).2
      have word : (UInt32.ofNat value).toNat = value :=
        UInt32.toNat_ofNat_of_lt' (Nat.lt_succ_of_le kept)
      simp [Except.map, ← UInt32.toNat_inj, word]
  rw [found, ← exists_form_iff (by simp)]
  refine exists_congr fun form => and_congr_right fun member => exists_congr fun rest =>
    and_congr_right fun _ => ?_
  obtain ⟨small, several⟩ := radix_of_mem_forms form member
  rw [Numeral.read_eq_ok_iff small (Nat.zero_lt_of_lt several)]
  exact and_iff_left within

/-- A flaw other than that of a digit is the one behind some beginning. -/
theorem read_eq_error_iff {text : String} {flaw : Numeral.Flaw} (other : flaw ≠ .invalidDigit) :
    read text = .error flaw ↔ ∃ form ∈ forms, ∃ rest, text.toList = form.1 ++ rest ∧
      Numeral.read form.2 wordMax rest = .error flaw := by
  have answer : (.error flaw : Except Numeral.Flaw Nat) ≠ .error .invalidDigit := by simpa using other
  rw [exists_form_iff answer, read_eq]
  cases Numeral.read (split text.toList).1 wordMax (split text.toList).2 <;> simp [Except.map]

/-- A text is empty if nothing is behind its beginning. -/
theorem read_eq_empty_iff {text : String} :
    read text = .error .empty ↔ ∃ form ∈ forms, text.toList = form.1 := by
  rw [read_eq_error_iff (by simp)]
  simp only [Numeral.read_eq_empty_iff, exists_eq_right, List.append_nil]

/-- **A text is too large if the digits behind its beginning are**, whatever follows them. -/
theorem read_eq_tooLarge_iff {text : String} :
    read text = .error .tooLarge ↔ Overflowing text := by
  rw [read_eq_error_iff (by simp)]
  refine exists_congr fun form => and_congr_right fun member => exists_congr fun rest =>
    and_congr_right fun _ => ?_
  exact Numeral.read_eq_tooLarge_iff (radix_of_mem_forms form member).1

/-- Some character is no digit just where nothing else is wrong with a text that is no mask. -/
theorem read_eq_invalidDigit_iff {text : String} :
    read text = .error .invalidDigit ↔
      (¬ ∃ mask : UInt32, Writing text mask.toNat) ∧ (¬ ∃ form ∈ forms, text.toList = form.1) ∧
        ¬ Overflowing text := by
  rw [← read_eq_empty_iff, ← read_eq_tooLarge_iff]
  simp only [← read_eq_ok_iff]
  rcases read text with ⟨_ | _ | _⟩ | mask <;> simp

/-! ### The texts of a mask -/

/-- Digits of a mask are one of its texts behind a beginning of their radix, also behind zeros. -/
theorem read_digits {form : List Char × Nat} (member : form ∈ forms) {digits : List Char}
    {mask : UInt32} (writes : Writes form.2 digits mask.toNat) (written : digits ≠ []) (zeros : Nat) :
    read (String.ofList (form.1 ++ (List.replicate zeros '0' ++ digits))) = .ok mask := by
  obtain ⟨small, several⟩ := radix_of_mem_forms form member
  rw [read_eq_ok_iff]
  exact ⟨form, member, _, String.toList_ofList, [], .head _, _, rfl,
    List.append_ne_nil_of_right_ne_nil _ written,
    writes.zeros small (Nat.zero_lt_of_lt several) zeros⟩

/-- **Masks are read, and nothing else.** A text is read as a mask just if it is a decimal numeral of
its number, or a hexadecimal one behind `0x` or `0X`, each with or without a plus before the digits.
It is found empty just if nothing is behind its beginning, too large just if the digits in front,
behind beginning and sign, already pass 32 bits, and wrong in a digit in all other cases. Every mask
is read from its decimal and its hexadecimal digits, in either case and behind any zeros. -/
theorem masks_are_read :
    (∀ text : String,
      (∀ mask : UInt32, read text = .ok mask ↔ Writing text mask.toNat) ∧
        (read text = .error .empty ↔ ∃ form ∈ forms, text.toList = form.1) ∧
        (read text = .error .tooLarge ↔ Overflowing text) ∧
        (read text = .error .invalidDigit ↔
          (¬ ∃ mask : UInt32, Writing text mask.toNat) ∧
            (¬ ∃ form ∈ forms, text.toList = form.1) ∧ ¬ Overflowing text)) ∧
      ∀ (mask : UInt32) (zeros : Nat),
        read (String.ofList (List.replicate zeros '0' ++ Nat.toDigits 10 mask.toNat)) = .ok mask ∧
          ∀ mark ∈ ['x', 'X'], ∀ digits, digits.map Char.toLower = Nat.toDigits 16 mask.toNat →
            read (String.ofList ('0' :: mark :: (List.replicate zeros '0' ++ digits))) =
              .ok mask := by
  refine ⟨fun text => ⟨fun mask => read_eq_ok_iff, read_eq_empty_iff, read_eq_tooLarge_iff,
    read_eq_invalidDigit_iff⟩, fun mask zeros => ⟨?_, fun mark marks digits lowered => ?_⟩⟩
  · have writes : Writes 10 (Nat.toDigits 10 mask.toNat) mask.toNat :=
      Numeral.writes_toDigits (by decide) (by decide) _
    exact @read_digits ([], 10) (.head _) _ _ writes Nat.toDigits_ne_nil zeros
  · have writes : Writes 16 digits mask.toNat := by
      rw [← Numeral.writes_map_toLower_iff, lowered]
      exact Numeral.writes_toDigits (by decide) (by decide) _
    have written : digits ≠ [] := by
      rintro rfl
      exact Nat.toDigits_ne_nil lowered.symm
    have member : (['0', mark], 16) ∈ forms := by
      simpa [forms] using marks
    exact @read_digits (['0', mark], 16) member _ _ writes written zeros

/-- A mask in digits of both cases behind a large mark and zeros, and a text that is too large. -/
theorem masks_are_read_in_both_cases :
    'X' ∈ ['x', 'X'] ∧ "DeadBEEF".toList.map Char.toLower = Nat.toDigits 16 (0xdeadbeef : UInt32).toNat ∧
      read (String.ofList ('0' :: 'X' :: (List.replicate 2 '0' ++ "DeadBEEF".toList))) =
        .ok 0xdeadbeef ∧
      read "0x+1ffffffff-" = .error .tooLarge ∧ Overflowing "0x+1ffffffff-" := by
  have marks : 'X' ∈ ['x', 'X'] := by decide
  have lowered : "DeadBEEF".toList.map Char.toLower =
      Nat.toDigits 16 (0xdeadbeef : UInt32).toNat := by decide +kernel
  have tooLarge : read "0x+1ffffffff-" = .error .tooLarge := by cbv
  obtain ⟨answers, texts⟩ := masks_are_read
  exact ⟨marks, lowered, (texts 0xdeadbeef 2).2 'X' marks _ lowered, tooLarge,
    (answers "0x+1ffffffff-").2.2.1.1 tooLarge⟩

end Playout.ChannelMask
