/-
**Samples and their bytes.**

A sample is stored as the bytes of one word, the least significant first. Writing and reading such
a word are inverse to each other:

* `wordOfBytes_bytesOfWord`: a word that fits the width is read back;
* `bytesOfWord_wordOfBytes`: so are the bytes of a word of that many bytes.

A sample type names the word of each sample, one to one, so both facts carry over to samples
(`Sample.read_toBytes`, `Sample.toBytes_of_read`). A floating-point sample is kept as its bit
pattern, so a NaN keeps its payload.
-/
import Playout.Fault

namespace Playout

/-! ### Words as bytes -/

/-- The number of words of so many bytes. -/
def wordCount : Nat → Nat
  | 0 => 1
  | count + 1 => 256 * wordCount count

/-- The lowest bytes of a word, the least significant first. -/
def bytesOfWord : Nat → Nat → List UInt8
  | 0, _ => []
  | count + 1, word => UInt8.ofNat word :: bytesOfWord count (word / 256)

/-- The word that bytes stand for, the least significant first. -/
def wordOfBytes : List UInt8 → Nat
  | [] => 0
  | byte :: rest => byte.toNat + 256 * wordOfBytes rest

@[simp] theorem length_bytesOfWord (count word : Nat) :
    (bytesOfWord count word).length = count := by
  induction count generalizing word with
  | zero => rfl
  | succ count ih => simp [bytesOfWord, ih]

theorem wordOfBytes_bytesOfWord {count word : Nat} (fits : word < wordCount count) :
    wordOfBytes (bytesOfWord count word) = word := by
  induction count generalizing word with
  | zero => simp_all [bytesOfWord, wordOfBytes, wordCount]
  | succ count ih =>
    have smaller : word / 256 < wordCount count := Nat.div_lt_of_lt_mul fits
    simp only [bytesOfWord, wordOfBytes, ih smaller, UInt8.toNat_ofNat']
    omega

theorem bytesOfWord_wordOfBytes (bytes : List UInt8) :
    bytesOfWord bytes.length (wordOfBytes bytes) = bytes := by
  induction bytes with
  | nil => rfl
  | cons byte rest ih =>
    have small : byte.toNat < 256 := byte.toNat_lt
    have low : UInt8.ofNat (byte.toNat + 256 * wordOfBytes rest) = byte := by
      apply UInt8.toNat_inj.1
      simp only [UInt8.toNat_ofNat']
      omega
    have high : (byte.toNat + 256 * wordOfBytes rest) / 256 = wordOfBytes rest := by omega
    simp only [List.length_cons, bytesOfWord, wordOfBytes, low, high, ih]

theorem wordOfBytes_lt (bytes : List UInt8) : wordOfBytes bytes < wordCount bytes.length := by
  induction bytes with
  | nil => exact Nat.one_pos
  | cons byte rest ih =>
    have small : byte.toNat < 256 := byte.toNat_lt
    simp only [wordOfBytes, List.length_cons, wordCount]
    omega

/-! ### Sample types -/

/-- A sample type that a ring can hold. Samples and words of the type's size are one to one. -/
class Sample (σ : Type) where
  format : SampleFormat
  /-- The sample of level zero. -/
  silence : σ
  /-- The stored word of a sample. -/
  word : σ → Nat
  /-- The sample with a stored word. -/
  ofWord : Nat → σ
  word_lt : ∀ sample : σ, word sample < wordCount format.bytes
  ofWord_word : ∀ sample : σ, ofWord (word sample) = sample
  word_ofWord : ∀ {stored : Nat}, stored < wordCount format.bytes → word (ofWord stored) = stored

/-- A floating-point sample, kept as its bit pattern. -/
structure FloatSample where
  bits : UInt32
deriving DecidableEq, Repr

instance : Sample Int16 where
  format := .i16
  silence := 0
  word := fun sample => sample.toUInt16.toNat
  ofWord := fun word => (UInt16.ofNat word).toInt16
  word_lt sample := sample.toUInt16.toNat_lt
  ofWord_word sample := by simp
  word_ofWord fits := by
    simp only [SampleFormat.bytes, wordCount] at fits
    simp [Nat.mod_eq_of_lt fits]

instance : Sample FloatSample where
  format := .f32
  silence := ⟨0⟩
  word := fun sample => sample.bits.toNat
  ofWord := fun word => ⟨UInt32.ofNat word⟩
  word_lt sample := sample.bits.toNat_lt
  ofWord_word sample := by simp
  word_ofWord fits := by
    simp only [SampleFormat.bytes, wordCount] at fits
    simp [Nat.mod_eq_of_lt fits]

namespace Sample

variable {σ : Type} [Sample σ]

/-- The bytes of one sample. -/
def toBytes (sample : σ) : List UInt8 :=
  bytesOfWord (format σ).bytes (word sample)

/-- The sample at the front of some bytes. -/
def read (bytes : List UInt8) : Except Fault σ :=
  if bytes.length < (format σ).bytes then .error (.partialSample bytes.length)
  else .ok (ofWord (wordOfBytes (bytes.take (format σ).bytes)))

/-- The bytes of samples, one after the other. -/
def encode (samples : List σ) : ByteArray :=
  (samples.flatMap toBytes).toByteArray

@[simp] theorem length_toBytes (sample : σ) : (toBytes sample).length = (format σ).bytes :=
  length_bytesOfWord ..

/-- What is read from the bytes of a sample is the sample, whatever follows. -/
theorem read_toBytes (sample : σ) (rest : List UInt8) :
    read (toBytes sample ++ rest) = .ok sample := by
  have long : ¬ (toBytes sample ++ rest).length < (format σ).bytes := by simp
  have front : (toBytes sample ++ rest).take (format σ).bytes = toBytes sample :=
    List.take_left' (length_toBytes sample)
  simp only [read, long, if_false, front]
  rw [toBytes, wordOfBytes_bytesOfWord (word_lt sample), ofWord_word]

/-- The bytes of a sample that was read are those that it was read from. -/
theorem toBytes_of_read {bytes : List UInt8} {sample : σ} (found : read bytes = .ok sample) :
    toBytes sample = bytes.take (format σ).bytes := by
  unfold read at found
  split at found
  · simp at found
  · next long =>
    have size : (bytes.take (format σ).bytes).length = (format σ).bytes := by
      rw [List.length_take]
      omega
    have fits := wordOfBytes_lt (bytes.take (format σ).bytes)
    rw [size] at fits
    have same := bytesOfWord_wordOfBytes (bytes.take (format σ).bytes)
    rw [size] at same
    simp only [Except.ok.injEq] at found
    rw [← found, toBytes, word_ofWord fits, same]

end Sample

end Playout
