/-
**A tone that is filled in pieces.**

A fill goes through the course of a tone frame by frame, and hands on where it stopped. So fills one
after the other are one long fill, cut into pieces. What a buffer held before is gone after a fill.

* `Tone.fillInto_eq`: a buffer is filled with the next frames, whatever it held;
* `Tone.fill_succ`: a fill begins with one frame, and goes on with a fill;
* `Tone.fill_add`: two fills are one;
* `Tone.flatten_fills`, `Tone.map_length_fills`: any number of fills are one, and have one sample
  for every channel of every frame;
* `Tone.getElem?_fill`: each sample of a fill is that of its frame;
* `Tone.cuts_do_not_matter`: **all of this together**, for any operations on numbers.
-/
import Mathlib.Algebra.Ring.Nat
import Mathlib.Logic.Function.Iterate
import Playout.Tone

namespace Playout

theorem Sample.size_encode {σ : Type} [Sample σ] (samples : List σ) :
    (Sample.encode samples).size = samples.length * (Sample.format σ).bytes := by
  rw [Sample.encode, List.size_toByteArray, List.length_flatMap]
  simp only [Sample.length_toBytes, List.map_const', List.sum_replicate_nat]

namespace Tone

variable {σ : Type} [ToneSample σ] (arithmetic : Arithmetic)

/-- The samples of the next frame. -/
def frame (tone : Tone) : List σ :=
  List.replicate tone.channels (ToneSample.ofLevel (tone.level arithmetic))

/-- What frames are appended to does not matter for them. -/
theorem fillOnto_append (tone : Tone) (first second : Array σ) (frames : Nat) :
    fillOnto arithmetic tone (first ++ second) frames =
      ((fillOnto arithmetic tone second frames).1,
        first ++ (fillOnto arithmetic tone second frames).2) := by
  induction frames generalizing tone second with
  | zero => rfl
  | succ frames ih =>
    simp only [fillOnto]
    rw [Array.append_assoc, ih]

/-- What a buffer held does not matter for what it is filled with. -/
theorem fillInto_eq (tone : Tone) (buffer : Array σ) (frames : Nat) :
    tone.fillInto arithmetic buffer frames =
      ((tone.fill (σ := σ) arithmetic frames).1, (tone.fill arithmetic frames).2.toArray) := by
  have emptied : buffer.shrink 0 = #[] := Array.eq_empty_of_size_eq_zero (by simp)
  rw [fillInto, emptied]
  rfl

@[simp] theorem fill_zero (tone : Tone) : tone.fill (σ := σ) arithmetic 0 = (tone, []) := rfl

theorem fill_succ (tone : Tone) (frames : Nat) :
    tone.fill (σ := σ) arithmetic (frames + 1) =
      (((tone.advance arithmetic).fill (σ := σ) arithmetic frames).1,
        tone.frame arithmetic ++ ((tone.advance arithmetic).fill arithmetic frames).2) := by
  have appended := fillOnto_append (σ := σ) arithmetic (tone.advance arithmetic)
    (Array.replicate tone.channels (ToneSample.ofLevel (tone.level arithmetic))) #[] frames
  simp only [fill, fillOnto, Array.empty_append]
  rw [Array.append_empty] at appended
  rw [appended, Array.toList_append, Array.toList_replicate]
  rfl

/-- **Two fills are one**, cut in two. -/
theorem fill_add (tone : Tone) (first second : Nat) :
    tone.fill (σ := σ) arithmetic (first + second) =
      (((tone.fill (σ := σ) arithmetic first).1.fill (σ := σ) arithmetic second).1,
        (tone.fill arithmetic first).2 ++
          ((tone.fill (σ := σ) arithmetic first).1.fill arithmetic second).2) := by
  induction first generalizing tone with
  | zero => rw [Nat.zero_add, fill_zero, List.nil_append]
  | succ first ih =>
    rw [Nat.add_right_comm, fill_succ, ih, fill_succ, List.append_assoc]

theorem channels_fill (tone : Tone) (frames : Nat) :
    (tone.fill (σ := σ) arithmetic frames).1.channels = tone.channels := by
  induction frames generalizing tone with
  | zero => rfl
  | succ frames ih =>
    rw [fill_succ]
    exact ih (tone.advance arithmetic)

/-- A fill has one sample for every channel of every frame. -/
theorem length_fill (tone : Tone) (frames : Nat) :
    (tone.fill (σ := σ) arithmetic frames).2.length = frames * tone.channels := by
  induction frames generalizing tone with
  | zero => rw [Nat.zero_mul]; rfl
  | succ frames ih =>
    rw [fill_succ, List.length_append, ih, frame, List.length_replicate, Nat.add_comm,
      Nat.add_one_mul]
    rfl

/-- Fills one after the other, of so many frames each. -/
def fills (tone : Tone) : List Nat → List (List σ)
  | [] => []
  | size :: rest =>
    (tone.fill arithmetic size).2 ::
      fills (tone.fill (σ := σ) arithmetic size).1 rest

@[simp] theorem length_fills (tone : Tone) (sizes : List Nat) :
    (tone.fills (σ := σ) arithmetic sizes).length = sizes.length := by
  induction sizes generalizing tone with
  | nil => rfl
  | cons size rest ih => rw [fills, List.length_cons, ih, List.length_cons]

theorem map_length_fills (tone : Tone) (sizes : List Nat) :
    (tone.fills (σ := σ) arithmetic sizes).map List.length =
      sizes.map fun size => size * tone.channels := by
  induction sizes generalizing tone with
  | nil => rfl
  | cons size rest ih =>
    rw [fills, List.map_cons, List.map_cons, ih, length_fill, channels_fill]

/-- **Fills one after the other are one fill**, cut into pieces. -/
theorem flatten_fills (tone : Tone) (sizes : List Nat) :
    (tone.fills (σ := σ) arithmetic sizes).flatten = (tone.fill arithmetic sizes.sum).2 := by
  induction sizes generalizing tone with
  | nil => rfl
  | cons size rest ih => rw [fills, List.flatten_cons, ih, List.sum_cons, fill_add]

/-! ### Frames -/

/-- Each sample of a fill is that of its frame, on every channel. -/
theorem getElem?_fill {tone : Tone} {frames index channel : Nat} (inside : index < frames)
    (present : channel < tone.channels) :
    (tone.fill (σ := σ) arithmetic frames).2[index * tone.channels + channel]? =
      some (ToneSample.ofLevel (((advance arithmetic)^[index] tone).level arithmetic)) := by
  induction frames generalizing tone index with
  | zero => cases inside
  | succ frames ih =>
    have size : (tone.frame (σ := σ) arithmetic).length = tone.channels := List.length_replicate
    rw [fill_succ]
    cases index with
    | zero =>
      rw [Nat.zero_mul, Nat.zero_add, List.getElem?_append_left (size ▸ present)]
      exact (List.getElem?_replicate).trans (if_pos present)
    | succ index =>
      have behind : tone.channels ≤ (index + 1) * tone.channels + channel := by
        rw [Nat.add_one_mul]
        omega
      have place : (index + 1) * tone.channels + channel - tone.channels =
          index * tone.channels + channel := by
        rw [Nat.add_one_mul]
        omega
      rw [List.getElem?_append_right (size ▸ behind), size, place]
      exact @ih (tone.advance arithmetic) index (Nat.lt_of_succ_lt_succ inside) present

/-! ### Buffers -/

/-- Fills one after the other, of so many frames each, into buffers that may hold anything: the tone
behind the last one, and what each buffer then holds. -/
def fillsInto (tone : Tone) : List (Array σ × Nat) → Tone × List (Array σ)
  | [] => (tone, [])
  | (buffer, size) :: rest =>
    let (after, filled) := tone.fillInto arithmetic buffer size
    let (last, further) := after.fillsInto rest
    (last, filled :: further)

theorem fillsInto_fst (tone : Tone) (pieces : List (Array σ × Nat)) :
    (tone.fillsInto arithmetic pieces).1 =
      (tone.fill (σ := σ) arithmetic (pieces.map Prod.snd).sum).1 := by
  induction pieces generalizing tone with
  | nil => rfl
  | cons piece rest ih =>
    obtain ⟨buffer, size⟩ := piece
    rw [fillsInto, List.map_cons, List.sum_cons, fill_add, fillInto_eq]
    exact ih _

theorem toList_fillsInto_snd (tone : Tone) (pieces : List (Array σ × Nat)) :
    (tone.fillsInto arithmetic pieces).2.map Array.toList =
      tone.fills arithmetic (pieces.map Prod.snd) := by
  induction pieces generalizing tone with
  | nil => rfl
  | cons piece rest ih =>
    obtain ⟨buffer, size⟩ := piece
    simp only [fillsInto, List.map_cons, fills, fillInto_eq]
    exact congrArg (List.cons _) (ih _)

/-- **It does not matter how a tone is cut into blocks.** Whatever the operations on numbers are and
wherever the tone stands in its course, fills one after the other give, put together, what a single
fill of all their frames gives, and leave the tone where that one leaves it. A fill forgets what its
buffer held, and gives every channel of a frame the sample of that frame, and nothing else. -/
theorem cuts_do_not_matter (tone : Tone) :
    (∀ (pieces : List (Array σ × Nat)) (buffer : Array σ),
      (tone.fillsInto arithmetic pieces).1 =
          (tone.fillInto arithmetic buffer (pieces.map Prod.snd).sum).1 ∧
        ((tone.fillsInto arithmetic pieces).2.map Array.toList).flatten =
          (tone.fillInto arithmetic buffer (pieces.map Prod.snd).sum).2.toList ∧
        (tone.fillsInto arithmetic pieces).2.map Array.size =
          pieces.map fun piece => piece.2 * tone.channels) ∧
      ∀ (buffer : Array σ) (frames : Nat),
        tone.fillInto arithmetic buffer frames = tone.fillInto arithmetic #[] frames ∧
          (tone.fillInto arithmetic buffer frames).2.size = frames * tone.channels ∧
          ∀ index < frames, ∀ channel < tone.channels,
            (tone.fillInto arithmetic buffer frames).2[index * tone.channels + channel]? =
              some (ToneSample.ofLevel (((advance arithmetic)^[index] tone).level arithmetic)) := by
  constructor
  · intro pieces buffer
    have together := flatten_fills (σ := σ) arithmetic tone (pieces.map Prod.snd)
    have sizes := map_length_fills (σ := σ) arithmetic tone (pieces.map Prod.snd)
    rw [← toList_fillsInto_snd] at together sizes
    rw [List.map_map, List.map_map] at sizes
    rw [fillInto_eq]
    exact ⟨fillsInto_fst arithmetic tone pieces, together, sizes⟩
  · intro buffer frames
    have same : tone.fillInto arithmetic buffer frames = tone.fillInto arithmetic #[] frames := by
      rw [fillInto_eq, fillInto_eq]
    refine ⟨same, ?_⟩
    simp only [fillInto_eq, List.size_toArray, List.getElem?_toArray]
    exact ⟨length_fill arithmetic tone frames,
      fun index inside channel present => getElem?_fill arithmetic inside present⟩

/-- Three fills of a tone on two channels, the second of no frame, into buffers with other samples. -/
theorem cuts_do_not_matter_with_leftovers :
    let tone := Tone.start 440 48000 2 0.5
    let pieces : List (Array Int16 × Nat) := [(#[7], 2), (#[], 0), (#[1, 2, 3, 4, 5, 6, 7], 3)]
    let filled := (tone.fillInto (σ := Int16) .standard #[9] 5).2
    (tone.fillsInto .standard pieces).1 = (tone.fillInto (σ := Int16) .standard #[9] 5).1 ∧
      ((tone.fillsInto .standard pieces).2.map Array.toList).flatten = filled.toList ∧
      filled.size = 10 ∧ 3 < 5 ∧ 1 < tone.channels ∧ filled[7]? = filled[6]? := by
  intro tone pieces filled
  obtain ⟨last, together, -⟩ := (cuts_do_not_matter .standard tone).1 pieces #[9]
  obtain ⟨-, size, samples⟩ := (cuts_do_not_matter (σ := Int16) .standard tone).2 #[9] 5
  have second : filled[7]? = _ := samples 3 (by decide) 1 (by decide)
  have first : filled[6]? = _ := samples 3 (by decide) 0 (by decide)
  exact ⟨last, together, size, by decide, by decide, second.trans first.symm⟩

end Tone

end Playout
