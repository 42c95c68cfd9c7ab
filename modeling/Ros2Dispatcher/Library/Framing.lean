import Mathlib.Tactic.Common

/-!
# Cutting a stream into frames

A `Framing` takes the next frame off the front of a buffer, or finds the buffer incomplete.
Its laws are fields: what is left is shorter, and more input behind a frame does not change it.
So the frames of a buffer can be cut one after the other (`frames`), and it does not matter how
much of the buffer is there at first: `frames_append`. A text that is cut the same way whatever
follows it (`Cuts`) can be put before others.
-/

namespace Ros2Dispatcher

structure Framing (α β : Type) where
  next : List α → Option (β × List α)
  length_lt : ∀ {buffer frame rest}, next buffer = some (frame, rest) →
    rest.length < buffer.length
  next_append : ∀ {buffer frame rest}, next buffer = some (frame, rest) →
    ∀ more, next (buffer ++ more) = some (frame, rest ++ more)

namespace Framing

variable {α β : Type} (f : Framing α β)

/-- The frames of a buffer, and the incomplete rest. -/
def frames (buffer : List α) : List β × List α :=
  match h : f.next buffer with
  | none => ([], buffer)
  | some (frame, rest) =>
    have := f.length_lt h
    (frame :: (frames rest).1, (frames rest).2)
termination_by buffer.length

variable {f} {buffer rest : List α} {frame : β}

theorem frames_of_none (h : f.next buffer = none) : f.frames buffer = ([], buffer) := by
  rw [frames]
  split
  next => rfl
  next heq => cases h.symm.trans heq

theorem frames_of_some (h : f.next buffer = some (frame, rest)) :
    f.frames buffer = (frame :: (f.frames rest).1, (f.frames rest).2) := by
  rw [frames]
  split
  next heq => cases h.symm.trans heq
  next heq =>
    cases h.symm.trans heq
    rfl

variable (f)

/-- **Induction along the frames of a buffer.** -/
theorem induction {P : List α → Prop} (hnone : ∀ buffer, f.next buffer = none → P buffer)
    (hsome : ∀ buffer frame rest, f.next buffer = some (frame, rest) → P rest → P buffer)
    (buffer : List α) : P buffer := by
  induction hn : buffer.length using Nat.strongRecOn generalizing buffer with
  | _ n ih =>
    cases hnext : f.next buffer with
    | none => exact hnone buffer hnext
    | some cut =>
      obtain ⟨frame, rest⟩ := cut
      exact hsome buffer frame rest hnext (ih rest.length (hn ▸ f.length_lt hnext) rest rfl)

/-- The frames of two parts are those of the first, and those of its rest with the second. -/
theorem frames_append (buffer more : List α) :
    f.frames (buffer ++ more) = ((f.frames buffer).1 ++ (f.frames ((f.frames buffer).2 ++ more)).1,
      (f.frames ((f.frames buffer).2 ++ more)).2) := by
  induction buffer using f.induction with
  | hnone buffer hnext => rw [frames_of_none hnext]; rfl
  | hsome buffer frame rest hnext ih =>
    rw [frames_of_some (f.next_append hnext more), frames_of_some hnext, ih]
    rfl

/-- No frame is complete in what the frames leave. -/
theorem next_frames_snd (buffer : List α) : f.next (f.frames buffer).2 = none := by
  induction buffer using f.induction with
  | hnone buffer hnext => rw [frames_of_none hnext, hnext]
  | hsome buffer frame rest hnext ih => rw [frames_of_some hnext, ih]

/-- The first frame is the next one. -/
theorem exists_next_of_frames {frames : List β} (h : (f.frames buffer).1 = frame :: frames) :
    ∃ rest, f.next buffer = some (frame, rest) := by
  cases hnext : f.next buffer with
  | none => rw [frames_of_none hnext] at h; cases h
  | some cut =>
    obtain ⟨first, rest⟩ := cut
    rw [frames_of_some hnext] at h
    exact ⟨rest, by rw [(List.cons.inj h).1]⟩

/-- The frames of a buffer stay the first ones when more is read. -/
theorem prefix_frames_append (buffer more : List α) :
    (f.frames buffer).1 <+: (f.frames (buffer ++ more)).1 := by
  rw [frames_append]
  exact List.prefix_append _ _

/-! ### Texts cut whatever follows -/

/-- The text is cut into these frames, whatever follows it. -/
def Cuts (text : List α) (frames : List β) : Prop :=
  ∀ more, f.frames (text ++ more) = (frames ++ (f.frames more).1, (f.frames more).2)

namespace Cuts

variable {f} {text text' : List α} {frames frames' : List β}

protected theorem nil : f.Cuts [] [] :=
  fun _ => rfl

protected theorem append (h : f.Cuts text frames) (h' : f.Cuts text' frames') :
    f.Cuts (text ++ text') (frames ++ frames') := by
  intro more
  rw [List.append_assoc, h, h', List.append_assoc]

/-- Texts that are cut one by one are cut one after the other. -/
protected theorem flatMap {ι : Type} {items : List ι} {texts : ι → List α}
    {cuts : ι → List β} (h : ∀ item ∈ items, f.Cuts (texts item) (cuts item)) :
    f.Cuts (items.flatMap texts) (items.flatMap cuts) := by
  induction items with
  | nil => exact .nil
  | cons item items ih =>
    obtain ⟨hitem, hitems⟩ := List.forall_mem_cons.mp h
    exact hitem.append (ih hitems)

/-- Texts with a separator between them. -/
protected theorem intercalate {ι : Type} {items : List ι} {texts : ι → List α}
    {cuts : ι → List β} (hsep : f.Cuts text frames)
    (h : ∀ item ∈ items, f.Cuts (texts item) (cuts item)) :
    f.Cuts (text.intercalate (items.map texts)) (frames.intercalate (items.map cuts)) := by
  induction items with
  | nil => exact .nil
  | cons item items ih =>
    obtain ⟨hitem, hitems⟩ := List.forall_mem_cons.mp h
    cases items with
    | nil =>
      rw [List.map_singleton, List.map_singleton, List.intercalate_singleton,
        List.intercalate_singleton]
      exact hitem
    | cons next items =>
      rw [List.map_cons, List.map_cons, List.map_cons, List.map_cons,
        List.intercalate_cons_cons, List.intercalate_cons_cons]
      exact (hitem.append hsep).append (ih hitems)

/-- One frame, whatever follows. -/
theorem of_next {frame : β} (h : ∀ more, f.next (text ++ more) = some (frame, more)) :
    f.Cuts text [frame] :=
  fun more => frames_of_some (h more)

/-- A text that is cut is cut as well if nothing follows. -/
theorem frames_eq (h : f.Cuts text frames) (hnil : f.next [] = none) :
    f.frames text = (frames, []) := by
  have htext := h []
  rwa [List.append_nil, frames_of_none hnil, List.append_nil] at htext

end Cuts

end Framing

end Ros2Dispatcher
