import Mathlib.Tactic.TypeStar

/-!
# Edits that are committed or undone

A draft is a value that can be edited. What it shows during an edit is provisional: a commit
keeps it, and a restoration shows again what was kept before. Whatever the editor does, what
nobody edits is kept (`Transition.Draft.Move.sound`), only the commit of an edit changes what is
kept (`Transition.Draft.Move.kept`), and an edit ends with a commit
(`Transition.Draft.Move.ended`).
-/

namespace Transition

/-- A value that is shown, the one that is kept, and whether the former is being edited. -/
structure Draft (α : Type*) where
  shown : α
  kept : α
  editing : Bool

namespace Draft

variable {α : Type*}

/-- An edit is shown and not kept yet. -/
def edit (value : α) (draft : Draft α) : Draft α :=
  { draft with shown := value, editing := true }

/-- What is shown is kept. -/
def commit (draft : Draft α) : Draft α := { draft with kept := draft.shown, editing := false }

/-- What has been kept is shown again. -/
def restore (draft : Draft α) : Draft α := { draft with shown := draft.kept, editing := false }

/-- **The moves of an editor** who is limited to the allowed values. -/
inductive Move (allowed : α → Prop) (draft : Draft α) : Draft α → Prop
  | still : Move allowed draft draft
  | edit (value : α) (fits : allowed value) : Move allowed draft (draft.edit value)
  | commit (editing : draft.editing = true) : Move allowed draft draft.commit

/-- Only allowed values are shown and kept, and what nobody edits is kept. -/
structure Sound (allowed : α → Prop) (draft : Draft α) : Prop where
  shown : allowed draft.shown
  kept : allowed draft.kept
  settled : draft.editing = false → draft.shown = draft.kept

variable {allowed : α → Prop} {draft draft' : Draft α}

/-- **Every move keeps a draft sound.** -/
theorem Move.sound (move : Move allowed draft draft') (sound : draft.Sound allowed) :
    draft'.Sound allowed := by
  cases move with
  | still => exact sound
  | edit value fits => exact ⟨fits, sound.kept, nofun⟩
  | commit => exact ⟨sound.shown, sound.shown, fun _ => rfl⟩

/-- **Only the commit of an edit changes what is kept.** -/
theorem Move.kept (move : Move allowed draft draft') :
    draft'.kept = draft.kept ∨ draft.editing = true ∧ draft' = draft.commit := by
  cases move with
  | still => exact .inl rfl
  | edit => exact .inl rfl
  | commit editing => exact .inr ⟨editing, rfl⟩

/-- **An edit ends with a commit.** -/
theorem Move.ended (move : Move allowed draft draft') (editing : draft.editing = true)
    (idle : draft'.editing = false) : draft' = draft.commit := by
  cases move with
  | still =>
      rw [editing] at idle
      cases idle
  | edit => cases idle
  | commit => rfl

/-- What a restoration shows is kept. -/
theorem Sound.restore (sound : draft.Sound allowed) : draft.restore.Sound allowed :=
  ⟨sound.kept, sound.kept, fun _ => rfl⟩

end Draft

end Transition
