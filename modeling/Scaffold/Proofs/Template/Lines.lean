import Scaffold.Proofs.Template.Chunk
import Scaffold.Proofs.Text.Lines

/-!
# Chunks that print lines

Chunks of a generated function often break the line in front of what they print, and leave the last
line open.  `PrintsLines` is what such chunks print, for all that may stand behind; it is kept by
putting them in a row.
-/

set_option autoImplicit false

namespace Scaffold.Template

open Text

/-- The chunks print lines, with the break of each in front of it. -/
def PrintsLines (chunks : List Chunk) (lines : List String) : Prop :=
  ∀ rest, Chunk.spell chunks ++ ("\n" ++ rest) = "\n" ++ (ended lines ++ rest)

variable {α : Type} {chunks : α → List Chunk} {lines : α → List String}

namespace PrintsLines

theorem append {first others : List Chunk} {lines rest : List String}
    (here : PrintsLines first lines)
    (behind : PrintsLines others rest) : PrintsLines (first ++ others) (lines ++ rest) := by
  intro text
  rw [Chunk.spell_append, String.append_assoc, behind, here, ended_append, String.append_assoc]

theorem flatMap (each : ∀ item, PrintsLines (chunks item) (lines item)) (items : List α) :
    PrintsLines (items.flatMap chunks) (items.flatMap lines) := by
  induction items with
  | nil =>
      intro rest
      rw [List.flatMap_nil, List.flatMap_nil, Chunk.spell, ended, String.empty_append,
        String.empty_append]
  | cons item others ih =>
      rw [List.flatMap_cons, List.flatMap_cons]
      exact (each item).append ih

end PrintsLines

theorem spell_flatMap_eq_ended (each : ∀ item, Chunk.spell (chunks item) = ended (lines item))
    (items : List α) : Chunk.spell (items.flatMap chunks) = ended (items.flatMap lines) := by
  induction items with
  | nil => rfl
  | cons item rest ih =>
      rw [List.flatMap_cons, List.flatMap_cons, Chunk.spell_append, ended_append, each, ih]

end Scaffold.Template
