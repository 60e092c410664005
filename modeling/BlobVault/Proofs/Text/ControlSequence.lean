import BlobVault.Text.ControlSequence

/-! What a stream shows as it is: a text without an escape holds no control sequence, and one without
surrogates has nothing to spell out. -/
namespace BlobVault.ControlSequence

theorem remove_of_clear {t : Text} (clear : escape ∉ t) : remove t = t := by
  unfold remove
  induction t with
  | nil => rfl
  | cons c rest ih =>
    rw [List.mem_cons, not_or] at clear
    obtain ⟨first, later⟩ := clear
    rw [removeFrom, if_neg (Ne.symm first), ih later]

theorem spellSurrogates_of_plain {t : Text} (plain : t.hasSurrogate = false) :
    spellSurrogates t = t := by
  unfold spellSurrogates
  induction t with
  | nil => rfl
  | cons c rest ih =>
    obtain ⟨first, later⟩ := Bool.or_eq_false_iff.mp plain
    rw [List.flatMap_cons, ih later, first]
    rfl

end BlobVault.ControlSequence
