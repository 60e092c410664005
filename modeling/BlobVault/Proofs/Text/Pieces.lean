import BlobVault.Text.Basic

/-! Pieces between separators. Joining is undone by taking pieces, as long as no part holds the separator. -/
namespace BlobVault.Text

variable {separator : CodePoint}

/-- A piece of a longer text is one of the shorter text, is empty, or has the first code point, no separator,
in front of an earlier one. -/
theorem cases_of_mem_pieces {c : CodePoint} {t piece : Text} (member : piece ∈ pieces separator (c :: t)) :
    piece = [] ∨ piece ∈ pieces separator t ∨
      separator ≠ c ∧ ∃ rest, (rest = [] ∨ rest ∈ pieces separator t) ∧ piece = c :: rest := by
  unfold pieces at member
  split at member
  · rcases List.mem_cons.mp member with none | later
    · exact .inl none
    · exact .inr (.inl later)
  · rename_i other
    have apart : separator ≠ c := Ne.symm other
    split at member
    · exact .inr (.inr ⟨apart, [], .inl rfl, List.mem_singleton.mp member⟩)
    · rename_i first more split
      rcases List.mem_cons.mp member with grown | later
      · exact .inr (.inr ⟨apart, first, .inr (split ▸ List.mem_cons_self), grown⟩)
      · exact .inr (.inl (split ▸ List.mem_cons_of_mem first later))

theorem piece_subset {piece t : Text} (member : piece ∈ pieces separator t) : piece ⊆ t := by
  induction t generalizing piece with
  | nil =>
    rw [pieces, List.mem_singleton] at member
    rw [member]
    exact List.Subset.refl _
  | cons c t ih =>
    rcases cases_of_mem_pieces member with rfl | later | ⟨-, rest, rfl | inside, rfl⟩
    · exact List.nil_subset _
    · exact List.subset_cons_of_subset c (ih later)
    · exact List.cons_subset_cons c (List.nil_subset _)
    · exact List.cons_subset_cons c (ih inside)

theorem not_mem_piece {piece t : Text} (member : piece ∈ pieces separator t) : separator ∉ piece := by
  induction t generalizing piece with
  | nil =>
    rw [pieces, List.mem_singleton] at member
    rw [member]
    exact List.not_mem_nil
  | cons c t ih =>
    rcases cases_of_mem_pieces member with rfl | later | ⟨apart, rest, rfl | inside, rfl⟩
    · exact List.not_mem_nil
    · exact ih later
    · exact List.not_mem_cons_of_ne_of_not_mem apart List.not_mem_nil
    · exact List.not_mem_cons_of_ne_of_not_mem apart (ih inside)

/-- A code point that separates nothing is put in front of the first piece. -/
theorem pieces_cons_of_ne {c : CodePoint} (other : c ≠ separator) (t : Text) :
    ∃ first more, pieces separator t = first :: more ∧ pieces separator (c :: t) = (c :: first) :: more := by
  rw [pieces, if_neg other]
  match split : pieces separator t with
  | first :: more => exact ⟨first, more, rfl, rfl⟩
  | [] =>
    cases t with
    | nil => cases split
    | cons d t =>
      unfold pieces at split
      split at split
      · cases split
      · split at split <;> cases split

/-- No code point but the separators is lost. -/
theorem exists_piece_of_mem {c : CodePoint} {t : Text} (member : c ∈ t) (other : c ≠ separator) :
    ∃ piece ∈ pieces separator t, c ∈ piece := by
  induction t with
  | nil => contradiction
  | cons d t ih =>
    by_cases separates : d = separator
    · have inside : c ∈ t := (List.mem_cons.mp member).resolve_left fun same => other (same.trans separates)
      obtain ⟨piece, place, holds⟩ := ih inside
      rw [pieces, if_pos separates]
      exact ⟨piece, List.mem_cons_of_mem _ place, holds⟩
    · obtain ⟨first, more, split, grown⟩ := pieces_cons_of_ne separates t
      rw [grown]
      rcases List.mem_cons.mp member with rfl | inside
      · exact ⟨_, List.mem_cons_self, List.mem_cons_self⟩
      · obtain ⟨piece, place, holds⟩ := ih inside
        rw [split] at place
        rcases List.mem_cons.mp place with rfl | further
        · exact ⟨_, List.mem_cons_self, List.mem_cons_of_mem _ holds⟩
        · exact ⟨piece, List.mem_cons_of_mem _ further, holds⟩

theorem pieces_of_clear {t : Text} (clear : separator ∉ t) : pieces separator t = [t] := by
  induction t with
  | nil => rfl
  | cons c t ih =>
    rw [List.mem_cons, not_or] at clear
    obtain ⟨other, later⟩ := clear
    rw [pieces, if_neg (Ne.symm other), ih later]

theorem pieces_append {t : Text} (clear : separator ∉ t) (rest : Text) :
    pieces separator (t ++ separator :: rest) = t :: pieces separator rest := by
  induction t with
  | nil => rw [List.nil_append, pieces, if_pos rfl]
  | cons c t ih =>
    rw [List.mem_cons, not_or] at clear
    obtain ⟨other, later⟩ := clear
    rw [List.cons_append, pieces, if_neg (Ne.symm other), ih later]

/-- The pieces of joined parts are the parts. -/
theorem pieces_join {parts : List Text} (some : parts ≠ []) (clear : ∀ part ∈ parts, separator ∉ part) :
    pieces separator (join [separator] parts) = parts := by
  match parts with
  | [] => contradiction
  | [t] => exact pieces_of_clear (clear t List.mem_cons_self)
  | t :: next :: rest =>
    have later := pieces_join (List.cons_ne_nil next rest) fun part member =>
      clear part (List.mem_cons_of_mem t member)
    rw [join, List.append_assoc, List.singleton_append, pieces_append (clear t List.mem_cons_self), later]
    exact List.cons_ne_nil next rest

end BlobVault.Text
