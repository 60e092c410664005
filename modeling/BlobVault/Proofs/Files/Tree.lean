import BlobVault.Files.Tree

/-! Writing a file changes one place. The path that led to the place still leads there, and every other
place holds what it held. -/
namespace BlobVault.FileSystem

theorem lookup_cons (other : Place) (held : Place × Entry) (rest : List (Place × Entry)) :
    (held :: rest).lookup other = if other = held.1 then some held.2 else rest.lookup other := by
  obtain ⟨here, what⟩ := held
  by_cases same : other = here
  · simp [same]
  · simp [List.lookup_cons, beq_false_of_ne same, same]

theorem lookup_put (place other : Place) (entry : Entry) (entries : List (Place × Entry)) :
    (put place entry entries).lookup other =
      if other = place then some entry else entries.lookup other := by
  induction entries with
  | nil => simp [put, lookup_cons]
  | cons held rest ih =>
    rw [lookup_cons, put]
    split
    · rename_i same
      rw [lookup_cons, same]
      split <;> rfl
    · rename_i different
      rw [lookup_cons, ih]
      by_cases same : other = place
      · subst same
        simp [Ne.symm different]
      · simp [same]

theorem lookup?_write (fs : FileSystem) {place : Place} (inside : place ≠ []) (content : Bytes)
    (other : Place) :
    (fs.write place content).lookup? other =
      if other = place then some (.file content) else fs.lookup? other := by
  unfold lookup? write
  cases other with
  | nil => simp [inside.symm]
  | cons => simp [lookup_put]

/-- A path to a place that is no directory does not pass through that place, so it still leads there. -/
theorem walk_write {fs : FileSystem} {start place : Place} {names : List Bytes} (content : Bytes)
    (inside : place ≠ []) (noDirectory : fs.lookup? place ≠ some .directory)
    (leads : fs.walk start names = .ok place) :
    (fs.write place content).walk start names = .ok place := by
  induction names generalizing start with
  | nil => exact leads
  | cons name rest ih =>
    simp only [walk] at leads ⊢
    split at leads
    · rename_i parent
      rw [if_pos parent]
      exact ih leads
    · rename_i child
      rw [if_neg child]
      split at leads
      · contradiction
      · rename_i short
        rw [if_neg short]
        cases rest with
        | nil => exact leads
        | cons next more =>
          cases found : fs.lookup? (start ++ [name]) with
          | none => simp [found] at leads
          | some entry =>
            cases entry with
            | file => simp [found] at leads
            | directory =>
              have elsewhere : start ++ [name] ≠ place := by
                rintro rfl
                exact noDirectory found
              simp only [found] at leads
              simp only [lookup?_write fs inside, if_neg elsewhere, found]
              exact ih leads

/-- A place for writing holds a file or nothing, and the root is none. -/
theorem of_writablePlace {fs : FileSystem} {p : FilePath} {place : Place}
    (h : fs.writablePlace p = .ok place) :
    fs.place p = .ok place ∧ place ≠ [] ∧ fs.lookup? place ≠ some .directory := by
  unfold writablePlace at h
  split at h
  · contradiction
  · rename_i found
    split at h
    · contradiction
    · rename_i noDirectory
      cases h
      refine ⟨found, ?_, noDirectory⟩
      rintro rfl
      exact noDirectory rfl

/-- A file that is written through a path reads back through it. -/
theorem read?_write {fs : FileSystem} {p : FilePath} {place : Place} (content : Bytes)
    (h : fs.writablePlace p = .ok place) : (fs.write place content).read? p = some content := by
  obtain ⟨found, inside, noDirectory⟩ := of_writablePlace h
  have still : (fs.write place content).place p = .ok place := by
    unfold FileSystem.place at found ⊢
    split at found
    · contradiction
    · rename_i short
      rw [if_neg short]
      exact walk_write content inside noDirectory found
  simp only [read?, still, lookup?_write fs inside, if_true]

end BlobVault.FileSystem
