import BlobVault.Text.Blank
import Mathlib.Data.List.DropRight

/-! Blanks around a text. Stripping removes all of them and nothing else. -/
namespace BlobVault.Text

def AllBlank (t : Text) : Prop := ∀ c ∈ t, c.isBlank = true

def Solid (t : Text) : Prop := ∀ c ∈ t, c.isBlank = false

def Padded (core t : Text) : Prop :=
  ∃ before after, AllBlank before ∧ AllBlank after ∧ t = before ++ core ++ after

theorem Padded.self (t : Text) : Padded t t :=
  ⟨[], [], by simp [AllBlank], by simp [AllBlank], by simp⟩

theorem Solid.dropWhile {t : Text} (solid : Solid t) : t.dropWhile CodePoint.isBlank = t := by
  rw [List.dropWhile_eq_self_iff]
  intro long
  simp [solid _ (List.getElem_mem long)]

/-- Blanks around a text without blanks are all that stripping removes. -/
theorem strip_padded {core t : Text} (solid : Solid core) (padded : Padded core t) :
    t.strip = core := by
  obtain ⟨before, after, blankBefore, blankAfter, rfl⟩ := padded
  rw [strip, dropBlanks, dropEndWhile, List.append_assoc, List.dropWhile_append_of_pos blankBefore]
  cases core with
  | nil =>
    have dropped : after.dropWhile CodePoint.isBlank = [] := List.dropWhile_eq_nil_iff.mpr blankAfter
    rw [List.nil_append, dropped]
    rfl
  | cons c core =>
    have blankAfter : ∀ c ∈ after.reverse, c.isBlank = true :=
      fun c member => blankAfter c (List.mem_reverse.mp member)
    have solidReverse : Solid (c :: core).reverse := fun c member => solid c (List.mem_reverse.mp member)
    rw [List.cons_append, List.dropWhile_cons_of_neg (by simp [solid c List.mem_cons_self]),
      ← List.cons_append, List.reverse_append, List.dropWhile_append_of_pos blankAfter,
      solidReverse.dropWhile, List.reverse_reverse]

/-- Every text is its stripped form between blanks. -/
theorem padded_strip (t : Text) : Padded t.strip t := by
  refine ⟨t.takeWhile CodePoint.isBlank,
    ((dropBlanks t).reverse.takeWhile CodePoint.isBlank).reverse, ?_, ?_, ?_⟩
  · exact fun c member => List.mem_takeWhile_imp member
  · exact fun c member => List.mem_takeWhile_imp (List.mem_reverse.mp member)
  · rw [strip, dropEndWhile, List.append_assoc, ← List.reverse_append, List.takeWhile_append_dropWhile,
      List.reverse_reverse, dropBlanks, List.takeWhile_append_dropWhile]

/-- Stripping removes nothing but blanks. -/
theorem mem_strip_of_mem {c : CodePoint} {t : Text} (member : c ∈ t) (solid : c.isBlank = false) :
    c ∈ t.strip := by
  obtain ⟨before, after, blankBefore, blankAfter, split⟩ := padded_strip t
  rw [split, List.mem_append, List.mem_append] at member
  rcases member with (front | core) | back
  · exact absurd (blankBefore c front) (by simp [solid])
  · exact core
  · exact absurd (blankAfter c back) (by simp [solid])

/-- Stripping leaves no blank in front. -/
theorem dropBlanks_strip (t : Text) : dropBlanks t.strip = t.strip := by
  rw [dropBlanks, List.dropWhile_eq_self_iff]
  intro long
  have begins : t.strip <+: dropBlanks t := List.rdropWhile_prefix _ _
  rw [begins.getElem long]
  exact List.dropWhile_get_zero_not _ _ (begins.length_le.trans_lt' long)

/-- Stripping leaves no blank at the end. -/
theorem dropEndWhile_strip (t : Text) : dropEndWhile CodePoint.isBlank t.strip = t.strip :=
  List.rdropWhile_idempotent _ _

/-- Stripping leaves no blank at an end, so it is done once. -/
theorem strip_strip (t : Text) : t.strip.strip = t.strip := by
  rw [strip, dropBlanks_strip, dropEndWhile_strip]

/-- In front of a blank that stripping leaves there is more than blanks. -/
theorem not_allBlank_front {t front back : Text} {c : CodePoint} (split : t.strip = front ++ c :: back)
    (blank : c.isBlank = true) : ¬ AllBlank front := by
  intro blanks
  have kept := dropBlanks_strip t
  rw [split, dropBlanks, List.dropWhile_append_of_pos blanks, List.dropWhile_cons_of_pos blank] at kept
  have shorter := (List.dropWhile_sublist CodePoint.isBlank (l := back)).length_le
  rw [kept, List.length_append, List.length_cons] at shorter
  omega

/-- Behind a blank that stripping leaves there is more than blanks. -/
theorem not_allBlank_back {t front back : Text} {c : CodePoint} (split : t.strip = front ++ c :: back)
    (blank : c.isBlank = true) : ¬ AllBlank back := by
  intro blanks
  have kept := dropEndWhile_strip t
  have blanks : ∀ d ∈ back.reverse, d.isBlank = true := fun d member => blanks d (List.mem_reverse.mp member)
  rw [split, dropEndWhile, List.reverse_append, List.reverse_cons, List.append_assoc,
    List.dropWhile_append_of_pos blanks, List.singleton_append, List.dropWhile_cons_of_pos blank] at kept
  have shorter := (List.dropWhile_sublist CodePoint.isBlank (l := front.reverse)).length_le
  rw [← List.length_reverse, kept, List.length_append, List.length_cons, List.length_reverse] at shorter
  omega

/-- A code point of two texts one behind the other is in the first or in the second. -/
theorem place_of_append {first last front back : Text} {c : CodePoint}
    (split : first ++ last = front ++ c :: back) :
    (∃ more, first = front ++ c :: more) ∨ ∃ more, front = first ++ more ∧ last = more ++ c :: back := by
  rcases List.append_eq_append_iff.mp split with ⟨more, within, rest⟩ | ⟨more, within, rest⟩
  · exact .inr ⟨more, within, rest⟩
  · cases more with
    | nil => exact .inr ⟨[], by rw [within, List.append_nil, List.append_nil], rest.symm⟩
    | cons d more =>
      obtain ⟨rfl, -⟩ := List.cons.inj rest
      exact .inl ⟨more, within⟩

/-- A code point of a text between blanks is a blank in front, a blank behind, or in the core. -/
theorem Padded.place {core t front back : Text} {c : CodePoint} (padded : Padded core t)
    (split : t = front ++ c :: back) :
    (c.isBlank = true ∧ (AllBlank front ∨ AllBlank back)) ∨
      ∃ before first last, AllBlank before ∧ core = first ++ c :: last ∧ front = before ++ first := by
  obtain ⟨before, after, blankBefore, blankAfter, parts⟩ := padded
  rw [parts, List.append_assoc] at split
  rcases place_of_append split with ⟨more, rfl⟩ | ⟨more, rfl, rest⟩
  · refine .inl ⟨blankBefore c (by simp), .inl fun d member => ?_⟩
    exact blankBefore d (List.mem_append_left _ member)
  · rcases place_of_append rest with ⟨last, rfl⟩ | ⟨first, rfl, rfl⟩
    · exact .inr ⟨before, more, last, blankBefore, rfl, rfl⟩
    · refine .inl ⟨blankAfter c (by simp), .inr fun d member => ?_⟩
      exact blankAfter d (List.mem_append_right _ (List.mem_cons_of_mem _ member))

end BlobVault.Text
