import BlobVault.Audit.Tags
import BlobVault.Proofs.Text.Blank
import BlobVault.Proofs.Text.Order
import BlobVault.Proofs.Text.Pieces
import BlobVault.Proofs.Text.Surrogate
import BlobVault.Proofs.Text.Utf8
import Mathlib.Data.List.Sort

/-! Tags are a set. Normalized labels are strictly increasing, so two tag texts normalize alike exactly
when they have the same labels, and reading tags gives a canonical form of that set. -/
namespace BlobVault

theorem Text.strip_subset (t : Text) : t.strip ⊆ t := by
  obtain ⟨before, after, -, -, split⟩ := padded_strip t
  intro c member
  rw [split]
  simp [member]

theorem Text.encodingFault?_of_plain {t : Text} (plain : t.hasSurrogate = false) :
    t.encodingFault? = none := by
  have whole : t.takeWhile (!CodePoint.isSurrogate ·) = t := by
    rw [List.takeWhile_eq_self_iff]
    intro c member
    rw [hasSurrogate, List.any_eq_false] at plain
    simpa using plain c member
  simp only [encodingFault?, whole, List.drop_length, List.takeWhile_nil]

theorem Text.encodingFault?_of_surrogate {t : Text} (holds : t.hasSurrogate = true) :
    ∃ fault, t.encodingFault? = some fault := by
  have found : (t.find? CodePoint.isSurrogate).isSome = true := by
    rw [List.find?_isSome]
    exact List.any_eq_true.mp holds
  obtain ⟨c, first⟩ := Option.isSome_iff_exists.mp found
  obtain ⟨surrogate, before, rest, rfl, plain⟩ := List.find?_eq_some_iff_append.mp first
  have front : (before ++ c :: rest).takeWhile (!CodePoint.isSurrogate ·) = before := by
    rw [List.takeWhile_append_of_pos plain, List.takeWhile_cons_of_neg (by simp [surrogate]), List.append_nil]
  rw [encodingFault?, front, List.drop_left, List.takeWhile_cons_of_pos surrogate]
  exact ⟨_, rfl⟩

theorem CodePoint.solid_of_surrogate {c : CodePoint} (surrogate : c.isSurrogate = true) :
    c.isBlank = false := by
  simp only [isSurrogate, Bool.and_eq_true, decide_eq_true_eq] at surrogate
  simp only [isBlank, Bool.or_eq_false_iff, Bool.and_eq_false_iff, decide_eq_false_iff_not, beq_eq_false_iff_ne]
  omega

namespace Tags

/-- A label of a tag text: what is left of a piece between commas without the blanks around it, if
anything is. -/
def HasLabel (csv label : Text) : Prop :=
  label ≠ [] ∧ ∃ piece ∈ Text.pieces ',' csv, piece.strip = label

def Before (a b : Text) : Prop := a.utf8 < b.utf8

instance : Std.Irrefl Before := ⟨fun _ => List.lt_irrefl _⟩

instance : Std.Antisymm Before := ⟨fun _ _ less greater => absurd greater (List.lt_asymm less)⟩

theorem mem_labels_iff {csv label : Text} : label ∈ labels csv ↔ HasLabel csv label := by
  rw [labels, List.mem_filter, List.mem_map, and_comm, HasLabel]
  simp

theorem plain_of_mem_labels {csv label : Text} (plain : csv.hasSurrogate = false)
    (member : label ∈ labels csv) : label.hasSurrogate = false := by
  obtain ⟨-, piece, inside, rfl⟩ := mem_labels_iff.mp member
  exact Text.plain_of_subset (Text.strip_subset piece)
    (Text.plain_of_subset (Text.piece_subset inside) plain)

theorem mem_insert {label other : Text} {l : List Text} :
    other ∈ insert label l ↔ other = label ∨ other ∈ l := by
  induction l with
  | nil => simp [insert]
  | cons first rest ih =>
    unfold insert
    split
    · exact List.mem_cons
    · split
      · rename_i same
        simp [same]
      · simp only [List.mem_cons, ih, or_left_comm]

theorem mem_normalize {label : Text} {l : List Text} : label ∈ normalize l ↔ label ∈ l := by
  induction l with
  | nil => exact Iff.rfl
  | cons first rest ih =>
    rw [normalize, List.foldr_cons, mem_insert, List.mem_cons]
    exact or_congr_right ih

/-- Labels that have octets stay strictly increasing when one is put in its place. -/
theorem sorted_insert {label : Text} {l : List Text} (plain : label.hasSurrogate = false)
    (all : ∀ other ∈ l, other.hasSurrogate = false) (sorted : l.Pairwise Before) :
    (insert label l).Pairwise Before := by
  induction l with
  | nil => exact List.pairwise_singleton _ _
  | cons first rest ih =>
    obtain ⟨least, sortedRest⟩ := List.pairwise_cons.mp sorted
    unfold insert
    split
    · rename_i less
      refine List.pairwise_cons.mpr ⟨?_, sorted⟩
      intro other member
      rcases List.mem_cons.mp member with rfl | later
      · exact less
      · exact List.lt_trans less (least other later)
    · split
      · exact sorted
      · rename_i notLess different
        refine List.pairwise_cons.mpr
          ⟨?_, ih (fun other member => all other (List.mem_cons_of_mem first member)) sortedRest⟩
        intro other member
        rcases mem_insert.mp member with rfl | later
        · rcases List.le_iff_lt_or_eq.mp (List.not_lt.mp notLess) with less | same
          · exact less
          · exact absurd (Text.utf8_injective plain (all first List.mem_cons_self) same.symm) different
        · exact least other later

theorem sorted_normalize {l : List Text} (plain : ∀ label ∈ l, label.hasSurrogate = false) :
    (normalize l).Pairwise Before := by
  induction l with
  | nil => exact List.Pairwise.nil
  | cons label rest ih =>
    have plainRest : ∀ other ∈ rest, other.hasSurrogate = false :=
      fun other member => plain other (List.mem_cons_of_mem label member)
    exact sorted_insert (plain label List.mem_cons_self)
      (fun other member => plainRest other (mem_normalize.mp member)) (ih plainRest)

theorem parse_of_plain {csv : Text} (plain : csv.hasSurrogate = false) :
    parse csv = .ok (normalize (labels csv)) := by
  have faultless : (labels csv).findSome? Text.encodingFault? = none := by
    rw [List.findSome?_eq_none_iff]
    exact fun label member => Text.encodingFault?_of_plain (plain_of_mem_labels plain member)
  rw [parse, faultless]

/-- Tag texts normalize alike exactly when they have the same labels. -/
theorem normalize_labels_eq_iff {a b : Text} (plainA : a.hasSurrogate = false)
    (plainB : b.hasSurrogate = false) :
    normalize (labels a) = normalize (labels b) ↔ ∀ label, HasLabel a label ↔ HasLabel b label := by
  simp only [← mem_labels_iff]
  constructor
  · intro same label
    rw [← mem_normalize, same, mem_normalize]
  · intro same
    apply List.Pairwise.eq_of_mem_iff
      (sorted_normalize fun label member => plain_of_mem_labels plainA member)
      (sorted_normalize fun label member => plain_of_mem_labels plainB member)
    intro label
    rw [mem_normalize, mem_normalize, same]

/-- Labels in increasing order are their own normal form. -/
theorem normalize_of_sorted {l : List Text} (plain : ∀ label ∈ l, label.hasSurrogate = false)
    (sorted : l.Pairwise Before) : normalize l = l := by
  apply List.Pairwise.eq_of_mem_iff (sorted_normalize plain) sorted
  intro label
  exact mem_normalize

/-- A label has no blank at an end and no comma. -/
theorem HasLabel.bare {csv label : Text} (has : HasLabel csv label) :
    label.strip = label ∧ (',' : CodePoint) ∉ label := by
  obtain ⟨-, piece, inside, rfl⟩ := has
  constructor
  · exact Text.strip_strip piece
  · exact fun comma => Text.not_mem_piece inside (Text.strip_subset piece comma)

/-- Joined labels have themselves as their labels. -/
theorem labels_join {csv : Text} {tags : List Text} (own : ∀ tag ∈ tags, HasLabel csv tag) :
    labels (Text.join "," tags) = tags := by
  cases tags with
  | nil => rfl
  | cons tag rest =>
    have pieces : Text.pieces ',' (Text.join "," (tag :: rest)) = tag :: rest :=
      Text.pieces_join (List.cons_ne_nil tag rest) fun part member => (own part member).bare.2
    have stripped : (tag :: rest).map Text.strip = tag :: rest :=
      (List.map_congr_left fun part member => (own part member).bare.1).trans (List.map_id _)
    have whole : (tag :: rest).filter (fun label => !label.isEmpty) = tag :: rest := by
      rw [List.filter_eq_self]
      intro part member
      simpa using (own part member).1
    rw [labels, pieces, stripped, whole]

/-- Tags that were read are read again from their own text. -/
theorem parse_join {csv : Text} (plain : csv.hasSurrogate = false) :
    parse (Text.join "," (normalize (labels csv))) = .ok (normalize (labels csv)) := by
  have own : ∀ tag ∈ normalize (labels csv), HasLabel csv tag :=
    fun tag member => mem_labels_iff.mp (mem_normalize.mp member)
  have plainTags : ∀ tag ∈ normalize (labels csv), tag.hasSurrogate = false :=
    fun tag member => plain_of_mem_labels plain (mem_normalize.mp member)
  have sorted := sorted_normalize fun label member => plain_of_mem_labels plain member
  have joined : (Text.join "," (normalize (labels csv))).hasSurrogate = false :=
    Text.hasSurrogate_join rfl plainTags
  rw [parse_of_plain joined, labels_join own, normalize_of_sorted plainTags sorted]

/-- A surrogate in a tag text is in one of its labels: no comma and no blank is a surrogate. -/
theorem exists_label_of_surrogate {csv : Text} (holds : csv.hasSurrogate = true) :
    ∃ label ∈ labels csv, label.hasSurrogate = true := by
  obtain ⟨c, member, surrogate⟩ := List.any_eq_true.mp holds
  have other : c ≠ ',' := by
    rintro rfl
    contradiction
  obtain ⟨piece, inside, place⟩ := Text.exists_piece_of_mem member other
  have kept : c ∈ piece.strip := Text.mem_strip_of_mem place (CodePoint.solid_of_surrogate surrogate)
  exact ⟨piece.strip, mem_labels_iff.mpr ⟨List.ne_nil_of_mem kept, piece, inside, rfl⟩,
    List.any_eq_true.mpr ⟨c, kept, surrogate⟩⟩

/-- A tag text with a surrogate is refused for one of its labels. -/
theorem parse_of_surrogate {csv : Text} (holds : csv.hasSurrogate = true) :
    ∃ label fault, HasLabel csv label ∧ label.encodingFault? = some fault ∧
      parse csv = .error fault.failure := by
  match found : (labels csv).findSome? Text.encodingFault? with
  | some fault =>
    obtain ⟨label, member, faulty⟩ := List.exists_of_findSome?_eq_some found
    exact ⟨label, fault, mem_labels_iff.mp member, faulty, by rw [parse, found]⟩
  | none =>
    obtain ⟨label, member, surrogate⟩ := exists_label_of_surrogate holds
    obtain ⟨fault, faulty⟩ := Text.encodingFault?_of_surrogate surrogate
    rw [List.findSome?_eq_none_iff.mp found label member] at faulty
    cases faulty

/-- Tags list the labels of a text: each of them once, in the order of their octets, which is that of their
code points. In whatever order the set of labels is listed, sorting it by octets gives the tags. -/
structure Enumerates (csv : Text) (tags : List Text) : Prop where
  members : ∀ label, label ∈ tags ↔ HasLabel csv label
  once : tags.Nodup
  octets : tags.Pairwise Before
  codePoints : tags.Pairwise (· < ·)
  sorted : ∀ listed : List Text, listed.Nodup → (∀ label, label ∈ listed ↔ HasLabel csv label) →
    listed.mergeSort (fun a b => decide (a.utf8 ≤ b.utf8)) = tags

theorem enumerates_labels {csv : Text} (plain : csv.hasSurrogate = false) :
    Enumerates csv (normalize (labels csv)) := by
  have octets := sorted_normalize fun label member => plain_of_mem_labels plain member
  have members (label : Text) : label ∈ normalize (labels csv) ↔ HasLabel csv label :=
    mem_normalize.trans mem_labels_iff
  have once : (normalize (labels csv)).Nodup := by
    refine octets.imp ?_
    rintro label _ less rfl
    exact List.lt_irrefl _ less
  constructor
  case members => exact members
  case once => exact once
  case octets => exact octets
  case codePoints => exact octets.imp Text.utf8_lt_iff.mp
  case sorted =>
    intro listed distinct own
    have ordered : (listed.mergeSort fun a b => decide (a.utf8 ≤ b.utf8)).Pairwise
        fun a b => a.utf8 ≤ b.utf8 := by
      refine (List.pairwise_mergeSort ?_ ?_ listed).imp of_decide_eq_true
      · simpa using fun a b c => List.le_trans
      · simpa using fun a b => List.le_total _ _
    have same : (listed.mergeSort fun a b => decide (a.utf8 ≤ b.utf8)).Perm (normalize (labels csv)) := by
      refine (List.mergeSort_perm listed _).trans ?_
      exact (List.perm_ext_iff_of_nodup distinct once).mpr fun label => (own label).trans (members label).symm
    refine List.Perm.eq_of_pairwise ?_ ordered (octets.imp fun less => List.le_of_lt less) same
    -- Labels with the same octets are the same, so sorting leaves no choice.
    intro a b inside place first second
    have plainA := plain_of_mem_labels plain (mem_normalize.mp (same.mem_iff.mp inside))
    have plainB := plain_of_mem_labels plain (mem_normalize.mp place)
    exact Text.utf8_injective plainA plainB (List.le_antisymm first second)

/-- Reading tags gives a canonical form of a set. A text without surrogates is read as its labels, each once and
in the one order of their octets and code points; two such texts are read alike exactly when they have the
same labels, and joined tags are read as themselves. A text is refused, for a label that has no encoding,
exactly when it holds a surrogate. -/
theorem parse_canonical :
    (∀ csv : Text, csv.hasSurrogate = false →
      ∃ tags, parse csv = .ok tags ∧ Enumerates csv tags ∧ parse (Text.join "," tags) = .ok tags) ∧
    (∀ a b : Text, a.hasSurrogate = false → b.hasSurrogate = false →
      (parse a = parse b ↔ ∀ label, HasLabel a label ↔ HasLabel b label)) ∧
    ∀ csv : Text, csv.hasSurrogate = true ↔ ∃ label fault, HasLabel csv label ∧
      label.encodingFault? = some fault ∧ parse csv = .error (.crash .encoding [fault.message]) := by
  refine ⟨fun csv plain => ?_, fun a b plainA plainB => ?_, fun csv => ⟨parse_of_surrogate, ?_⟩⟩
  · exact ⟨_, parse_of_plain plain, enumerates_labels plain, parse_join plain⟩
  · rw [parse_of_plain plainA, parse_of_plain plainB, Except.ok.injEq]
    exact normalize_labels_eq_iff plainA plainB
  · rintro ⟨_, _, -, -, refused⟩
    by_contra plain
    rw [parse_of_plain (Bool.eq_false_of_not_eq_true plain)] at refused
    cases refused

/-- Labels beyond the code points of two octets, whose order UTF-16 would turn around, and a lone surrogate. -/
theorem parse_canonical_astral :
    let csv : Text := "　😀 ,�,, é,a ,😀"
    (∃ tags, parse csv = .ok tags ∧ tags = ([("a" : Text), "é", "�", "😀"] : List Text) ∧
      Enumerates csv tags ∧ parse (Text.join "," tags) = .ok tags) ∧
    parse csv = parse "😀,a,é,�" ∧
    ∃ fault : EncodingFault, parse [0x61, 0x2C, 0xD800] = .error (.crash .encoding [fault.message]) := by
  intro csv
  have plain : csv.hasSurrogate = false := by decide
  obtain ⟨reads, alike, refuses⟩ := parse_canonical
  obtain ⟨tags, parsed, enumerates, again⟩ := reads csv plain
  have listed : labels csv = ([("😀" : Text), "\ufffd", "é", "a", "😀"] : List Text) := by decide +kernel
  have other : labels "😀,a,é,\ufffd" = ([("😀" : Text), "a", "é", "\ufffd"] : List Text) := by decide +kernel
  refine ⟨⟨tags, parsed, ?_, enumerates, again⟩, ?_, ?_⟩
  · have ordered : normalize (labels csv) = ([("a" : Text), "é", "\ufffd", "😀"] : List Text) := by
      decide +kernel
    exact Except.ok.inj (parsed.symm.trans ((parse_of_plain plain).trans (congrArg _ ordered)))
  · refine (alike csv _ plain (by decide)).mpr fun label => ?_
    rw [← mem_labels_iff, ← mem_labels_iff, listed, other]
    simp only [List.mem_cons, List.not_mem_nil, or_false]
    tauto
  · obtain ⟨_, fault, -, -, refused⟩ := (refuses [0x61, 0x2C, 0xD800]).mp (by decide)
    exact ⟨fault, refused⟩

end Tags
end BlobVault
