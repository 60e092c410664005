import BlobVault.Proofs.Json.RoundTrip
import BlobVault.Proofs.Text.Surrogate

/-! What is written without escaping beyond ASCII has an encoding exactly when all texts in the value
have one. -/
namespace BlobVault.Json

open Reader

mutual
def texts : Json → List Text
  | .scalar (.text t) => [t]
  | .scalar _ => []
  | .array items => itemTexts items
  | .object members => memberTexts members

def itemTexts : List Json → List Text
  | [] => []
  | item :: rest => item.texts ++ itemTexts rest

def memberTexts : Members → List Text
  | [] => []
  | (name, value) :: rest => name :: value.texts ++ memberTexts rest
end

theorem itemTexts_eq (items : List Json) : itemTexts items = items.flatMap texts := by
  induction items with
  | nil => rfl
  | cons item rest ih => rw [itemTexts, ih, List.flatMap_cons]

theorem memberTexts_eq (members : Members) :
    memberTexts members = members.flatMap fun member => member.1 :: member.2.texts := by
  induction members with
  | nil => rfl
  | cons member rest ih =>
    obtain ⟨name, value⟩ := member
    rw [memberTexts, ih, List.flatMap_cons]

theorem small_of_isSpace {c : CodePoint} (space : isSpace c = true) : c.val < 0xD800 := by
  simp only [isSpace, Bool.or_eq_true, beq_iff_eq] at space
  omega

theorem hasSurrogate_lineBreak (s : Style) (level : Nat) : (s.lineBreak level).hasSurrogate = false :=
  Text.hasSurrogate_of_small fun c member => small_of_isSpace (lineBreak_blank s level c member)

theorem hasSurrogate_separators {s : Style} (separates : s.Separates) :
    s.itemSeparator.hasSurrogate = false ∧ s.nameSeparator.hasSurrogate = false := by
  obtain ⟨⟨gap, comma, blank⟩, ⟨space, colon, clear⟩⟩ := separates
  rw [comma, colon]
  constructor
  · exact Text.hasSurrogate_of_small (List.forall_mem_cons.mpr
      ⟨by decide, fun c member => small_of_isSpace (blank c member)⟩)
  · exact Text.hasSurrogate_of_small (List.forall_mem_cons.mpr
      ⟨by decide, fun c member => small_of_isSpace (clear c member)⟩)

theorem hasSurrogate_unitEscape (n : Nat) : (unitEscape n).hasSurrogate = false := by
  rw [unitEscape, Text.hasSurrogate_append, Text.hasSurrogate_hexDigits]
  rfl

/-- Escaping without regard to ASCII leaves surrogates as they are and makes no new ones. -/
theorem hasSurrogate_escape (c : CodePoint) : (escape false c).hasSurrogate = c.isSurrogate := by
  have small {c : CodePoint} (small : c.val < 0xD800) : c.isSurrogate = false := by
    simp only [CodePoint.isSurrogate, Bool.and_eq_false_iff, decide_eq_false_iff_not]
    omega
  unfold escape
  split
  · rename_i quote
    rw [quote]
    rfl
  split
  · rename_i escape
    rw [escape]
    rfl
  iterate 5
    split
    · rw [small (by omega)]
      rfl
  split
  · rename_i coded
    have control : c.val < 0x20 := by simpa using coded
    rw [utf16Escape, if_pos (by omega), hasSurrogate_unitEscape, small (by omega)]
  · exact Bool.or_false _

theorem hasSurrogate_writeText (t : Text) : (writeText false t).hasSurrogate = t.hasSurrogate := by
  rw [writeText, Text.hasSurrogate_append, Text.hasSurrogate_append, Text.hasSurrogate_flatMap]
  simp only [hasSurrogate_escape]
  change (false || t.hasSurrogate || false) = t.hasSurrogate
  simp

theorem hasSurrogate_ofInt (i : Int) : (Text.ofInt i).hasSurrogate = false := by
  have digits (n : Nat) : ∀ c ∈ Text.ofNat n, c.val < 0xD800 := by
    intro c member
    have digit := Text.isAsciiDigit_of_mem_ofNat member
    simp only [CodePoint.isAsciiDigit, Bool.and_eq_true, decide_eq_true_eq] at digit
    omega
  apply Text.hasSurrogate_of_small
  cases i with
  | ofNat n => exact digits n
  | negSucc n => exact List.forall_mem_cons.mpr ⟨by decide, digits (n + 1)⟩

theorem hasSurrogate_following {s : Style} (separates : s.Separates) (level : Nat) (write : α → Text)
    (items : List α) :
    (following s level write items).hasSurrogate = items.any fun item => (write item).hasSurrogate := by
  rw [following, Text.hasSurrogate_flatMap]
  simp only [Text.hasSurrogate_append, hasSurrogate_separators separates, hasSurrogate_lineBreak,
    Bool.false_or]

theorem hasSurrogate_rowEnd {s : Style} (separates : s.Separates) (level outer : Nat) {close : CodePoint}
    (closes : Closes close) (write : α → Text) (items : List α) :
    (rowEnd s level outer close write items []).hasSurrogate =
      items.any fun item => (write item).hasSurrogate := by
  have plain : close.isSurrogate = false := by
    rcases closes with rfl | rfl <;> rfl
  simp only [rowEnd, Text.hasSurrogate_append, hasSurrogate_following separates, hasSurrogate_lineBreak,
    Text.hasSurrogate_cons, plain, Bool.false_or]
  exact Bool.or_false _

theorem hasSurrogate_writeScalar {x : Scalar} (readable : x.Readable false) :
    (writeScalar false x).hasSurrogate = (Json.scalar x).texts.any Text.hasSurrogate := by
  cases x with
  | null => rfl
  | truth b => cases b <;> rfl
  | integer i => exact hasSurrogate_ofInt i
  | real r => cases readable
  | text t =>
    rw [writeScalar, hasSurrogate_writeText]
    exact (Bool.or_false _).symm

theorem any_eq_any {items : List α} {p q : α → Bool} (same : ∀ x ∈ items, p x = q x) :
    items.any p = items.any q := by
  induction items with
  | nil => rfl
  | cons x items ih =>
    rw [List.any_cons, List.any_cons, same x List.mem_cons_self,
      ih fun y member => same y (List.mem_cons_of_mem x member)]

/-- What is written has a surrogate exactly when a name or a text in the value has one. -/
theorem hasSurrogate_writeAt {s : Style} (separates : s.Separates) (raw : s.ascii = false) {depth : Nat}
    {v : Json} (readable : Readable false depth v) (level : Nat) :
    (writeAt s level v).hasSurrogate = v.texts.any Text.hasSurrogate := by
  have nameSeparator := (hasSurrogate_separators separates).2
  induction readable generalizing level with
  | scalar readable =>
    rw [writeAt, raw]
    exact hasSurrogate_writeScalar readable
  | @array items depth each ih =>
    rw [texts, itemTexts_eq, List.any_flatMap, ← any_eq_any fun x member => ih x member (level + 1)]
    cases items with
    | nil => rfl
    | cons item items =>
      rw [← List.append_nil (writeAt s level _), writeAt_array]
      simp only [Text.hasSurrogate_cons, Text.hasSurrogate_append, hasSurrogate_lineBreak,
        hasSurrogate_rowEnd separates _ _ (.inl rfl), Bool.false_or, List.any_cons]
      rfl
  | @object members depth distinct names each ih =>
    have member (x : Text × Json) (inside : x ∈ members) :
        (writeMember s (level + 1) x).hasSurrogate = (x.1 :: x.2.texts).any Text.hasSurrogate := by
      simp only [writeMember, Text.hasSurrogate_append, raw, hasSurrogate_writeText, nameSeparator,
        ih x inside, List.any_cons, Bool.or_false]
    rw [texts, memberTexts_eq, List.any_flatMap, ← any_eq_any member]
    cases members with
    | nil => rfl
    | cons m members =>
      rw [← List.append_nil (writeAt s level _), writeAt_object]
      simp only [Text.hasSurrogate_cons, Text.hasSurrogate_append, hasSurrogate_lineBreak,
        hasSurrogate_rowEnd separates _ _ (.inr rfl), Bool.false_or, List.any_cons]
      rfl

end BlobVault.Json
