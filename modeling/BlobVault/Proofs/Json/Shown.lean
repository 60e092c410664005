import BlobVault.Proofs.Json.Encoding
import BlobVault.Proofs.Text.ControlSequence

/-! What is written as JSON holds no control but white space, and in ASCII nothing beyond it. So a stream
that removes control sequences shows it as it is. -/
namespace BlobVault.Json

open Reader

/-- A code point of written JSON: white space or no control, and in ASCII where that is asked for. -/
def Stands (ascii : Bool) (c : CodePoint) : Prop :=
  (isSpace c = true ∨ 0x20 ≤ c.val) ∧ (ascii = true → c.val ≤ 0x7E)

def Shown (ascii : Bool) (t : Text) : Prop := ∀ c ∈ t, Stands ascii c

variable {ascii : Bool}

theorem Shown.nil : Shown ascii [] := fun _ member => nomatch member

theorem shown_cons {c : CodePoint} {t : Text} : Shown ascii (c :: t) ↔ Stands ascii c ∧ Shown ascii t :=
  List.forall_mem_cons

theorem shown_append {s t : Text} : Shown ascii (s ++ t) ↔ Shown ascii s ∧ Shown ascii t :=
  List.forall_mem_append

theorem shown_flatMap {items : List α} {write : α → Text} :
    Shown ascii (items.flatMap write) ↔ ∀ item ∈ items, Shown ascii (write item) := by
  unfold Shown
  rw [List.forall_mem_flatMap]

theorem stands_of_isSpace {c : CodePoint} (space : isSpace c = true) : Stands ascii c := by
  refine ⟨.inl space, fun _ => ?_⟩
  simp only [isSpace, Bool.or_eq_true, beq_iff_eq] at space
  omega

theorem stands_of_visible {c : CodePoint} (least : 0x20 ≤ c.val) (most : c.val ≤ 0x7E) : Stands ascii c :=
  ⟨.inr least, fun _ => most⟩

theorem stands_hexDigit (n : Nat) : Stands ascii (.hexDigit (n % 16)) := by
  have small : n % 16 < 16 := Nat.mod_lt n (by decide)
  have value := CodePoint.val_hexDigit small
  apply stands_of_visible <;> split at value <;> omega

theorem shown_unitEscape (n : Nat) : Shown ascii (unitEscape n) := by
  have digits : unitEscape n =
      [('\\' : CodePoint), ('u' : CodePoint), .hexDigit (n / 16 / 16 / 16 % 16),
        .hexDigit (n / 16 / 16 % 16), .hexDigit (n / 16 % 16), .hexDigit (n % 16)] := rfl
  have mark : Stands ascii '\\' ∧ Stands ascii 'u' :=
    ⟨stands_of_visible (by decide) (by decide), stands_of_visible (by decide) (by decide)⟩
  rw [digits]
  simp only [shown_cons, stands_hexDigit, mark, true_and, Shown.nil]

theorem shown_utf16Escape (c : CodePoint) : Shown ascii (utf16Escape c) := by
  unfold utf16Escape
  split
  · exact shown_unitEscape _
  · exact shown_append.mpr ⟨shown_unitEscape _, shown_unitEscape _⟩

theorem shown_named {c d : CodePoint} (first : Stands ascii c) (second : Stands ascii d) :
    Shown ascii [c, d] :=
  shown_cons.mpr ⟨first, shown_cons.mpr ⟨second, .nil⟩⟩

/-- A code point that is not escaped is no control, and in ASCII where the rest is escaped. -/
theorem shown_escape (ascii : Bool) (c : CodePoint) : Shown ascii (escape ascii c) := by
  have mark : Stands ascii '\\' := stands_of_visible (by decide) (by decide)
  unfold escape
  iterate 7
    split
    · exact shown_named mark (stands_of_visible (by decide) (by decide))
  split
  · exact shown_utf16Escape c
  · rename_i bare
    rw [not_or, not_and] at bare
    obtain ⟨visible, within⟩ := bare
    refine shown_cons.mpr ⟨⟨.inr (Nat.not_lt.mp visible), ?_⟩, .nil⟩
    exact fun escaped => Nat.not_lt.mp (within escaped)

theorem shown_writeText (ascii : Bool) (t : Text) : Shown ascii (writeText ascii t) := by
  have quote : Stands ascii '"' := stands_of_visible (by decide) (by decide)
  rw [← List.append_nil (writeText ascii t), writeText_append]
  refine shown_cons.mpr ⟨quote, shown_append.mpr ⟨?_, shown_cons.mpr ⟨quote, .nil⟩⟩⟩
  exact shown_flatMap.mpr fun c _ => shown_escape ascii c

theorem shown_ofInt (i : Int) : Shown ascii (.ofInt i) := by
  have digits (n : Nat) : Shown ascii (.ofNat n) := by
    intro c member
    have digit := Text.isAsciiDigit_of_mem_ofNat member
    simp only [CodePoint.isAsciiDigit, Bool.and_eq_true, decide_eq_true_eq] at digit
    exact stands_of_visible (by omega) (by omega)
  cases i with
  | ofNat n => exact digits n
  | negSucc n => exact shown_cons.mpr ⟨stands_of_visible (by decide) (by decide), digits (n + 1)⟩

theorem shown_word {t : Text} (letters : t.all (fun c => 0x20 ≤ c.val && c.val ≤ 0x7E) = true) :
    Shown ascii t := by
  intro c member
  have visible := List.all_eq_true.mp letters c member
  simp only [Bool.and_eq_true, decide_eq_true_eq] at visible
  exact stands_of_visible visible.1 visible.2

theorem shown_writeScalar {x : Scalar} (readable : x.Readable ascii) :
    Shown ascii (writeScalar ascii x) := by
  cases x with
  | null => exact shown_word (t := "null") rfl
  | truth b =>
    cases b with
    | true => exact shown_word (t := "true") rfl
    | false => exact shown_word (t := "false") rfl
  | integer i => exact shown_ofInt i
  | real r => cases readable
  | text t => exact shown_writeText ascii t

theorem shown_lineBreak (s : Style) (level : Nat) : Shown ascii (s.lineBreak level) :=
  fun c member => stands_of_isSpace (lineBreak_blank s level c member)

section Layout

variable {s : Style} (separates : s.Separates)
include separates

theorem shown_separators : Shown ascii s.itemSeparator ∧ Shown ascii s.nameSeparator := by
  obtain ⟨⟨gap, comma, blank⟩, ⟨space, colon, clear⟩⟩ := separates
  rw [comma, colon]
  constructor
  · exact shown_cons.mpr ⟨stands_of_visible (by decide) (by decide), fun c member =>
      stands_of_isSpace (blank c member)⟩
  · exact shown_cons.mpr ⟨stands_of_visible (by decide) (by decide), fun c member =>
      stands_of_isSpace (clear c member)⟩

theorem shown_row {bracket close : CodePoint} (opens : Stands ascii bracket) (closes : Closes close)
    {level outer : Nat} {write : α → Text} {first : α} {others : List α}
    (each : ∀ item ∈ first :: others, Shown ascii (write item)) :
    Shown ascii (bracket :: (s.lineBreak level ++
      (write first ++ rowEnd s level outer close write others []))) := by
  have closing : Stands ascii close := by
    rcases closes with rfl | rfl <;> exact stands_of_visible (by decide) (by decide)
  obtain ⟨here, later⟩ := List.forall_mem_cons.mp each
  have rest : Shown ascii (following s level write others) := by
    refine shown_flatMap.mpr fun item member => ?_
    exact shown_append.mpr
      ⟨shown_append.mpr ⟨(shown_separators separates).1, shown_lineBreak s level⟩, later item member⟩
  simp only [shown_cons, shown_append, rowEnd, opens, shown_lineBreak, here, rest, closing, Shown.nil,
    true_and]

/-- What is written is shown as it is, in every style. -/
theorem shown_writeAt {depth : Nat} {v : Json} (readable : Readable s.ascii depth v) (level : Nat) :
    Shown s.ascii (writeAt s level v) := by
  have bracket {c : CodePoint} (known : c = '[' ∨ c = '{') : Stands s.ascii c := by
    rcases known with rfl | rfl <;> exact stands_of_visible (by decide) (by decide)
  induction readable generalizing level with
  | scalar readable => exact shown_writeScalar readable
  | @array items depth each ih =>
    cases items with
    | nil => exact shown_named (bracket (.inl rfl)) (stands_of_visible (by decide) (by decide))
    | cons item items =>
      rw [← List.append_nil (writeAt s level _), writeAt_array]
      exact shown_row separates (bracket (.inl rfl)) (.inl rfl) fun x member => ih x member (level + 1)
  | @object members depth distinct names each ih =>
    cases members with
    | nil => exact shown_named (bracket (.inr rfl)) (stands_of_visible (by decide) (by decide))
    | cons m members =>
      rw [← List.append_nil (writeAt s level _), writeAt_object]
      refine shown_row separates (bracket (.inr rfl)) (.inr rfl) fun x member => ?_
      exact shown_append.mpr
        ⟨shown_append.mpr ⟨shown_writeText s.ascii x.1, (shown_separators separates).2⟩,
          ih x member (level + 1)⟩

end Layout

theorem Shown.clear {t : Text} (shown : Shown ascii t) : ControlSequence.escape ∉ t := by
  intro member
  rcases (shown _ member).1 with space | visible
  · exact absurd space (by decide)
  · exact absurd visible (by decide)

theorem Shown.plain {t : Text} (shown : Shown true t) : t.hasSurrogate = false := by
  refine Text.hasSurrogate_of_small fun c member => ?_
  have within := (shown c member).2 rfl
  omega

end BlobVault.Json
