import BlobVault.Json.Display
import BlobVault.Proofs.Json.Encoding
import BlobVault.Proofs.Json.Shown
import BlobVault.Proofs.Text.Quoted

/-! A value in running text: only a text that is shown as it is can hold a surrogate, and only a void value
is shown as nothing. The notation of a value without parts holds no control, so a stream shows it as it
is. -/
namespace BlobVault

namespace Text

theorem hasSurrogate_ofNat (n : Nat) : (ofNat n).hasSurrogate = false := Json.hasSurrogate_ofInt (.ofNat n)

theorem hasSurrogate_replicate {c : CodePoint} (plain : c.isSurrogate = false) (n : Nat) :
    hasSurrogate (List.replicate n c) = false := by
  rw [hasSurrogate, List.any_eq_false]
  intro d member
  rw [List.eq_of_mem_replicate member, plain]
  decide

theorem dropEndWhile_subset (p : CodePoint → Bool) (t : Text) : dropEndWhile p t ⊆ t := by
  intro c member
  rw [dropEndWhile, List.mem_reverse] at member
  exact List.mem_reverse.mp ((List.dropWhile_suffix p).subset member)

end Text

namespace Binary64

theorem hasSurrogate_exponentText (e : Int) : (exponentText e).hasSurrogate = false := by
  have digits := Text.hasSurrogate_ofNat e.natAbs
  have padded : Text.hasSurrogate (('0' : CodePoint) :: Text.ofNat e.natAbs) = false := by
    rw [Text.hasSurrogate_cons, digits]
    rfl
  unfold exponentText
  rw [Text.hasSurrogate_cons]
  split <;> split <;> simp only [digits, padded] <;> rfl

theorem hasSurrogate_layOut {digits : Text} (plain : digits.hasSurrogate = false) (point : Int) :
    (layOut digits point).hasSurrogate = false := by
  have front (n : Nat) : Text.hasSurrogate (digits.take n) = false :=
    Text.plain_of_subset (List.take_subset n digits) plain
  have back (n : Nat) : Text.hasSurrogate (digits.drop n) = false :=
    Text.plain_of_subset (List.drop_subset n digits) plain
  have zeros (n : Nat) : Text.hasSurrogate (List.replicate n ('0' : CodePoint)) = false :=
    Text.hasSurrogate_replicate rfl n
  have marks : Text.hasSurrogate "0." = false ∧ Text.hasSurrogate "." = false ∧
      Text.hasSurrogate "0" = false ∧ Text.hasSurrogate "e" = false := ⟨rfl, rfl, rfl, rfl⟩
  unfold layOut
  dsimp only
  split
  · split
    · simp only [Text.hasSurrogate_append, marks, zeros, plain, Bool.or_false]
    · split <;> simp only [Text.hasSurrogate_append, marks, front, back, zeros, Bool.or_false]
  · split
    · simp only [Text.hasSurrogate_append, front, marks, hasSurrogate_exponentText, Bool.or_false]
      rfl
    · simp only [Text.hasSurrogate_append, front, back, marks, hasSurrogate_exponentText, Bool.or_false]

theorem hasSurrogate_text {names : SpecialNames} (nan : names.nan.hasSurrogate = false)
    (infinity : names.infinity.hasSurrogate = false) (x : Binary64) :
    (x.text names).hasSurrogate = false := by
  have sign (negative : Bool) : (Text.ofString (if negative then "-" else "")).hasSurrogate = false := by
    cases negative <;> rfl
  cases x with
  | nan => exact nan
  | infinite negative => rw [text, Text.hasSurrogate_append, sign, infinity]; rfl
  | finite negative magnitude =>
    rw [text, Text.hasSurrogate_append, sign, Bool.false_or, magnitudeText]
    split
    · rfl
    · exact hasSurrogate_layOut
        (Text.plain_of_subset (Text.dropEndWhile_subset _ _) (Text.hasSurrogate_ofNat _)) _

end Binary64

namespace Binary64

theorem layOut_ne_nil (digits : Text) (point : Int) : layOut digits point ≠ [] := by
  unfold layOut
  split
  · split <;> simp [Text.ofString]
  · simp [Text.ofString]

theorem text_ne_nil {names : SpecialNames} (nan : names.nan ≠ []) (infinity : names.infinity ≠ [])
    (x : Binary64) : x.text names ≠ [] := by
  cases x with
  | nan => exact nan
  | infinite negative => exact List.append_ne_nil_of_right_ne_nil _ infinity
  | finite negative magnitude =>
    refine List.append_ne_nil_of_right_ne_nil _ ?_
    unfold magnitudeText
    split
    · exact List.cons_ne_nil _ _
    · exact layOut_ne_nil _ _

end Binary64

theorem Scalar.notate_ne_nil (x : Scalar) : x.notate ≠ [] := by
  cases x with
  | null => exact List.cons_ne_nil _ _
  | truth b => cases b <;> exact List.cons_ne_nil _ _
  | integer i =>
    cases i with
    | ofNat n => exact Text.ofNat_ne_nil n
    | negSucc n => exact List.cons_ne_nil _ _
  | real r => exact r.text_ne_nil (List.cons_ne_nil _ _) (List.cons_ne_nil _ _)
  | text t => exact List.cons_ne_nil _ _

theorem Scalar.hasSurrogate_notate (x : Scalar) : x.notate.hasSurrogate = false := by
  cases x with
  | null => rfl
  | truth b => cases b <;> rfl
  | integer i => exact Json.hasSurrogate_ofInt i
  | real r => exact Binary64.hasSurrogate_text rfl rfl r
  | text t => exact Text.hasSurrogate_quoted t

namespace Json

mutual
theorem hasSurrogate_notate : (v : Json) → v.notate.hasSurrogate = false
  | .scalar value => value.hasSurrogate_notate
  | .array items => by
    rw [notate, Text.hasSurrogate_append, Text.hasSurrogate_append, hasSurrogate_notateItems items]
    rfl
  | .object members => by
    rw [notate, Text.hasSurrogate_append, Text.hasSurrogate_append, hasSurrogate_notateMembers members]
    rfl

theorem hasSurrogate_notateItems : (items : List Json) → (notateItems items).hasSurrogate = false
  | [] => rfl
  | [item] => hasSurrogate_notate item
  | item :: next :: rest => by
    simp only [notateItems, Text.hasSurrogate_append, hasSurrogate_notate item,
      hasSurrogate_notateItems (next :: rest)]
    rfl

theorem hasSurrogate_notateMembers : (members : Members) → (notateMembers members).hasSurrogate = false
  | [] => rfl
  | [(name, value)] => by
    rw [notateMembers, Text.hasSurrogate_append, Text.hasSurrogate_append, Text.hasSurrogate_quoted,
      hasSurrogate_notate value]
    rfl
  | (name, value) :: next :: rest => by
    simp only [notateMembers, Text.hasSurrogate_append, Text.hasSurrogate_quoted,
      hasSurrogate_notate value, hasSurrogate_notateMembers (next :: rest)]
    rfl
end

/-- A value that is shown with a surrogate is a text. -/
theorem display_cases (v : Json) : v.display ∈ v.texts ∨ v.display.hasSurrogate = false := by
  unfold display
  split
  · exact .inl (List.mem_singleton.mpr rfl)
  · exact .inr (hasSurrogate_notate _)

/-- Whatever stands for something is shown. -/
theorem display_ne_nil {v : Json} (solid : v.isVoid = false) : v.display ≠ [] := by
  unfold display
  split
  · rename_i t
    rintro rfl
    cases solid
  · rename_i shown
    cases v with
    | scalar x => exact x.notate_ne_nil
    | array | object => simp [notate, Text.ofString]

end Json

section Shown

open Json (Shown Stands shown_cons shown_append shown_flatMap shown_named shown_word shown_ofInt
  stands_of_visible stands_hexDigit)

theorem CodePoint.least_of_isPrintable {c : CodePoint} (printable : c.isPrintable = true) :
    0x20 ≤ c.val := by
  unfold isPrintable at printable
  split at printable
  · exact of_decide_eq_true printable
  · omega

namespace Text

theorem shown_hexDigits (width n : Nat) : Shown false (hexDigits width n) := by
  induction width generalizing n with
  | zero => exact .nil
  | succ width ih => exact shown_append.mpr ⟨ih _, shown_cons.mpr ⟨stands_hexDigit n, .nil⟩⟩

theorem shown_quotedEscape {quote : CodePoint} (mark : Stands false quote) (c : CodePoint) :
    Shown false (Quoted.escape quote c) := by
  have backslash : Stands false '\\' := stands_of_visible (by decide) (by decide)
  have spelled {lead : Text} (visible : Shown false lead) (width : Nat) :
      Shown false (lead ++ hexDigits width c.val) :=
    shown_append.mpr ⟨visible, shown_hexDigits width c.val⟩
  unfold Quoted.escape
  split
  · rename_i known
    rw [Bool.or_eq_true, decide_eq_true_eq, decide_eq_true_eq] at known
    have self : Stands false c := by
      rcases known with rfl | rfl
      · exact mark
      · exact backslash
    exact shown_named backslash self
  iterate 3
    split
    · exact shown_word rfl
  split
  · rename_i printable
    have least := CodePoint.least_of_isPrintable printable
    exact shown_cons.mpr ⟨⟨.inr least, fun escaped => nomatch escaped⟩, .nil⟩
  split
  · exact spelled (shown_word rfl) 2
  split
  · exact spelled (shown_word rfl) 4
  · exact spelled (shown_word rfl) 8

theorem shown_quoted (t : Text) : Shown false t.quoted := by
  have mark : Stands false (Quoted.mark t) := by
    rcases mark_eq t with double | single
    · rw [double]
      exact stands_of_visible (by decide) (by decide)
    · rw [single]
      exact stands_of_visible (by decide) (by decide)
  have inner : Shown false (t.flatMap (Quoted.escape (Quoted.mark t))) :=
    shown_flatMap.mpr fun c _ => shown_quotedEscape mark c
  exact shown_cons.mpr ⟨mark, shown_append.mpr ⟨inner, shown_cons.mpr ⟨mark, .nil⟩⟩⟩

end Text

namespace Binary64

theorem shown_exponentText (e : Int) : Shown false (exponentText e) := by
  have digits : Shown false (Text.ofNat e.natAbs) := shown_ofInt (.ofNat e.natAbs)
  have sign : Stands false (if e < 0 then ('-' : CodePoint) else '+') := by
    split <;> exact stands_of_visible (by decide) (by decide)
  refine shown_cons.mpr ⟨sign, ?_⟩
  split
  · exact shown_cons.mpr ⟨stands_of_visible (by decide) (by decide), digits⟩
  · exact digits

theorem shown_layOut {digits : Text} (shown : Shown false digits) (point : Int) :
    Shown false (layOut digits point) := by
  have front (n : Nat) : Shown false (digits.take n) :=
    fun c member => shown c (List.take_subset n digits member)
  have back (n : Nat) : Shown false (digits.drop n) :=
    fun c member => shown c (List.drop_subset n digits member)
  have zeros (n : Nat) : Shown false (List.replicate n ('0' : CodePoint)) := by
    intro c member
    rw [List.eq_of_mem_replicate member]
    exact stands_of_visible (by decide) (by decide)
  have dot : Shown false "." := shown_word rfl
  have power : Shown false "e" := shown_word rfl
  unfold layOut
  split
  · split
    · exact shown_append.mpr ⟨shown_append.mpr ⟨shown_word rfl, zeros _⟩, shown⟩
    · refine shown_append.mpr ⟨shown_append.mpr ⟨shown_append.mpr ⟨front _, zeros _⟩, dot⟩, ?_⟩
      split
      · exact shown_word rfl
      · exact back _
  · refine shown_append.mpr
      ⟨shown_append.mpr ⟨shown_append.mpr ⟨front 1, ?_⟩, power⟩, shown_exponentText _⟩
    split
    · exact .nil
    · exact shown_append.mpr ⟨dot, back 1⟩

theorem shown_text {names : SpecialNames} (nan : Shown false names.nan)
    (infinity : Shown false names.infinity) (x : Binary64) : Shown false (x.text names) := by
  have sign (negative : Bool) : Shown false (Text.ofString (if negative then "-" else "")) := by
    cases negative <;> exact shown_word rfl
  cases x with
  | nan => exact nan
  | infinite negative => exact shown_append.mpr ⟨sign negative, infinity⟩
  | finite negative magnitude =>
    refine shown_append.mpr ⟨sign negative, ?_⟩
    unfold magnitudeText
    split
    · exact shown_word rfl
    · refine shown_layOut (fun c member => ?_) _
      exact shown_ofInt (.ofNat _) c (Text.dropEndWhile_subset _ _ member)

end Binary64

theorem Scalar.shown_notate (x : Scalar) : Shown false x.notate := by
  cases x with
  | null => exact shown_word (t := "None") rfl
  | truth b =>
    cases b with
    | true => exact shown_word (t := "True") rfl
    | false => exact shown_word (t := "False") rfl
  | integer i => exact shown_ofInt i
  | real r => exact r.shown_text (shown_word rfl) (shown_word rfl)
  | text t => exact t.shown_quoted

end Shown
end BlobVault
