import BlobVault.Audit.Signing
import BlobVault.Proofs.Text.Flaw

/-! The grammar of hexadecimal texts: blanks, an optional prefix, digits in either case, an even number of them,
and blanks. Whether a text follows it shows in the text as it stands: one that does not has an odd number of
digits, or something in it that stands where the grammar has no place for it. -/
namespace BlobVault.Hex

/-- A text that is a prefix and digits between blanks, however many digits there are. -/
structure Layout (t marker digits : Text) : Prop where
  known : marker ∈ markers
  allDigits : ∀ c ∈ digits, IsDigit c
  padded : Text.Padded (marker ++ digits) t

/-- What keeps a text from being hexadecimal, as it shows in the text. -/
inductive Malformed (t : Text) : Prop where
  | oddDigits (marker digits : Text) : Layout t marker digits → digits.length % 2 = 1 → Malformed t
  /-- A blank behind the prefix or between digits. -/
  | innerBlank (front back : Text) (c : CodePoint) : t = front ++ c :: back → c.isBlank = true →
      ¬ Text.AllBlank front → ¬ Text.AllBlank back → Malformed t
  | secondPrefix (front first second back : Text) : first ∈ markers → first ≠ [] → second ∈ markers →
      second ≠ [] → t = front ++ first ++ second ++ back → Malformed t
  /-- The letter of a prefix without a single leading zero in front of it. -/
  | strayMark (front back : Text) (c : CodePoint) : t = front ++ c :: back → IsMark c →
      (∀ blanks, Text.AllBlank blanks → front ≠ blanks ++ "0") → Malformed t
  /-- A digit of another script, a surrogate, or any other code point beyond ASCII. -/
  | beyondAscii (c : CodePoint) : c ∈ t → 0x80 ≤ c.val → c.isBlank = false → Malformed t
  | foreign (c : CodePoint) : c ∈ t → c.isBlank = false → ¬ IsDigit c → ¬ IsMark c → Malformed t

/-- The letter of a prefix is not among blanks and a zero. -/
theorem IsMark.not_mem_front {blanks : Text} {c : CodePoint} (mark : IsMark c) (allBlank : Text.AllBlank blanks) :
    c ∉ blanks ++ "0" := by
  intro member
  rcases List.mem_append.mp member with blank | zero
  · cases mark.solid.symm.trans (allBlank c blank)
  · exact mark.ne_zero (List.mem_singleton.mp zero)

namespace Layout

variable {t marker digits : Text} (layout : Layout t marker digits)
include layout

theorem solid : Text.Solid (marker ++ digits) := by
  intro c member
  rcases List.mem_append.mp member with front | digit
  · exact solid_of_marker layout.known c front
  · exact solid_of_isDigit (layout.allDigits c digit)

/-- The digits of a text are all that is left of it without blanks around it and without a prefix. -/
theorem core_eq : core t = digits := by
  rw [core, Text.strip_padded layout.solid layout.padded]
  exact stripPrefix_marked layout.known fun c member => isDigit_iff.mp (layout.allDigits c member)

/-- A code point of a text that is no blank is within the prefix or the digits. -/
theorem solid_place {front back : Text} {c : CodePoint} (split : t = front ++ c :: back)
    (solid : c.isBlank = false) :
    ∃ before first last, Text.AllBlank before ∧ marker ++ digits = first ++ c :: last ∧
      front = before ++ first := by
  rcases layout.padded.place split with ⟨blank, -⟩ | inner
  · cases solid.symm.trans blank
  · exact inner

/-- What is neither a blank nor a digit is the letter of a prefix. -/
theorem isMark_of_mem {c : CodePoint} (member : c ∈ t) (solid : c.isBlank = false) (other : ¬ IsDigit c) :
    IsMark c := by
  obtain ⟨front, back, split⟩ := List.append_of_mem member
  obtain ⟨before, first, last, -, inner, -⟩ := layout.solid_place split solid
  have member : c ∈ marker ++ digits := by simp [inner]
  rcases List.mem_append.mp member with inMarker | inDigits
  · rcases mem_markers_iff.mp layout.known with rfl | ⟨d, mark, rfl⟩
    · contradiction
    · rcases List.mem_cons.mp inMarker with rfl | rest
      · exact absurd (by decide) other
      · obtain rfl := List.mem_singleton.mp rest
        exact mark
  · exact absurd (layout.allDigits c inDigits) other

/-- The letter of a prefix stands behind blanks and one zero. -/
theorem mark_place {front back : Text} {c : CodePoint} (split : t = front ++ c :: back) (mark : IsMark c) :
    ∃ blanks, Text.AllBlank blanks ∧ front = blanks ++ "0" := by
  obtain ⟨before, first, last, blanks, inner, rfl⟩ := layout.solid_place split mark.solid
  refine ⟨before, blanks, ?_⟩
  rcases Text.place_of_append inner with ⟨more, within⟩ | ⟨more, -, within⟩
  · rcases mem_markers_iff.mp layout.known with rfl | ⟨d, -, rfl⟩
    · simp at within
    · rcases first with _ | ⟨e, _ | ⟨f, rest⟩⟩
      · exact absurd (List.cons.inj within).1.symm mark.ne_zero
      · obtain ⟨rfl, -⟩ := List.cons.inj within
        rfl
      · simp at within
  · exact absurd (layout.allDigits c (by simp [within])) mark.not_digit

end Layout

theorem Spells.layout {t : Text} {b : Bytes} (spelled : Spells t b) :
    ∃ marker digits, Layout t marker digits ∧ digits.length % 2 = 0 := by
  obtain ⟨marker, digits, known, lower, padded⟩ := spelled
  have read := readDigits?_of_lowerAscii lower
  have length := length_of_readDigits? read
  exact ⟨marker, digits, ⟨known, isDigit_of_readDigits? read, padded⟩, by omega⟩

/-- A malformed text spells no octets. -/
theorem Malformed.not_spells {t : Text} (malformed : Malformed t) (b : Bytes) : ¬ Spells t b := by
  intro spelled
  obtain ⟨marker, digits, layout, even⟩ := spelled.layout
  cases malformed with
  | oddDigits _ _ found odd =>
    rw [← found.core_eq, layout.core_eq] at odd
    omega
  | innerBlank front back c split blank moreInFront moreBehind =>
    rcases layout.padded.place split with ⟨-, atFront | atBack⟩ | ⟨before, first, last, -, inner, -⟩
    · exact moreInFront atFront
    · exact moreBehind atBack
    · have solid := layout.solid c (by simp [inner])
      cases solid.symm.trans blank
  | secondPrefix front first second back known some knownAgain someAgain split =>
    obtain ⟨c, mark, rfl⟩ := (mem_markers_iff.mp known).resolve_left some
    obtain ⟨d, markAgain, rfl⟩ := (mem_markers_iff.mp knownAgain).resolve_left someAgain
    have split : t = (front ++ [CodePoint.ofChar '0', c] ++ "0") ++ d :: back := by
      rw [split, List.append_assoc, List.append_assoc _ (Text.ofString "0")]
      rfl
    obtain ⟨blanks, allBlank, same⟩ := layout.mark_place split markAgain
    exact mark.not_mem_front allBlank (same ▸ by simp)
  | strayMark front back c split mark apart =>
    obtain ⟨blanks, allBlank, same⟩ := layout.mark_place split mark
    exact apart blanks allBlank same
  | beyondAscii c member high solid =>
    have other : ¬ IsDigit c := by
      unfold IsDigit
      omega
    have low := (layout.isMark_of_mem member solid other).ascii
    omega
  | foreign c member solid other unmarked => exact unmarked (layout.isMark_of_mem member solid other)

/-- Where a code point of the core stands in the stripped text, and where in the text. -/
theorem core_place {t first last : Text} {c : CodePoint} (split : core t = first ++ c :: last) :
    ∃ marker ∈ markers, t.strip = (marker ++ first) ++ c :: last ∧
      ∃ before after, Text.AllBlank before ∧ t = (before ++ (marker ++ first)) ++ c :: (last ++ after) := by
  obtain ⟨marker, known, parts⟩ := stripPrefix_split t.strip
  rw [← core, split, ← List.append_assoc] at parts
  obtain ⟨before, after, blanks, -, whole⟩ := Text.padded_strip t
  refine ⟨marker, known, parts, before, after, blanks, ?_⟩
  rw [whole, parts]
  simp only [List.append_assoc, List.cons_append]

/-- Removing a prefix leaves no letter of a prefix in its place: one that is left is a stray one. -/
theorem strayMark_of_core {t first last : Text} {c : CodePoint} (split : core t = first ++ c :: last)
    (mark : IsMark c) : Malformed t := by
  obtain ⟨marker, known, stripped, before, after, blankBefore, whole⟩ := core_place split
  apply Malformed.strayMark _ _ c whole mark
  intro blanks allBlank same
  rcases mem_markers_iff.mp known with rfl | ⟨d, markAgain, rfl⟩
  · -- Nothing was removed, so the stripped text begins neither with a prefix nor with a blank.
    rw [List.nil_append] at same stripped
    have same : before ++ first = blanks ++ [CodePoint.ofChar '0'] := same
    rcases Text.place_of_append same with ⟨more, within⟩ | ⟨more, within, rfl⟩
    · have zero := blankBefore (CodePoint.ofChar '0') (by simp [within])
      contradiction
    · cases more with
      | nil =>
        have kept : core t = last := by
          rw [core, stripped]
          exact mark.stripPrefix_eq last
        have length := congrArg List.length (kept.symm.trans split)
        simp only [List.nil_append, List.length_append, List.length_cons] at length
        omega
      | cons d more =>
        have blank := allBlank d (by simp [within])
        have begins : t.strip = [] ++ d :: (more ++ [CodePoint.ofChar '0'] ++ c :: last) := stripped
        exact Text.not_allBlank_front begins blank (List.forall_mem_nil _)
  · exact markAgain.not_mem_front allBlank (same ▸ by simp)

/-- A core that does not consist of digits shows in the text. -/
theorem malformed_of_core {t : Text} {c : CodePoint} (member : c ∈ core t) (other : ¬ IsDigit c) :
    Malformed t := by
  obtain ⟨first, last, split⟩ := List.append_of_mem member
  by_cases mark : IsMark c
  · exact strayMark_of_core split mark
  · obtain ⟨marker, -, stripped, before, after, -, whole⟩ := core_place split
    cases blank : c.isBlank with
    | false => exact .foreign c (by simp [whole]) blank other mark
    | true =>
      apply Malformed.innerBlank _ _ c whole blank
      · intro blanks
        exact Text.not_allBlank_front stripped blank fun d member => blanks d (List.mem_append_right _ member)
      · intro blanks
        exact Text.not_allBlank_back stripped blank fun d member => blanks d (List.mem_append_left _ member)

/-- A text that does not read as octets is malformed. -/
theorem malformed_of_unread {t : Text} (unread : read? t = none) : Malformed t := by
  by_cases digits : ∀ c ∈ core t, IsDigit c
  · obtain ⟨marker, known, padded⟩ := padded_core t
    apply Malformed.oddDigits marker (core t) ⟨known, digits, padded⟩
    by_contra even
    obtain ⟨b, read⟩ := readDigits?_of_digits digits (by omega)
    cases unread.symm.trans read
  · push Not at digits
    obtain ⟨c, member, other⟩ := digits
    exact malformed_of_core member other

theorem unread_iff_malformed {t : Text} : read? t = none ↔ Malformed t := by
  constructor
  · exact malformed_of_unread
  · intro malformed
    rw [Option.eq_none_iff_forall_ne_some]
    intro b read
    exact malformed.not_spells b (read?_eq_some_iff.mp read)

/-- Every text spells octets or is malformed, and none does both. -/
theorem not_exists_spells_iff {t : Text} : (¬ ∃ b, Spells t b) ↔ Malformed t := by
  rw [← unread_iff_malformed, Option.eq_none_iff_forall_ne_some, not_exists]
  exact forall_congr' fun b => not_congr read?_eq_some_iff.symm

/-- The parts of a text that spells octets. -/
theorem spells_iff {t : Text} {b : Bytes} :
    Spells t b ↔ ∃ before marker digits after, Text.AllBlank before ∧ marker ∈ markers ∧
      digits.lowerAscii = write b ∧ Text.AllBlank after ∧ t = before ++ marker ++ digits ++ after := by
  constructor
  · rintro ⟨marker, digits, known, lower, before, after, blankBefore, blankAfter, whole⟩
    rw [← List.append_assoc] at whole
    exact ⟨before, marker, digits, after, blankBefore, known, lower, blankAfter, whole⟩
  · rintro ⟨before, marker, digits, after, blankBefore, known, lower, blankAfter, whole⟩
    rw [List.append_assoc before] at whole
    exact ⟨marker, digits, known, lower, before, after, blankBefore, blankAfter, whole⟩

theorem decode_eq_ok_iff {what t : Text} {b : Bytes} : decode what t = .ok b ↔ Spells t b := by
  rw [← read?_eq_some_iff, decode]
  cases read? t with
  | none => simp
  | some c => simp

theorem decode_eq_error_iff {what t : Text} {cause : Failure} :
    decode what t = .error cause ↔ Malformed t ∧ cause = .known (notHex .hexFormat what) := by
  rw [← unread_iff_malformed, decode]
  cases read? t with
  | none => simp [eq_comm]
  | some b => simp

/-- A text is read as octets exactly when it is blanks, an optional prefix, the digits of the octets in either case,
and blanks. These parts leave no choice of octets. Every other text is malformed, and it is refused by an error
of the hexadecimal format that names what was to be read. -/
theorem decode_accepts_grammar (what t : Text) :
    (∀ b, decode what t = .ok b ↔ Spells t b) ∧
    (∀ b, Spells t b ↔ ∃ before marker digits after, Text.AllBlank before ∧ marker ∈ markers ∧
      digits.lowerAscii = write b ∧ Text.AllBlank after ∧ t = before ++ marker ++ digits ++ after) ∧
    (∀ b c, Spells t b → Spells t c → b = c) ∧
    ((¬ ∃ b, Spells t b) ↔ Malformed t) ∧
    ∀ cause, decode what t = .error cause ↔
      Malformed t ∧ cause = .known ⟨.hexFormat, what ++ " must be a hex string"⟩ := by
  refine ⟨fun b => decode_eq_ok_iff, fun b => spells_iff, ?_, not_exists_spells_iff,
    fun cause => decode_eq_error_iff⟩
  intro b c first second
  have same := (read?_eq_some_iff.mpr first).symm.trans (read?_eq_some_iff.mpr second)
  exact Option.some.inj same

/-- Digits in either case between blanks, a prefix alone, and one text for each way to be malformed. -/
theorem decode_accepts_grammar_cases :
    let spelling : Text := ([0x2003] : Text) ++ "0X" ++ "aB0f" ++ "\n"
    let refused : Except Failure Bytes := .error (.known (notHex .hexFormat "value"))
    decode "value" spelling = .ok [0xAB, 0x0F] ∧ (∀ b, Spells spelling b → b = [0xAB, 0x0F]) ∧
      decode "value" "0x" = .ok [] ∧
      decode "value" "0xa" = refused ∧ decode "value" "0x ab" = refused ∧
      decode "value" "0x0Xab" = refused ∧ decode "value" "00x0" = refused ∧
      decode "value" ([0xFF11, 0xFF12] : Text) = refused ∧ decode "value" ([0x61, 0x62, 0xDCFF] : Text) = refused ∧
      decode "value" "g0" = refused := by
  intro spelling refused
  have refuses : ∀ t, Malformed t → decode "value" t = refused := by
    intro t malformed
    obtain ⟨-, -, -, -, fails⟩ := decode_accepts_grammar "value" t
    exact (fails _).mpr ⟨malformed, rfl⟩
  obtain ⟨reads, parts, unique, -⟩ := decode_accepts_grammar "value" spelling
  have spelled : Spells spelling [0xAB, 0x0F] := by
    refine (parts _).mpr ⟨[0x2003], "0X", "aB0f", "\n", ?_, by decide, by decide, ?_, rfl⟩
    · exact List.forall_mem_singleton.mpr rfl
    · exact List.forall_mem_singleton.mpr rfl
  have empty : Spells "0x" [] := ⟨"0x", [], by decide, rfl, Text.Padded.self _⟩
  refine ⟨(reads _).mpr spelled, fun b other => unique b _ other spelled, ?_, ?_, ?_, ?_, ?_, ?_, ?_, ?_⟩
  · exact ((decode_accepts_grammar "value" "0x").1 []).mpr empty
  · apply refuses
    exact .oddDigits "0x" "a" ⟨by decide, List.forall_mem_singleton.mpr (by decide), Text.Padded.self _⟩ rfl
  · apply refuses
    refine .innerBlank "0x" "ab" 0x20 rfl rfl (fun blanks => ?_) (fun blanks => ?_)
    · exact absurd (blanks 'x' (by decide)) (by decide)
    · exact absurd (blanks 'a' (by decide)) (by decide)
  · apply refuses
    exact .secondPrefix [] "0x" "0X" "ab" (by decide) (by decide) (by decide) (by decide) rfl
  · apply refuses
    refine .strayMark "00" "0" 'x' rfl (.inl rfl) (fun blanks allBlank same => ?_)
    obtain rfl := List.append_cancel_right (show ("0" : Text) ++ "0" = blanks ++ "0" from same)
    exact absurd (allBlank '0' (List.mem_singleton.mpr rfl)) (by decide)
  · exact refuses _ (.beyondAscii 0xFF11 (by decide) (by decide) rfl)
  · exact refuses _ (.beyondAscii 0xDCFF (by decide) (by decide) rfl)
  · exact refuses _ (.foreign 'g' (by decide) rfl (by decide) (by decide))

end BlobVault.Hex
