import BlobVault.Proofs.Action
import BlobVault.Proofs.Json.Encoding

/-! What is read from a text that has an encoding. Escapes can bring surrogates into it, but a high and a
low one side by side are put together, so no text that is read holds the two halves of a pair. -/
namespace BlobVault.Json

open Reader

/-- No text in a value holds a high surrogate directly before a low one. -/
def Unpaired (v : Json) : Prop := ∀ t ∈ v.texts, t.Unpaired

/-- What a reader returns of a plain text is good, and the rest is plain. -/
def Yields (good : α → Prop) (reader : Text → Except Reader.Fault (α × Text)) : Prop :=
  ∀ t x rest, t.hasSurrogate = false → reader t = .ok (x, rest) → good x ∧ rest.hasSurrogate = false

theorem plain_drop {t : Text} (plain : t.hasSurrogate = false) (n : Nat) :
    Text.hasSurrogate (t.drop n) = false :=
  Text.plain_of_subset (List.drop_subset n t) plain

theorem plain_skipSpace {t : Text} (plain : t.hasSurrogate = false) : (skipSpace t).hasSurrogate = false :=
  Text.plain_of_subset (List.dropWhile_suffix _).subset plain

theorem isHighSurrogate_ofNat (n : Nat) : (CodePoint.ofNat n).isHighSurrogate = isHigh n := by
  by_cases inside : n < 0x110000
  · rw [CodePoint.isHighSurrogate, CodePoint.val_ofNat inside, isHigh]
  · have outside : isHigh n = false := by
      simp only [isHigh, Bool.and_eq_false_iff, decide_eq_false_iff_not]
      omega
    rw [CodePoint.ofNat, dif_neg inside, outside]
    rfl

theorem isLowSurrogate_ofNat (n : Nat) : (CodePoint.ofNat n).isLowSurrogate = isLow n := by
  by_cases inside : n < 0x110000
  · rw [CodePoint.isLowSurrogate, CodePoint.val_ofNat inside, isLow]
  · have outside : isLow n = false := by
      simp only [isLow, Bool.and_eq_false_iff, decide_eq_false_iff_not]
      omega
    rw [CodePoint.ofNat, dif_neg inside, outside]
    rfl

theorem plain_pair {high low : Nat} (paired : (isHigh high && isLow low) = true) :
    (pair high low).isSurrogate = false := by
  simp only [isHigh, isLow, Bool.and_eq_true, decide_eq_true_eq] at paired
  have value : (pair high low).val = 0x10000 + (high - 0xD800) * 0x400 + (low - 0xDC00) :=
    CodePoint.val_ofNat (by omega)
  simp only [CodePoint.isSurrogate, value, Bool.and_eq_false_iff, decide_eq_false_iff_not]
  omega

def PlainPieces (found : List Piece) : Prop := ∀ c, Piece.plain c ∈ found → c.isSurrogate = false

theorem plainPieces_cons {p : Piece} {found : List Piece} :
    PlainPieces (p :: found) ↔ (∀ c, p = .plain c → c.isSurrogate = false) ∧ PlainPieces found := by
  unfold PlainPieces
  constructor
  · intro all
    refine ⟨fun c same => all c ?_, fun c member => all c (List.mem_cons_of_mem p member)⟩
    rw [same]
    exact List.mem_cons_self
  · rintro ⟨first, later⟩ c member
    rcases List.mem_cons.mp member with same | member
    · exact first c same.symm
    · exact later c member

/-- An assembled text begins with a low surrogate only if its pieces begin with a low unit. -/
theorem head_assemble {found : List Piece} (plain : PlainPieces found) {d : CodePoint}
    (first : (assemble found).head? = some d) (low : d.isLowSurrogate = true) :
    ∃ m more, found = .unit m :: more ∧ isLow m = true := by
  match found with
  | [] => contradiction
  | .plain c :: rest =>
    have clear := (CodePoint.halves_of_plain (plain c List.mem_cons_self)).2
    cases first
    rw [low] at clear
    contradiction
  | [.unit n] =>
    cases first
    exact ⟨n, [], rfl, isLowSurrogate_ofNat n ▸ low⟩
  | .unit n :: .plain c :: rest =>
    cases first
    exact ⟨n, _, rfl, isLowSurrogate_ofNat n ▸ low⟩
  | .unit n :: .unit m :: rest =>
    rw [assemble] at first
    split at first
    · rename_i paired
      have same : pair n m = d := Option.some.inj first
      have clear := (CodePoint.halves_of_plain (plain_pair paired)).2
      rw [same, low] at clear
      cases clear
    · cases first
      exact ⟨n, _, rfl, isLowSurrogate_ofNat n ▸ low⟩

theorem unpaired_assemble {found : List Piece} (plain : PlainPieces found) : (assemble found).Unpaired := by
  fun_induction assemble found with
  | case1 => exact .nil
  | case2 c rest ih =>
    obtain ⟨first, later⟩ := plainPieces_cons.mp plain
    refine Text.unpaired_cons (fun d _ high => ?_) (ih later)
    rw [(CodePoint.halves_of_plain (first c rfl)).1] at high
    contradiction
  | case3 n m rest paired ih =>
    have later := (plainPieces_cons.mp (plainPieces_cons.mp plain).2).2
    refine Text.unpaired_cons (fun d _ high => ?_) (ih later)
    rw [(CodePoint.halves_of_plain (plain_pair paired)).1] at high
    contradiction
  | case4 n m rest alone ih =>
    have later := (plainPieces_cons.mp plain).2
    refine Text.unpaired_cons (fun d first high => ?_) (ih later)
    -- A low half here would come from the next unit, and the two would have been put together.
    rw [isHighSurrogate_ofNat] at high
    cases low : d.isLowSurrogate with
    | false => rfl
    | true =>
      obtain ⟨k, more, same, half⟩ := head_assemble later first low
      cases same
      rw [high, half] at alone
      contradiction
  | case5 n rest apart ih =>
    have later := (plainPieces_cons.mp plain).2
    refine Text.unpaired_cons (fun d first high => ?_) (ih later)
    cases low : d.isLowSurrogate with
    | false => rfl
    | true =>
      obtain ⟨m, more, same, -⟩ := head_assemble later first low
      exact absurd same (apart m more)

theorem plain_of_namedEscape? {e c : CodePoint} (plain : e.isSurrogate = false)
    (named : namedEscape? e = some c) : c.isSurrogate = false := by
  unfold namedEscape? at named
  split at named
  · cases named
    exact plain
  iterate 5
    split at named
    · cases named
      rfl
  cases named

/-- One more piece in front of the pieces of a plain text. -/
theorem plainPieces_map {p : Piece} (plain : ∀ c, p = .plain c → c.isSurrogate = false) {t rest : Text}
    {found : List Piece}
    (later : ∀ found rest, pieces? t = some (found, rest) → PlainPieces found ∧ rest.hasSurrogate = false)
    (read : (pieces? t).map (fun (found, rest) => (p :: found, rest)) = some (found, rest)) :
    PlainPieces found ∧ rest.hasSurrogate = false := by
  obtain ⟨⟨behind, left⟩, before, same⟩ := Option.map_eq_some_iff.mp read
  cases same
  obtain ⟨pieces, clear⟩ := later behind rest before
  exact ⟨plainPieces_cons.mpr ⟨plain, pieces⟩, clear⟩

theorem plainPieces_pieces? {t : Text} (plain : t.hasSurrogate = false) :
    ∀ found rest, pieces? t = some (found, rest) → PlainPieces found ∧ rest.hasSurrogate = false := by
  fun_induction pieces? t with
  | case1 | case3 | case5 | case6 | case8 | case9 =>
    intro found rest read
    cases read
  | case2 rest =>
    intro found left read
    cases read
    exact ⟨fun _ member => (List.not_mem_nil member).elim, (Text.plain_of_cons plain).2⟩
  | case4 a b c d rest n _ _ ih =>
    intro found left read
    have unit (c : CodePoint) (same : Piece.unit n = .plain c) : c.isSurrogate = false := nomatch same
    exact plainPieces_map unit (ih (plain_drop plain 6)) read
  | case7 e rest _ c named _ ih =>
    intro found left read
    obtain ⟨first, later⟩ := Text.plain_of_cons (Text.plain_of_cons plain).2
    refine plainPieces_map (fun d same => ?_) (ih later) read
    cases same
    exact plain_of_namedEscape? first named
  | case10 c rest _ _ _ ih =>
    intro found left read
    obtain ⟨first, later⟩ := Text.plain_of_cons plain
    refine plainPieces_map (fun d same => ?_) (ih later) read
    cases same
    exact first

theorem unpaired_text? {t : Text} (plain : t.hasSurrogate = false) {content rest : Text}
    (read : text? t = some (content, rest)) : content.Unpaired ∧ rest.hasSurrogate = false := by
  obtain ⟨⟨found, left⟩, pieces, same⟩ := Option.map_eq_some_iff.mp read
  cases same
  obtain ⟨units, clear⟩ := plainPieces_pieces? plain found rest pieces
  exact ⟨unpaired_assemble units, clear⟩

theorem plain_after? {word t rest : Text} (plain : t.hasSurrogate = false)
    (read : after? word t = some rest) : rest.hasSurrogate = false := by
  fun_induction after? word t with
  | case1 =>
    cases read
    exact plain
  | case3 w word t ih => exact ih (Text.plain_of_cons plain).2 read
  | case2 | case4 => cases read

theorem unpaired_of_none {v : Json} (none : v.texts = []) : Unpaired v := by
  intro t member
  rw [none] at member
  exact (List.not_mem_nil member).elim

theorem unpaired_word? {t rest : Text} {s : Scalar} (plain : t.hasSurrogate = false)
    (read : word? t = some (s, rest)) : Unpaired (.scalar s) ∧ rest.hasSurrogate = false := by
  have textless : words.all (fun entry => (Json.scalar entry.2).texts.isEmpty) = true := rfl
  obtain ⟨entry, known, found⟩ := List.exists_of_findSome?_eq_some read
  obtain ⟨left, behind, same⟩ := Option.map_eq_some_iff.mp found
  cases same
  have none := List.isEmpty_iff.mp (List.all_eq_true.mp textless entry known)
  exact ⟨unpaired_of_none none, plain_after? plain behind⟩

theorem whole?_subset {t digits rest : Text} (read : whole? t = some (digits, rest)) : rest ⊆ t := by
  unfold whole? at read
  split at read
  · cases read
  · split at read
    · cases read
      exact List.subset_cons_self _ _
    · dsimp only at read
      split at read
      · cases read
      · cases read
        exact List.drop_subset _ _

theorem splitSign_subset (t : Text) : (Integer.splitSign t).2 ⊆ t := by
  unfold Integer.splitSign
  split
  · exact List.nil_subset _
  · split
    · exact List.subset_cons_self _ _
    · split
      · exact List.subset_cons_self _ _
      · exact List.Subset.refl _

theorem fraction_subset (t : Text) : (fraction t).2 ⊆ t := by
  unfold fraction
  split
  · exact List.nil_subset _
  · dsimp only
    split
    · exact List.subset_cons_of_subset _ (List.drop_subset _ _)
    · exact List.Subset.refl _

theorem exponent_subset (t : Text) : (exponent t).2 ⊆ t := by
  unfold exponent
  split
  · exact List.nil_subset _
  · split
    · dsimp only
      split
      · exact List.Subset.refl _
      · exact List.subset_cons_of_subset _
          (List.Subset.trans (List.drop_subset _ _) (splitSign_subset _))
    · exact List.Subset.refl _

theorem unpaired_number? {t rest : Text} {s : Scalar} (plain : t.hasSurrogate = false)
    (read : number? t = some (s, rest)) : Unpaired (.scalar s) ∧ rest.hasSurrogate = false := by
  unfold number? at read
  split at read
  rename_i negative unsigned signed
  have body : unsigned ⊆ t := by
    split at signed
    · cases signed
      exact List.nil_subset _
    · split at signed
      · cases signed
        exact List.subset_cons_self _ _
      · cases signed
        exact List.Subset.refl _
  split at read
  · cases read
  · rename_i digits left whole
    have clear := Text.plain_of_subset (List.Subset.trans (exponent_subset (fraction left).2)
      (List.Subset.trans (fraction_subset left) (List.Subset.trans (whole?_subset whole) body))) plain
    dsimp only at read
    split at read
    · split at read
      · cases read
      · cases read
        exact ⟨unpaired_of_none rfl, clear⟩
    · cases read
      exact ⟨unpaired_of_none rfl, clear⟩

section Row

variable {good : α → Prop} {item : Text → Except Reader.Fault (α × Text)} (yields : Yields good item)
  (close : CodePoint)
include yields

theorem yields_itemsUpTo (bound : Nat) :
    Yields (fun items => ∀ x ∈ items, good x) (itemsUpTo close item bound) := by
  induction bound with
  | zero => exact fun _ _ _ _ read => nomatch read
  | succ bound ih =>
    intro t items rest plain read
    rw [itemsUpTo, bind_eq_ok_iff] at read
    obtain ⟨⟨first, left⟩, here, read⟩ := read
    obtain ⟨sound, clear⟩ := yields t first left plain here
    have clear := plain_skipSpace clear
    dsimp only at read
    split at read
    · cases read
    · rename_i c behind skipped
      rw [skipped] at clear
      have clear := (Text.plain_of_cons clear).2
      split at read
      · cases read
        exact ⟨List.forall_mem_singleton.mpr sound, clear⟩
      · split at read
        · obtain ⟨⟨others, left⟩, later, read⟩ := bind_eq_ok_iff.mp read
          cases read
          obtain ⟨sounds, clear⟩ := ih _ others _ (plain_skipSpace clear) later
          exact ⟨List.forall_mem_cons.mpr ⟨sound, sounds⟩, clear⟩
        · cases read

theorem yields_bracketed : Yields (fun items => ∀ x ∈ items, good x) (bracketed close item) := by
  intro t items rest plain read
  have clear := plain_skipSpace plain
  unfold bracketed at read
  split at read
  · cases read
  · rename_i c behind skipped
    rw [skipped] at clear
    split at read
    · cases read
      exact ⟨fun _ member => (List.not_mem_nil member).elim, (Text.plain_of_cons clear).2⟩
    · exact yields_itemsUpTo yields close _ _ items rest clear read

end Row

theorem yields_member {value : Text → Except Reader.Fault (Json × Text)} (yields : Yields Unpaired value) :
    Yields (fun m => m.1.Unpaired ∧ m.2.Unpaired) (member value) := by
  intro t m rest plain read
  unfold member at read
  split at read
  · cases read
  split at read
  · split at read
    · cases read
    · rename_i name left named
      obtain ⟨paired, clear⟩ := unpaired_text? (Text.plain_of_cons plain).2 named
      have clear := plain_skipSpace clear
      split at read
      · cases read
      · rename_i colon behind skipped
        rw [skipped] at clear
        split at read
        · obtain ⟨⟨v, left⟩, valued, read⟩ := bind_eq_ok_iff.mp read
          cases read
          obtain ⟨sound, clear⟩ := yields _ v rest (plain_skipSpace (Text.plain_of_cons clear).2) valued
          exact ⟨⟨paired, sound⟩, clear⟩
        · cases read
  · cases read

theorem mem_put {name : Text} {v : Json} {held : Members} {m : Text × Json}
    (inside : m ∈ Members.put name v held) : m = (name, v) ∨ m ∈ held := by
  induction held with
  | nil => exact .inl (List.mem_singleton.mp inside)
  | cons first rest ih =>
    rw [Members.put] at inside
    split at inside
    · rcases List.mem_cons.mp inside with same | member
      · exact .inl same
      · exact .inr (List.mem_cons_of_mem _ member)
    · rcases List.mem_cons.mp inside with same | member
      · exact .inr (same ▸ List.mem_cons_self)
      · exact (ih member).imp id (List.mem_cons_of_mem _)

theorem mem_ofList {given : Members} {m : Text × Json} (inside : m ∈ Members.ofList given) : m ∈ given := by
  suffices ∀ held, m ∈ given.foldl (fun held member => Members.put member.1 member.2 held) held →
      m ∈ held ∨ m ∈ given by
    exact (this [] inside).resolve_left (List.not_mem_nil)
  clear inside
  induction given with
  | nil => exact fun _ member => .inl member
  | cons first rest ih =>
    intro held member
    rcases ih _ member with early | late
    · rcases mem_put early with same | old
      · exact .inr (same ▸ List.mem_cons_self)
      · exact .inl old
    · exact .inr (List.mem_cons_of_mem _ late)

theorem unpaired_array {items : List Json} (each : ∀ item ∈ items, item.Unpaired) :
    Unpaired (.array items) := by
  intro t member
  rw [texts, itemTexts_eq] at member
  obtain ⟨item, inside, within⟩ := List.mem_flatMap.mp member
  exact each item inside t within

theorem unpaired_object {members : Members} (each : ∀ m ∈ members, m.1.Unpaired ∧ m.2.Unpaired) :
    Unpaired (.object members) := by
  intro t member
  rw [texts, memberTexts_eq] at member
  obtain ⟨m, inside, within⟩ := List.mem_flatMap.mp member
  obtain ⟨name, value⟩ := each m inside
  rcases List.mem_cons.mp within with same | within
  · exact same ▸ name
  · exact value t within

/-- The brackets of a value hold values that are nested less deep. -/
theorem yields_value (depth : Nat) : Yields Unpaired (value depth) := by
  induction depth using Nat.strongRecOn with
  | ind depth ih =>
    intro t v rest plain read
    rw [value.eq_def] at read
    split at read
    · cases read
    rename_i c behind
    have clear := (Text.plain_of_cons plain).2
    split at read
    · split at read
      · rename_i content left quoted
        cases read
        obtain ⟨paired, clear⟩ := unpaired_text? clear quoted
        refine ⟨fun t member => ?_, clear⟩
        rw [List.mem_singleton.mp member]
        exact paired
      · cases read
    split at read
    -- Depth zero is refused, so the row in the brackets is read at a smaller depth.
    · split at read
      · cases read
      · rename_i depth
        obtain ⟨⟨items, left⟩, row, read⟩ := bind_eq_ok_iff.mp read
        cases read
        obtain ⟨each, clear⟩ := yields_bracketed (ih depth depth.lt_succ_self) ']' _ items _ clear row
        exact ⟨unpaired_array each, clear⟩
    split at read
    · split at read
      · cases read
      · rename_i depth
        obtain ⟨⟨members, left⟩, row, read⟩ := bind_eq_ok_iff.mp read
        cases read
        obtain ⟨each, clear⟩ :=
          yields_bracketed (yields_member (ih depth depth.lt_succ_self)) '}' _ members _ clear row
        exact ⟨unpaired_object fun m inside => each m (mem_ofList inside), clear⟩
    split at read
    · rename_i s left word
      cases read
      exact unpaired_word? plain word
    · split at read
      · rename_i s left number
        cases read
        exact unpaired_number? plain number
      · cases read

/-- A text that has an encoding is read as a value without split pairs. -/
theorem unpaired_of_read {depth : Nat} {t : Text} {v : Json} (plain : t.hasSurrogate = false)
    (read : Json.read depth t = .ok v) : v.Unpaired := by
  obtain ⟨⟨found, rest⟩, valued, read⟩ := bind_eq_ok_iff.mp read
  dsimp only at read
  split at read
  · cases read
    exact (yields_value depth _ v rest (plain_skipSpace plain) valued).1
  · cases read

end BlobVault.Json
