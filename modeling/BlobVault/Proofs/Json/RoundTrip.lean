import BlobVault.Proofs.Json.Scalar

/-! What is written as JSON reads back, in every style whose separators are a comma and a colon with
white space behind them. The induction is on the nesting of a value; a row of items is read the same
way in arrays and in objects, item by item. -/
namespace BlobVault

namespace Members

theorem put_of_new {name : Text} {m : Members} (new : name ∉ m.map Prod.fst) (value : Json) :
    put name value m = m ++ [(name, value)] := by
  induction m with
  | nil => rfl
  | cons member rest ih =>
    rw [List.map_cons, List.mem_cons, not_or] at new
    obtain ⟨other, later⟩ := new
    rw [put, if_neg (Ne.symm other), ih later]
    rfl

theorem foldl_put {held m : Members} (distinct : ((held ++ m).map Prod.fst).Nodup) :
    m.foldl (fun held member => put member.1 member.2 held) held = held ++ m := by
  induction m generalizing held with
  | nil => simp
  | cons member rest ih =>
    have new : member.1 ∉ held.map Prod.fst := by
      intro old
      rw [List.map_append, List.nodup_append] at distinct
      exact distinct.2.2 _ old _ List.mem_cons_self rfl
    rw [List.foldl_cons, put_of_new new, ih]
    · simp
    · simpa using distinct

/-- Members with distinct names are held as they are. -/
theorem ofList_of_nodup {m : Members} (distinct : (m.map Prod.fst).Nodup) : ofList m = m :=
  foldl_put (by simpa using distinct)

end Members

namespace Json

open Reader

/-- The separators are a comma and a colon, each with white space behind it. -/
structure Style.Separates (s : Style) : Prop where
  item : ∃ gap, s.itemSeparator = (',' : CodePoint) :: gap ∧ ∀ c ∈ gap, isSpace c = true
  name : ∃ gap, s.nameSeparator = (':' : CodePoint) :: gap ∧ ∀ c ∈ gap, isSpace c = true

theorem compact_separates : Style.compact.Separates :=
  ⟨⟨[], rfl, by simp⟩, ⟨[], rfl, by simp⟩⟩

theorem indented_separates : Style.indented.Separates :=
  ⟨⟨[], rfl, by simp⟩, ⟨[(' ' : CodePoint)], rfl, List.forall_mem_singleton.mpr rfl⟩⟩

/-- A value that reads back: its scalars do, the names of each object are distinct, and it is nested no
deeper than the reader follows. -/
inductive Readable (ascii : Bool) : Nat → Json → Prop where
  | scalar {x : Scalar} {depth : Nat} : x.Readable ascii → Readable ascii depth (.scalar x)
  | array {items : List Json} {depth : Nat} :
      (∀ item ∈ items, Readable ascii depth item) → Readable ascii (depth + 1) (.array items)
  | object {members : Members} {depth : Nat} : (members.map Prod.fst).Nodup →
      (∀ member ∈ members, ascii = true → Text.Unpaired member.1) →
      (∀ member ∈ members, Readable ascii depth member.2) →
      Readable ascii (depth + 1) (.object members)

theorem Readable.single {ascii : Bool} {depth : Nat} {name : Text} {v : Json}
    (paired : ascii = true → name.Unpaired) (value : Readable ascii depth v) :
    Readable ascii (depth + 1) (.object [(name, v)]) :=
  .object (List.pairwise_singleton _ _) (List.forall_mem_singleton.mpr paired)
    (List.forall_mem_singleton.mpr value)

theorem Readable.deepen {ascii : Bool} {depth more : Nat} {v : Json} (readable : Readable ascii depth v)
    (enough : depth ≤ more) : Readable ascii more v := by
  induction readable generalizing more with
  | scalar readable => exact .scalar readable
  | array _ ih =>
    obtain ⟨more, rfl⟩ := Nat.exists_eq_add_one_of_ne_zero (Nat.ne_zero_of_lt enough)
    exact .array fun item member => ih item member (Nat.le_of_succ_le_succ enough)
  | object distinct names _ ih =>
    obtain ⟨more, rfl⟩ := Nat.exists_eq_add_one_of_ne_zero (Nat.ne_zero_of_lt enough)
    exact .object distinct names fun m member => ih m member (Nat.le_of_succ_le_succ enough)

def Begins (t : Text) : Prop :=
  ∃ c rest, t = c :: rest ∧ isSpace c = false ∧ c ≠ ']' ∧ c ≠ '}'

theorem skipSpace_cons {c : CodePoint} (solid : isSpace c = false) (t : Text) :
    skipSpace (c :: t) = c :: t := by
  rw [skipSpace, List.dropWhile_cons_of_neg (by simp [solid])]

theorem Begins.skipSpace {t : Text} (begins : Begins t) (rest : Text) :
    skipSpace (t ++ rest) = t ++ rest := by
  obtain ⟨c, tail, rfl, solid, -⟩ := begins
  exact skipSpace_cons solid _

theorem skipSpace_append {gap : Text} (blank : ∀ c ∈ gap, isSpace c = true) (t : Text) :
    skipSpace (gap ++ t) = skipSpace t :=
  List.dropWhile_append_of_pos blank

theorem lineBreak_blank (s : Style) (level : Nat) : ∀ c ∈ s.lineBreak level, isSpace c = true := by
  unfold Style.lineBreak
  split
  · simp
  · intro c member
    rcases List.mem_append.mp member with newline | blank
    · simp only [List.mem_singleton, show ("\n" : Text) = [(0x0A : CodePoint)] from rfl] at newline
      rw [newline]
      rfl
    · rw [List.eq_of_mem_replicate blank]
      rfl

theorem ends_cons {c : CodePoint} (stops : c.isAsciiDigit = false ∧ c ≠ '.' ∧ c ≠ 'e' ∧ c ≠ 'E')
    (t : Text) : Ends (c :: t) := by
  intro d first
  cases first
  exact stops

theorem ends_lineBreak (s : Style) (level : Nat) {t : Text} (ends : Ends t) :
    Ends (s.lineBreak level ++ t) := by
  unfold Style.lineBreak
  split
  · exact ends
  · exact ends_cons (by decide) _

def following (s : Style) (level : Nat) (write : α → Text) (items : List α) : Text :=
  items.flatMap fun item => s.itemSeparator ++ s.lineBreak level ++ write item

theorem writeItems_eq (s : Style) (level : Nat) (items : List Json) :
    writeItems s level items = following s level (writeAt s level) items := by
  induction items with
  | nil => rfl
  | cons item rest ih =>
    rw [writeItems, ih]
    rfl

def writeMember (s : Style) (level : Nat) (member : Text × Json) : Text :=
  writeText s.ascii member.1 ++ s.nameSeparator ++ writeAt s level member.2

theorem writeMembers_eq (s : Style) (level : Nat) (members : Members) :
    writeMembers s level members = following s level (writeMember s level) members := by
  induction members with
  | nil => rfl
  | cons member rest ih =>
    obtain ⟨name, value⟩ := member
    rw [writeMembers, ih]
    simp [following, writeMember]

def Closes (close : CodePoint) : Prop := close = ']' ∨ close = '}'

namespace Closes

variable {close : CodePoint} (closes : Closes close)
include closes

theorem solid : isSpace close = false := by
  rcases closes with rfl | rfl <;> rfl

theorem ne_comma : (',' : CodePoint) ≠ close := by
  rcases closes with rfl | rfl <;> decide

theorem ends (rest : Text) : Ends (close :: rest) := by
  rcases closes with rfl | rfl <;> exact ends_cons (by decide) rest

end Closes

section Row

variable {s : Style} {level outer : Nat} {close : CodePoint} {write : α → Text}

/-- The rest of a row after its first item: the items that follow, and the bracket on its own line. -/
def rowEnd (s : Style) (level outer : Nat) (close : CodePoint) (write : α → Text) (items : List α)
    (rest : Text) : Text :=
  following s level write items ++ (s.lineBreak outer ++ close :: rest)

theorem ends_rowEnd (separates : s.Separates) (closes : Closes close) (others : List α) (rest : Text) :
    Ends (rowEnd s level outer close write others rest) := by
  cases others with
  | nil => exact ends_lineBreak s outer (closes.ends rest)
  | cons other others =>
    obtain ⟨gap, comma, -⟩ := separates.item
    rw [rowEnd, following, List.flatMap_cons, comma]
    exact ends_cons (by decide) _

theorem skipSpace_rowEnd_nil (closes : Closes close) (rest : Text) :
    skipSpace (rowEnd s level outer close write [] rest) = close :: rest := by
  rw [rowEnd, following, List.flatMap_nil, List.nil_append, skipSpace_append (lineBreak_blank s outer)]
  exact skipSpace_cons closes.solid rest

variable (level outer close) in
theorem skipSpace_rowEnd_cons (separates : s.Separates) {other : α} (begins : Begins (write other))
    (others : List α) (rest : Text) :
    ∃ t, skipSpace (rowEnd s level outer close write (other :: others) rest) = (',' : CodePoint) :: t ∧
      skipSpace t = write other ++ rowEnd s level outer close write others rest := by
  obtain ⟨gap, comma, blank⟩ := separates.item
  refine ⟨gap ++ (s.lineBreak level ++ (write other ++ rowEnd s level outer close write others rest)),
    ?_, ?_⟩
  · simp only [rowEnd, following, List.flatMap_cons, comma, List.cons_append, List.append_assoc]
    exact skipSpace_cons (show isSpace ',' = false from rfl) _
  · rw [skipSpace_append blank, skipSpace_append (lineBreak_blank s level), begins.skipSpace]

variable {item : Text → Except Fault (α × Text)}

/-- A row of items reads back when each single item does. -/
theorem itemsUpTo_row (separates : s.Separates) (closes : Closes close) {first : α} {others : List α}
    (reads : ∀ x ∈ first :: others, ∀ rest, Ends rest → item (write x ++ rest) = .ok (x, rest))
    (begins : ∀ x ∈ others, Begins (write x)) {bound : Nat} (enough : others.length < bound)
    (rest : Text) :
    itemsUpTo close item bound (write first ++ rowEnd s level outer close write others rest) =
      .ok (first :: others, rest) := by
  induction others generalizing first bound with
  | nil =>
    obtain ⟨bound, rfl⟩ := Nat.exists_eq_add_one_of_ne_zero (Nat.ne_zero_of_lt enough)
    have read : item (write first ++ rowEnd s level outer close write [] rest) = _ :=
      reads first List.mem_cons_self _ (ends_rowEnd separates closes [] rest)
    simp only [itemsUpTo, read, bind, Except.bind, skipSpace_rowEnd_nil closes, if_true]
  | cons other others ih =>
    obtain ⟨bound, rfl⟩ := Nat.exists_eq_add_one_of_ne_zero (Nat.ne_zero_of_lt enough)
    have read : item (write first ++ rowEnd s level outer close write (other :: others) rest) = _ :=
      reads first List.mem_cons_self _ (ends_rowEnd separates closes (other :: others) rest)
    have later := ih (fun x member => reads x (List.mem_cons_of_mem _ member))
      (fun x member => begins x (List.mem_cons_of_mem _ member)) (Nat.lt_of_succ_lt_succ enough)
    obtain ⟨t, comma, skipped⟩ :=
      skipSpace_rowEnd_cons level outer close separates (begins other List.mem_cons_self) others rest
    simp only [itemsUpTo, read, bind, Except.bind, comma, if_neg closes.ne_comma, if_true, skipped,
      later]

theorem length_following (separates : s.Separates) (items : List α) :
    items.length ≤ (following s level write items).length := by
  obtain ⟨gap, comma, -⟩ := separates.item
  induction items with
  | nil => exact Nat.zero_le _
  | cons x items ih =>
    simp only [following, List.flatMap_cons, List.length_append, List.length_cons, comma] at ih ⊢
    omega

/-- A bracket with items reads back when each single item does. -/
theorem bracketed_row (separates : s.Separates) (closes : Closes close) {first : α} {others : List α}
    (reads : ∀ x ∈ first :: others, ∀ rest, Ends rest → item (write x ++ rest) = .ok (x, rest))
    (begins : ∀ x ∈ first :: others, Begins (write x)) (rest : Text) :
    bracketed close item
        (s.lineBreak level ++ (write first ++ rowEnd s level outer close write others rest)) =
      .ok (first :: others, rest) := by
  have enough : others.length <
      (write first ++ rowEnd s level outer close write others rest).length := by
    have long : others.length ≤ (following s level write others).length :=
      length_following separates others
    simp only [rowEnd, List.length_append, List.length_cons]
    omega
  have row : itemsUpTo close item _ (write first ++ rowEnd s level outer close write others rest) = _ :=
    itemsUpTo_row separates closes reads (fun x member => begins x (List.mem_cons_of_mem _ member))
      enough rest
  have begin := begins first List.mem_cons_self
  rw [bracketed, skipSpace_append (lineBreak_blank s level), begin.skipSpace]
  obtain ⟨c, t, written, -, bracket, brace⟩ := begin
  have apart : c ≠ close := by
    rcases closes with rfl | rfl
    · exact bracket
    · exact brace
  rw [written, List.cons_append] at row ⊢
  simp only [if_neg apart, row]

theorem bracketed_empty (closes : Closes close) (rest : Text) :
    bracketed close item (close :: rest) = .ok ([], rest) := by
  simp only [bracketed, skipSpace_cons closes.solid, if_true]

end Row

theorem begins_of_digit {c : CodePoint} (digit : c.isAsciiDigit = true) (t : Text) : Begins (c :: t) := by
  refine ⟨c, t, rfl, ?_, ?_, ?_⟩
  · simp only [CodePoint.isAsciiDigit, Bool.and_eq_true, decide_eq_true_eq] at digit
    simp only [isSpace, Bool.or_eq_false_iff, beq_eq_false_iff_ne]
    omega
  all_goals
    rintro rfl
    exact absurd digit (by decide)

theorem begins_writeScalar {ascii : Bool} {x : Scalar} (readable : x.Readable ascii) :
    Begins (writeScalar ascii x) := by
  cases x with
  | null => exact ⟨'n', _, rfl, rfl, by decide, by decide⟩
  | truth b =>
    cases b with
    | true => exact ⟨'t', _, rfl, rfl, by decide, by decide⟩
    | false => exact ⟨'f', _, rfl, rfl, by decide, by decide⟩
  | integer i =>
    obtain ⟨c, t, digit, plain | minus⟩ := head_ofInt i
    · rw [writeScalar, plain]
      exact begins_of_digit digit t
    · exact ⟨'-', c :: t, minus, rfl, by decide, by decide⟩
  | real r => cases readable
  | text t => exact ⟨'"', _, rfl, rfl, by decide, by decide⟩

theorem begins_writeAt {s : Style} {depth : Nat} {v : Json} (readable : Readable s.ascii depth v)
    (level : Nat) : Begins (writeAt s level v) := by
  cases readable with
  | scalar readable => exact begins_writeScalar readable
  | @array items _ _ =>
    cases items with
    | nil => exact ⟨'[', _, rfl, rfl, by decide, by decide⟩
    | cons item rest => exact ⟨'[', _, rfl, rfl, by decide, by decide⟩
  | @object members _ _ _ _ =>
    cases members with
    | nil => exact ⟨'{', _, rfl, rfl, by decide, by decide⟩
    | cons member rest => exact ⟨'{', _, rfl, rfl, by decide, by decide⟩

/-- A member reads back when its value does. -/
theorem member_writeMember {s : Style} (separates : s.Separates) {level depth : Nat} {m : Text × Json}
    (name : s.ascii = true → Text.Unpaired m.1) (begins : Begins (writeAt s level m.2)) {rest : Text}
    (read : value depth (writeAt s level m.2 ++ rest) = .ok (m.2, rest)) :
    member (value depth) (writeMember s level m ++ rest) = .ok (m, rest) := by
  obtain ⟨gap, colon, blank⟩ := separates.name
  have separated : skipSpace ((':' : CodePoint) :: (gap ++ (writeAt s level m.2 ++ rest))) = _ :=
    skipSpace_cons (show isSpace ':' = false from rfl) _
  rw [writeMember, List.append_assoc, List.append_assoc, writeText_append, colon, List.cons_append]
  simp only [member, if_true, text?_escaped name, separated, skipSpace_append blank, begins.skipSpace,
    read, bind, Except.bind]

theorem writeAt_array (s : Style) (level : Nat) (item : Json) (items : List Json) (rest : Text) :
    writeAt s level (.array (item :: items)) ++ rest =
      ('[' : CodePoint) :: (s.lineBreak (level + 1) ++ (writeAt s (level + 1) item ++
        rowEnd s (level + 1) level ']' (writeAt s (level + 1)) items rest)) := by
  rw [writeAt, writeItems_eq]
  simp only [rowEnd, List.append_assoc]
  rfl

theorem writeAt_object (s : Style) (level : Nat) (member : Text × Json) (members : Members) (rest : Text) :
    writeAt s level (.object (member :: members)) ++ rest =
      ('{' : CodePoint) :: (s.lineBreak (level + 1) ++ (writeMember s (level + 1) member ++
        rowEnd s (level + 1) level '}' (writeMember s (level + 1)) members rest)) := by
  obtain ⟨name, value⟩ := member
  rw [writeAt, writeMembers_eq]
  simp only [rowEnd, writeMember, List.append_assoc]
  rfl

theorem value_array {depth : Nat} {t : Text} :
    value (depth + 1) (('[' : CodePoint) :: t) =
      (bracketed ']' (value depth) t).map fun (items, rest) => (.array items, rest) := by
  rw [value.eq_def]
  simp only [show ('[' : CodePoint) ≠ '"' by decide, if_false, if_true]
  cases bracketed ']' (value depth) t <;> rfl

theorem value_object {depth : Nat} {t : Text} :
    value (depth + 1) (('{' : CodePoint) :: t) =
      (bracketed '}' (member (value depth)) t).map fun (members, rest) =>
        (.object (Members.ofList members), rest) := by
  rw [value.eq_def]
  simp only [show ('{' : CodePoint) ≠ '"' by decide, show ('{' : CodePoint) ≠ '[' by decide, if_false,
    if_true]
  cases bracketed '}' (member (value depth)) t <;> rfl

/-- A value reads back from any level of nesting, whatever follows it that does not continue a number. -/
theorem value_writeAt {s : Style} (separates : s.Separates) {depth : Nat} {v : Json}
    (readable : Readable s.ascii depth v) (level : Nat) {rest : Text} (ends : Ends rest) :
    value depth (writeAt s level v ++ rest) = .ok (v, rest) := by
  induction readable generalizing level rest with
  | scalar readable => exact value_writeScalar readable _ ends
  | @array items depth each ih =>
    cases items with
    | nil =>
      change value (depth + 1) (('[' : CodePoint) :: (']' : CodePoint) :: rest) = _
      rw [value_array, bracketed_empty (.inl rfl)]
      rfl
    | cons item items =>
      rw [writeAt_array, value_array, bracketed_row separates (.inl rfl)]
      · rfl
      · exact fun x member rest ends => ih x member (level + 1) ends
      · exact fun x member => begins_writeAt (each x member) (level + 1)
  | @object members depth distinct names each ih =>
    cases members with
    | nil =>
      change value (depth + 1) (('{' : CodePoint) :: ('}' : CodePoint) :: rest) = _
      rw [value_object, bracketed_empty (.inr rfl)]
      rfl
    | cons m members =>
      rw [writeAt_object, value_object, bracketed_row separates (.inr rfl)]
      · rw [Except.map]
        simp only [Members.ofList_of_nodup distinct]
      · intro x member rest ends
        exact member_writeMember separates (names x member) (begins_writeAt (each x member) (level + 1))
          (ih x member (level + 1) ends)
      · exact fun x member => ⟨'"', _, rfl, rfl, by decide, by decide⟩

theorem ends_of_blank {gap : Text} (blank : ∀ c ∈ gap, isSpace c = true) : Ends gap := by
  intro c first
  have space := blank c (List.mem_of_mem_head? first)
  have apart {d : CodePoint} (solid : isSpace d = false) : c ≠ d := by
    rintro rfl
    rw [space] at solid
    contradiction
  refine ⟨?_, apart rfl, apart rfl, apart rfl⟩
  simp only [isSpace, Bool.or_eq_true, beq_iff_eq] at space
  simp only [CodePoint.isAsciiDigit, Bool.and_eq_false_iff, decide_eq_false_iff_not]
  omega

/-- Reading inverts writing, whatever white space follows. -/
theorem read_write_append {s : Style} (separates : s.Separates) {depth : Nat} {v : Json}
    (readable : Readable s.ascii depth v) {gap : Text} (blank : ∀ c ∈ gap, isSpace c = true) :
    read depth (write s v ++ gap) = .ok v := by
  have read : value depth (writeAt s 0 v ++ gap) = _ :=
    value_writeAt separates readable 0 (ends_of_blank blank)
  have begin := (begins_writeAt readable 0).skipSpace gap
  have dropped : skipSpace gap = [] := List.dropWhile_eq_nil_iff.mpr blank
  simp only [Json.read, write, begin, read, bind, Except.bind, dropped]
  rfl

theorem read_write {s : Style} (separates : s.Separates) {depth : Nat} {v : Json}
    (readable : Readable s.ascii depth v) : read depth (write s v) = .ok v := by
  rw [← List.append_nil (write s v)]
  exact read_write_append separates readable fun _ member => nomatch member

/-- Every reader that follows so many brackets reads the text as the value. -/
def ReadsAs (brackets : Nat) (t : Text) (v : Json) : Prop :=
  ∀ depth, brackets ≤ depth → read depth t = .ok v

theorem readsAs_write_append {s : Style} (separates : s.Separates) {brackets : Nat} {v : Json}
    (readable : Readable s.ascii brackets v) {gap : Text} (blank : ∀ c ∈ gap, isSpace c = true) :
    ReadsAs brackets (write s v ++ gap) v := by
  intro depth followed
  exact read_write_append separates (readable.deepen followed) blank

theorem readsAs_write {s : Style} (separates : s.Separates) {brackets : Nat} {v : Json}
    (readable : Readable s.ascii brackets v) : ReadsAs brackets (write s v) v := by
  intro depth followed
  exact read_write separates (readable.deepen followed)

end Json
end BlobVault
