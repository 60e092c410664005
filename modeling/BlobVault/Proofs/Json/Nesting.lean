import BlobVault.Proofs.Json.Reading

/-! Which texts the reader refuses as nested too deep. A scanner that knows strings and brackets, and
nothing else of JSON, counts the brackets that are open. Every reader moves it over what it reads: a value
leaves as many brackets open as it found, and is refused as too deep only where more of them are open
than the reader follows. -/
namespace BlobVault.Json

open Reader

inductive Mode where
  | bare
  | quoted
  | escaped
  deriving DecidableEq

structure Scan where
  opened : Nat
  mode : Mode
  deriving DecidableEq

def Scan.step (s : Scan) (c : CodePoint) : Scan :=
  match s.mode with
  | .escaped => ⟨s.opened, .quoted⟩
  | .quoted =>
    if c = '"' then ⟨s.opened, .bare⟩ else if c = '\\' then ⟨s.opened, .escaped⟩ else s
  | .bare =>
    if c = '"' then ⟨s.opened, .quoted⟩
    else if c = '[' ∨ c = '{' then ⟨s.opened + 1, .bare⟩
    else if c = ']' ∨ c = '}' then ⟨s.opened - 1, .bare⟩
    else s

/-- The most brackets that are open at once while a text is scanned. -/
def Scan.deepest (s : Scan) : Text → Nat
  | [] => s.opened
  | c :: rest => max s.opened ((s.step c).deepest rest)

/-- How deep the brackets of a text are nested, those in strings left out. -/
def nesting (t : Text) : Nat := Scan.deepest ⟨0, .bare⟩ t

def Leads (s : Scan) (t : Text) (s' : Scan) (rest : Text) : Prop :=
  ∃ front, t = front ++ rest ∧ front.foldl Scan.step s = s'

namespace Leads

theorem refl (s : Scan) (t : Text) : Leads s t s t := ⟨[], rfl, rfl⟩

theorem step (s : Scan) (c : CodePoint) (rest : Text) : Leads s (c :: rest) (s.step c) rest :=
  ⟨[c], rfl, rfl⟩

theorem trans {s s' s'' : Scan} {t t' t'' : Text} (first : Leads s t s' t') (second : Leads s' t' s'' t'') :
    Leads s t s'' t'' := by
  obtain ⟨front, rfl, rfl⟩ := first
  obtain ⟨back, rfl, rfl⟩ := second
  exact ⟨front ++ back, (List.append_assoc _ _ _).symm, List.foldl_append⟩

theorem deepest_le {s s' : Scan} {t rest : Text} (leads : Leads s t s' rest) :
    s'.deepest rest ≤ s.deepest t := by
  obtain ⟨front, rfl, rfl⟩ := leads
  induction front generalizing s with
  | nil => exact Nat.le_refl _
  | cons c front ih =>
    rw [List.cons_append, Scan.deepest]
    exact (ih (s := s.step c)).trans (Nat.le_max_right _ _)

end Leads

theorem Scan.opened_le_deepest (s : Scan) (t : Text) : s.opened ≤ s.deepest t := by
  cases t with
  | nil => exact Nat.le_refl _
  | cons c rest => exact Nat.le_max_left _ _

def Neutral (c : CodePoint) : Prop := c ≠ '"' ∧ c ≠ '[' ∧ c ≠ '{' ∧ c ≠ ']' ∧ c ≠ '}'

instance decidableNeutral : DecidablePred Neutral := fun _ => inferInstanceAs (Decidable (_ ∧ _))

def Passes (t rest : Text) : Prop := ∃ front, t = front ++ rest ∧ ∀ c ∈ front, Neutral c

namespace Passes

theorem refl (t : Text) : Passes t t := ⟨[], rfl, fun _ member => nomatch member⟩

theorem cons {c : CodePoint} (neutral : Neutral c) {t rest : Text} (passes : Passes t rest) :
    Passes (c :: t) rest := by
  obtain ⟨front, rfl, each⟩ := passes
  exact ⟨c :: front, rfl, List.forall_mem_cons.mpr ⟨neutral, each⟩⟩

theorem trans {t t' t'' : Text} (first : Passes t t') (second : Passes t' t'') : Passes t t'' := by
  obtain ⟨front, rfl, each⟩ := first
  obtain ⟨back, rfl, others⟩ := second
  exact ⟨front ++ back, (List.append_assoc _ _ _).symm, List.forall_mem_append.mpr ⟨each, others⟩⟩

theorem leads {t rest : Text} (passes : Passes t rest) (n : Nat) : Leads ⟨n, .bare⟩ t ⟨n, .bare⟩ rest := by
  obtain ⟨front, rfl, each⟩ := passes
  refine ⟨front, rfl, ?_⟩
  induction front with
  | nil => rfl
  | cons c front ih =>
    obtain ⟨⟨quote, bracket, brace, closing, ending⟩, later⟩ := List.forall_mem_cons.mp each
    have still : Scan.step ⟨n, .bare⟩ c = ⟨n, .bare⟩ := by
      simp only [Scan.step, quote, bracket, brace, closing, ending, or_self, if_false]
    rw [List.foldl_cons, still]
    exact ih later

end Passes

/-- A run of neutral code points at the beginning of a text. -/
theorem passes_run {p : CodePoint → Bool} (neutral : ∀ c, p c = true → Neutral c) (t : Text) :
    Passes t (t.drop (t.takeWhile p).length) :=
  ⟨t.takeWhile p, List.prefix_iff_eq_append.mp (List.takeWhile_prefix p) |>.symm,
    fun c member => neutral c (List.mem_takeWhile_imp member)⟩

theorem neutral_of_isSpace {c : CodePoint} (space : isSpace c = true) : Neutral c := by
  refine ⟨?_, ?_, ?_, ?_, ?_⟩ <;> rintro rfl <;> exact absurd space (by decide)

theorem neutral_of_digit {c : CodePoint} (digit : c.isAsciiDigit = true) : Neutral c := by
  refine ⟨?_, ?_, ?_, ?_, ?_⟩ <;> rintro rfl <;> exact absurd digit (by decide)

theorem passes_skipSpace (t : Text) : Passes t (skipSpace t) :=
  ⟨t.takeWhile isSpace, List.takeWhile_append_dropWhile.symm,
    fun _ member => neutral_of_isSpace (List.mem_takeWhile_imp member)⟩

theorem eq_of_after? {word t rest : Text} (read : after? word t = some rest) : t = word ++ rest := by
  fun_induction after? word t with
  | case1 =>
    cases read
    rfl
  | case3 w word t ih => exact congrArg _ (ih read)
  | case2 | case4 => cases read

theorem passes_word? {t rest : Text} {s : Scalar} (read : word? t = some (s, rest)) : Passes t rest := by
  have neutral : words.all (fun entry => entry.1.all fun c => decide (Neutral c)) = true := rfl
  obtain ⟨entry, known, found⟩ := List.exists_of_findSome?_eq_some read
  obtain ⟨left, behind, same⟩ := Option.map_eq_some_iff.mp found
  cases same
  have letters := List.all_eq_true.mp (List.all_eq_true.mp neutral entry known)
  exact ⟨entry.1, eq_of_after? behind, fun c member => of_decide_eq_true (letters c member)⟩

theorem passes_whole? {t digits rest : Text} (read : whole? t = some (digits, rest)) : Passes t rest := by
  unfold whole? at read
  split at read
  · cases read
  split at read
  · rename_i zero
    cases read
    exact .cons (neutral_of_digit (zero ▸ rfl)) (.refl _)
  · dsimp only at read
    split at read
    · cases read
    · cases read
      exact passes_run (fun _ => neutral_of_digit) _

theorem passes_fraction (t : Text) : Passes t (fraction t).2 := by
  unfold fraction
  split
  · exact .refl _
  · dsimp only
    split
    · rename_i point
      exact .cons (point.1 ▸ by decide) (passes_run (fun _ => neutral_of_digit) _)
    · exact .refl _

theorem passes_splitSign (t : Text) : Passes t (Integer.splitSign t).2 := by
  unfold Integer.splitSign
  split
  · exact .refl _
  split
  · rename_i minus
    exact .cons (minus ▸ by decide) (.refl _)
  split
  · rename_i plus
    exact .cons (plus ▸ by decide) (.refl _)
  · exact .refl _

theorem passes_exponent (t : Text) : Passes t (exponent t).2 := by
  unfold exponent
  split
  · exact .refl _
  split
  · rename_i mark
    dsimp only
    split
    · exact .refl _
    · refine .cons ?_ ((passes_splitSign _).trans (passes_run (fun _ => neutral_of_digit) _))
      rcases mark with rfl | rfl <;> decide
  · exact .refl _

theorem passes_number? {t rest : Text} {s : Scalar} (read : number? t = some (s, rest)) :
    Passes t rest := by
  unfold number? at read
  split at read
  rename_i negative unsigned signed
  have sign : Passes t unsigned := by
    split at signed
    · cases signed
      exact .refl _
    split at signed
    · rename_i minus
      cases signed
      exact .cons (minus ▸ by decide) (.refl _)
    · cases signed
      exact .refl _
  split at read
  · cases read
  · rename_i digits left whole
    have number : Passes t (exponent (fraction left).2).2 :=
      sign.trans ((passes_whole? whole).trans ((passes_fraction left).trans (passes_exponent _)))
    dsimp only at read
    split at read
    · split at read
      · cases read
      · cases read
        exact number
    · cases read
      exact number

/-- A code point within a string, between the quotes and outside of escapes. -/
theorem leads_plain {c : CodePoint} (quote : c ≠ '"') (escape : c ≠ '\\') (n : Nat) (rest : Text) :
    Leads ⟨n, .quoted⟩ (c :: rest) ⟨n, .quoted⟩ rest := by
  refine ⟨[c], rfl, ?_⟩
  simp only [List.foldl_cons, List.foldl_nil, Scan.step, quote, escape, if_false]

theorem leads_escape (n : Nat) (e : CodePoint) (rest : Text) :
    Leads ⟨n, .quoted⟩ (('\\' : CodePoint) :: e :: rest) ⟨n, .quoted⟩ rest :=
  .trans (.step _ _ _) (.step _ e rest)

theorem leads_hexDigit {c : CodePoint} {d : Nat} (digit : Hex.digitValue? c = some d) (n : Nat)
    (rest : Text) : Leads ⟨n, .quoted⟩ (c :: rest) ⟨n, .quoted⟩ rest := by
  apply leads_plain <;>
  · rintro rfl
    cases digit

theorem leads_unit? {a b c d : CodePoint} {unit : Nat} (read : unit? a b c d = some unit) (n : Nat)
    (rest : Text) : Leads ⟨n, .quoted⟩ (a :: b :: c :: d :: rest) ⟨n, .quoted⟩ rest := by
  unfold unit? at read
  split at read
  · rename_i first second third fourth
    exact (leads_hexDigit first n _).trans ((leads_hexDigit second n _).trans
      ((leads_hexDigit third n _).trans (leads_hexDigit fourth n _)))
  · cases read

theorem leads_pieces? {t : Text} (n : Nat) :
    ∀ found rest, pieces? t = some (found, rest) → Leads ⟨n, .quoted⟩ t ⟨n, .bare⟩ rest := by
  -- One more piece in front does not change what is left behind the closing quote.
  have behind {t rest : Text} {found : List Piece} {longer : List Piece × Text → List Piece × Text}
      (read : (pieces? t).map longer = some (found, rest)) (keeps : ∀ x, (longer x).2 = x.2) :
      ∃ later, pieces? t = some (later, rest) := by
    obtain ⟨⟨later, left⟩, pieces, same⟩ := Option.map_eq_some_iff.mp read
    have kept := keeps (later, left)
    rw [same] at kept
    obtain rfl : rest = left := kept
    exact ⟨later, pieces⟩
  fun_induction pieces? t with
  | case1 | case3 | case5 | case6 | case8 | case9 =>
    intro found rest read
    cases read
  | case2 rest =>
    intro found left read
    cases read
    exact .step _ _ _
  | case4 a b c d rest unit units _ ih =>
    intro found left read
    obtain ⟨later, pieces⟩ := behind read fun _ => rfl
    exact (leads_escape n _ _).trans ((leads_unit? units n rest).trans (ih later left pieces))
  | case7 e rest _ c named _ ih =>
    intro found left read
    obtain ⟨later, pieces⟩ := behind read fun _ => rfl
    exact (leads_escape n e rest).trans (ih later left pieces)
  | case10 c rest quote escape _ ih =>
    intro found left read
    obtain ⟨later, pieces⟩ := behind read fun _ => rfl
    exact (leads_plain quote escape n rest).trans (ih later left pieces)

theorem leads_text? {t content rest : Text} (read : text? t = some (content, rest)) (n : Nat) :
    Leads ⟨n, .bare⟩ (('"' : CodePoint) :: t) ⟨n, .bare⟩ rest := by
  obtain ⟨⟨found, left⟩, pieces, same⟩ := Option.map_eq_some_iff.mp read
  cases same
  exact (Leads.step _ _ _).trans (leads_pieces? n found rest pieces)

theorem Closes.leads {close : CodePoint} (closes : Closes close) (n : Nat) (rest : Text) :
    Leads ⟨n + 1, .bare⟩ (close :: rest) ⟨n, .bare⟩ rest := by
  rcases closes with rfl | rfl <;> exact .step _ _ rest

/-- The result of a reader on a text agrees with the scanner: what is taken closes `fall` brackets more than
it opens, and what is refused as too deep opens more than `depth` on top of those that were open. -/
def Balanced (fall depth : Nat) (t : Text) : Except Reader.Fault (α × Text) → Prop
  | .ok (_, rest) => ∀ n, Leads ⟨n + fall, .bare⟩ t ⟨n, .bare⟩ rest
  | .error .malformed => True
  | .error (.tooDeep _) => ∀ n, n + fall + depth < Scan.deepest ⟨n + fall, .bare⟩ t

namespace Balanced

variable {fall depth : Nat} {t t' : Text}

theorem after {result : Except Reader.Fault (α × Text)} {before : Nat}
    (leads : ∀ n, Leads ⟨n + before, .bare⟩ t ⟨n + fall, .bare⟩ t') (balanced : Balanced fall depth t' result)
    (deep : before + depth' ≤ fall + depth) : Balanced before depth' t result := by
  match result with
  | .ok (_, rest) => exact fun n => (leads n).trans (balanced n)
  | .error .malformed => trivial
  | .error (.tooDeep _) =>
    intro n
    have more := (balanced n).trans_le (leads n).deepest_le
    omega

/-- Neutral code points in front change nothing. -/
theorem behind {result : Except Reader.Fault (α × Text)} (passes : Passes t t')
    (balanced : Balanced fall depth t' result) : Balanced fall depth t result :=
  balanced.after (fun n => passes.leads (n + fall)) (Nat.le_refl _)

/-- An opening bracket in front makes up for a closing one, and for one level of nesting. -/
theorem opened {result : Except Reader.Fault (α × Text)} {bracket : CodePoint}
    (opens : bracket = '[' ∨ bracket = '{') (balanced : Balanced 1 depth t result) :
    Balanced 0 (depth + 1) (bracket :: t) result := by
  refine balanced.after (fun n => ?_) (by omega)
  rcases opens with rfl | rfl <;> exact .step _ _ t

/-- A reader and then another one on the rest. -/
theorem bind {read : Except Reader.Fault (α × Text)} {next : α × Text → Except Reader.Fault (β × Text)}
    (first : Balanced 0 depth t read)
    (second : ∀ x rest, Balanced fall depth rest (next (x, rest))) :
    Balanced fall depth t (read >>= next) := by
  match read with
  | .ok (x, rest) => exact (second x rest).after (fun n => first (n + fall)) (Nat.le_refl _)
  | .error .malformed => trivial
  | .error (.tooDeep _) => exact fun n => first (n + fall)

/-- What is made of the value of a reader does not matter. -/
theorem map {read : Except Reader.Fault (α × Text)} (balanced : Balanced fall depth t read) (f : α → β) :
    Balanced fall depth t (do let (x, rest) ← read; .ok (f x, rest)) := by
  match read with
  | .ok _ | .error .malformed | .error (.tooDeep _) => exact balanced

/-- A bracket that is one too many. -/
theorem refused {bracket : CodePoint} (opens : bracket = '[' ∨ bracket = '{') (rest : Text)
    (container : Container) :
    Balanced 0 0 (bracket :: rest) (.error (.tooDeep container) : Except Reader.Fault (α × Text)) := by
  intro n
  have deeper : (Scan.step ⟨n, .bare⟩ bracket).opened = n + 1 := by
    rcases opens with rfl | rfl <;> rfl
  have leads := (Leads.step ⟨n, .bare⟩ bracket rest).deepest_le
  have least := (Scan.step ⟨n, .bare⟩ bracket).opened_le_deepest rest
  rw [deeper] at least
  exact least.trans leads

end Balanced

section Row

variable {depth : Nat} {item : Text → Except Reader.Fault (α × Text)}
  (balanced : ∀ t, Balanced 0 depth t (item t)) {close : CodePoint} (closes : Closes close)
include balanced closes

theorem balanced_itemsUpTo (bound : Nat) (t : Text) : Balanced 1 depth t (itemsUpTo close item bound t) := by
  induction bound generalizing t with
  | zero => trivial
  | succ bound ih =>
    rw [itemsUpTo]
    refine .bind (balanced t) fun first rest => .behind (passes_skipSpace rest) ?_
    dsimp only
    generalize skipSpace rest = left
    split
    · trivial
    rename_i c behind
    split
    · rename_i closing
      subst closing
      exact fun n => closes.leads n behind
    split
    · rename_i comma
      refine .behind (.cons (comma ▸ by decide) (passes_skipSpace behind)) ?_
      exact (ih (skipSpace behind)).map _
    · trivial

theorem balanced_bracketed (t : Text) : Balanced 1 depth t (bracketed close item t) := by
  refine .behind (passes_skipSpace t) ?_
  unfold bracketed
  generalize skipSpace t = left
  split
  · trivial
  rename_i c rest
  split
  · rename_i closing
    subst closing
    exact fun n => closes.leads n rest
  · exact balanced_itemsUpTo balanced closes _ _

end Row

theorem balanced_member {depth : Nat} {value : Text → Except Reader.Fault (Json × Text)}
    (balanced : ∀ t, Balanced 0 depth t (value t)) (t : Text) : Balanced 0 depth t (member value t) := by
  unfold member
  split
  · trivial
  rename_i c behind
  split
  · rename_i quote
    subst quote
    split
    · trivial
    rename_i name rest named
    have quoted (n : Nat) : Leads ⟨n + 0, .bare⟩ (('"' : CodePoint) :: behind) ⟨n + 0, .bare⟩ rest :=
      leads_text? named n
    refine .after quoted (.behind (passes_skipSpace rest) ?_) (Nat.le_refl _)
    generalize skipSpace rest = left
    split
    · trivial
    rename_i sign rest
    split
    · rename_i colon
      refine .behind (.cons (colon ▸ by decide) (passes_skipSpace rest)) ?_
      exact (balanced (skipSpace rest)).map _
    · trivial
  · trivial

/-- The brackets of a value hold values that are nested less deep, so that one more is open for each. -/
theorem balanced_value (depth : Nat) (t : Text) : Balanced 0 depth t (value depth t) := by
  induction depth using Nat.strongRecOn generalizing t with
  | ind depth ih =>
    rw [value.eq_def]
    split
    · trivial
    rename_i c rest
    split
    · rename_i quote
      subst quote
      split
      · rename_i content left read
        exact leads_text? read
      · trivial
    split
    · rename_i bracket
      split
      · exact .refused (.inl bracket) rest _
      · rename_i depth
        have row := balanced_bracketed (ih depth depth.lt_succ_self) (.inl rfl) rest
        exact (row.opened (.inl bracket)).map _
    split
    · rename_i brace
      split
      · exact .refused (.inr brace) rest _
      · rename_i depth
        have row := balanced_bracketed (balanced_member (ih depth depth.lt_succ_self)) (.inr rfl) rest
        exact (row.opened (.inr brace)).map fun members => Json.object (Members.ofList members)
    split
    · rename_i word
      exact (passes_word? word).leads
    split
    · rename_i number
      exact (passes_number? number).leads
    · trivial

/-- A text that is refused as too deep has more brackets open somewhere than the reader follows. -/
theorem deep_of_refused {depth : Nat} {t : Text} {container : Container}
    (refused : Json.read depth t = .error (.tooDeep container)) : depth < nesting t := by
  have balanced : Balanced 0 depth t (value depth (skipSpace t)) :=
    .behind (passes_skipSpace t) (balanced_value depth _)
  unfold Json.read at refused
  cases found : value depth (skipSpace t) with
  | ok taken =>
    rw [found] at refused
    change (if _ then _ else _) = _ at refused
    split at refused <;> cases refused
  | error fault =>
    rw [found] at refused balanced
    cases refused
    exact (Nat.zero_add depth) ▸ balanced 0

/-- More brackets than the reader follows, one inside the other, are refused whatever comes behind them. -/
theorem value_brackets {depth n : Nat} (deep : depth < n) (rest : Text) :
    value depth (List.replicate n ('[' : CodePoint) ++ rest) = .error (.tooDeep .array) := by
  have apart : ('[' : CodePoint) ≠ ']' := by decide
  induction depth generalizing n with
  | zero =>
    obtain ⟨n, rfl⟩ := Nat.exists_eq_add_one_of_ne_zero (Nat.ne_zero_of_lt deep)
    rfl
  | succ depth ih =>
    obtain ⟨n, rfl⟩ : ∃ k, n = k + 2 := ⟨n - 2, by omega⟩
    have inner := ih (Nat.lt_of_succ_lt_succ deep)
    rw [List.replicate_succ, List.cons_append] at inner
    rw [List.replicate_succ, List.cons_append, value_array, List.replicate_succ, List.cons_append, bracketed,
      skipSpace_cons rfl]
    simp only [if_neg apart, List.length_cons, itemsUpTo, inner]
    rfl

theorem read_brackets {depth n : Nat} (deep : depth < n) (rest : Text) :
    Json.read depth (List.replicate n ('[' : CodePoint) ++ rest) = .error (.tooDeep .array) := by
  have refused := value_brackets deep rest
  obtain ⟨n, rfl⟩ := Nat.exists_eq_add_one_of_ne_zero (Nat.ne_zero_of_lt deep)
  rw [List.replicate_succ, List.cons_append] at refused ⊢
  rw [Json.read, skipSpace_cons rfl, refused]
  rfl

end BlobVault.Json
