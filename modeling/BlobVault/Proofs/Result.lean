import BlobVault.Proofs.Action
import BlobVault.Proofs.Json.Shown
import BlobVault.Proofs.Storage.BlobId

/-! Results on the output. Printing a value that reads back cannot fail, and what is printed is plain ASCII
that reads as the value again. The ids of stored blobs are texts that read back. -/
namespace BlobVault

namespace Json

theorem areWritable_eq_all (items : List Json) : areWritable items = items.all isWritable := by
  induction items with
  | nil => rfl
  | cons item rest ih => rw [areWritable, ih, List.all_cons]

theorem membersAreWritable_eq_all (members : Members) :
    membersAreWritable members = members.all fun member => member.2.isWritable := by
  induction members with
  | nil => rfl
  | cons member rest ih =>
    obtain ⟨name, value⟩ := member
    rw [membersAreWritable, ih, List.all_cons]

theorem isWritable_of_readable {ascii : Bool} {depth : Nat} {v : Json}
    (readable : Readable ascii depth v) : v.isWritable = true := by
  induction readable with
  | @scalar x depth readable =>
    rw [isWritable]
    cases x with
    | integer i =>
      change i.natAbs < Integer.bound at readable
      rw [Scalar.isWritable, Integer.text?, if_pos readable]
      rfl
    | null | truth _ | real _ | text _ => rfl
  | array each ih =>
    rw [isWritable, areWritable_eq_all, List.all_eq_true]
    exact ih
  | object distinct names each ih =>
    rw [isWritable, membersAreWritable_eq_all, List.all_eq_true]
    exact ih

end Json

/-- An object is readable when its names are distinct and hold no surrogates and each of its values is
readable. -/
theorem Json.Readable.ofNames {members : Members} {depth : Nat} (names : List Text)
    (named : members.map Prod.fst = names) (distinct : names.Nodup)
    (plain : ∀ name ∈ names, name.hasSurrogate = false)
    (each : ∀ member ∈ members, Readable true depth member.2) :
    Readable true (depth + 1) (.object members) := by
  subst named
  refine .object distinct (fun member inside _ => ?_) each
  exact Text.unpaired_of_plain (plain _ (List.mem_map_of_mem inside))

/-- The page of a result: its members as indented JSON, and a line break. -/
def Json.page (members : Members) : Text := (Json.object members).write .indented ++ "\n"

namespace Json

variable {members : Members} {depth : Nat} (readable : Readable true depth (.object members))
include readable

theorem shown_page : Shown true ((object members).write .indented) :=
  shown_writeAt indented_separates readable 0

theorem remove_page :
    ControlSequence.remove ((object members).write .indented) = (object members).write .indented :=
  ControlSequence.remove_of_clear (shown_page readable).clear

theorem readsAs_page : ReadsAs depth (page members) (.object members) :=
  readsAs_write_append indented_separates readable (List.forall_mem_singleton.mpr rfl)

end Json

/-- What is printed of a readable result is its page. -/
theorem Action.printJson_eq {members : Members} {depth : Nat}
    (readable : Json.Readable true depth (.object members)) (w : World) :
    (printJson members).run w = (.ok (), w.printed (Json.page members)) := by
  rw [printJson, if_pos (Json.isWritable_of_readable readable), run_print, Json.remove_page readable, Json.page]

/-- A readable result is printed as a text that reads back. -/
theorem Action.printJson_run {members : Members} {depth : Nat}
    (readable : Json.Readable true depth (.object members)) (w : World) :
    ∃ shown, (printJson members).run w = (.ok (), w.printed shown) ∧
      Json.ReadsAs depth shown (.object members) :=
  ⟨Json.page members, printJson_eq readable w, Json.readsAs_page readable⟩

/-- The text of an object ends with its brace. -/
theorem Json.getLast?_object (s : Style) (level : Nat) (members : Members) :
    (writeAt s level (.object members)).getLast? = some '}' := by
  cases members with
  | nil => rfl
  | cons m members =>
    rw [← List.append_nil (writeAt s level _), writeAt_object]
    simp only [rowEnd, ← List.append_assoc, ← List.cons_append, List.getLast?_append]
    rfl

/-- Nothing of a result is lost. An object whose parts are readable is printed, in ASCII and with one line
break at its end, no control sequence in it is removed, and it reads as the same members in the same order,
whenever the reader follows its brackets. The id in a response is a text that can be such a part. -/
theorem Action.printJson_lossless :
    (∀ depth members, Json.Readable true depth (.object members) → ∀ w, ∃ shown,
      (printJson members).run w = (.ok (), w.printed (shown ++ "\n")) ∧
      shown.getLast? = some '}' ∧ (∀ c ∈ shown, c.val < 0x80) ∧ ControlSequence.remove shown = shown ∧
      Json.ReadsAs depth (shown ++ "\n") (.object members)) ∧
    ∀ readDepth body id, BlobId.parse readDepth (Utf8.decodeLossy body) = .ok id → id.Unpaired := by
  constructor
  · intro depth members readable w
    refine ⟨(Json.object members).write .indented, printJson_eq readable w, ?_, ?_, ?_, ?_⟩
    · exact Json.getLast?_object .indented 0 members
    · intro c inside
      have visible := (Json.shown_page readable c inside).2 rfl
      omega
    · exact Json.remove_page readable
    · exact Json.readsAs_page readable
  · intro readDepth body id parsed
    exact BlobId.unpaired_parse (Utf8.plain_decodeLossy body) parsed

/-- An object of all kinds of values whose texts hold an escape sequence, a line break, a lone surrogate and a
code point of two units, and a response whose id ends with a pair and half of one. -/
theorem Action.printJson_lossless_controls :
    let t : Text := [0x1B, 0x5B, 0x6D, 0x0A, 0xDC00, 0xD800, 0x1F600]
    let members : Members := [(t, .text t), ("whole", .scalar (.integer (-5))), ("truth", .truth true),
      ("null", .scalar .null), ("list", .array [.text t, .nat 7]), ("object", .object [(t, .text [])])]
    let w : World := ⟨⟨[], []⟩, [], [], [], [], [], []⟩
    (∃ shown, (printJson members).run w = (.ok (), w.printed (shown ++ "\n")) ∧
      (∀ c ∈ shown, c.val < 0x80) ∧ Json.ReadsAs 2 (shown ++ "\n") (.object members)) ∧
    Text.Unpaired [0x61, 0x1F600, 0xDC00] := by
  intro t members w
  have unpaired : t.Unpaired := by
    unfold Text.Unpaired
    decide
  have written (depth : Nat) : Json.Readable true depth (.text t) := .scalar fun _ => unpaired
  have whole {i : Int} (short : i.natAbs < 10) (depth : Nat) :
      Json.Readable true depth (.scalar (.integer i)) :=
    .scalar (Nat.lt_trans short (Integer.pow_lt_bound (k := 1) (by decide)))
  have readable : Json.Readable true 2 (.object members) := by
    apply Json.Readable.object
    · decide
    · intro member inside _
      have names : ∀ name ∈ members.map Prod.fst, name = t ∨ name.hasSurrogate = false := by decide
      rcases names _ (List.mem_map_of_mem inside) with same | plain
      · exact same ▸ unpaired
      · exact Text.unpaired_of_plain plain
    · simp only [members, List.forall_mem_cons]
      refine ⟨written _, whole (by decide) _, .scalar trivial, .scalar trivial, ?_, ?_, ?_⟩
      · exact .array (List.forall_mem_cons.mpr ⟨written _, List.forall_mem_singleton.mpr (whole (by decide) _)⟩)
      · exact .single (fun _ => unpaired) (.scalar fun _ => .nil)
      · exact fun _ inside => nomatch inside
  obtain ⟨prints, ids⟩ := printJson_lossless
  obtain ⟨shown, printed, -, ascii, -, read⟩ := prints 2 members readable w
  refine ⟨⟨shown, printed, ascii, read⟩, ids 2 (Text.utf8
    "\x7b\"newlyCreated\": \x7b\"blobId\": \"a\\ud83d\\ude00\\udc00\"\x7d\x7d") _ ?_⟩
  decide +kernel

end BlobVault
