import BlobVault.Proofs.Coupling
import BlobVault.Proofs.Vault.Ending

/-! Two runs of storing that draw different key material. They end alike, show the same and make the same
requests, but for the key in the receipt and the octets of the payloads. -/
namespace BlobVault

open BlobVault.Action (Returns Agree Couples)

/-- The next two draws are the first key material in one world and the second in the other. -/
def KeyMaterial.Next (m n : KeyMaterial) (draws others : List Draw) : Prop :=
  draws.take 2 = [some m.key, some m.nonce] ∧ others.take 2 = [some n.key, some n.nonce]

namespace Envelope

variable (m n : KeyMaterial) (plaintext : Bytes)

theorem encryptWith_agree :
    Agree (fun c d => c.length = d.length) (encryptWith none m plaintext) (encryptWith none n plaintext) := by
  unfold encryptWith sealWith
  by_cases long : maxSize < plaintext.length
  · simp only [if_pos long]
    exact .error _
  · simp only [if_neg long]
    exact .ok ((Cipher.Gcm.length_encrypt _ _ _).trans (Cipher.Gcm.length_encrypt _ _ _).symm)

/-- Encrypting under other key material gives a ciphertext of the same length, or fails alike. -/
theorem encrypt_couples :
    Couples (m.Next n) AnyDraws (fun x y => x.1.length = y.1.length ∧ x.2 = m ∧ y.2 = n)
      (encrypt none plaintext) (encrypt none plaintext) := by
  intro w v alike
  rw [encrypt_run, encrypt_run, KeyMaterial.ofDraws?_next_iff.mpr alike.draws.1,
    KeyMaterial.ofDraws?_next_iff.mpr alike.draws.2]
  refine ⟨?_, alike.drawn _⟩
  dsimp only
  have agree := encryptWith_agree m n plaintext
  generalize encryptWith none m plaintext = first at agree ⊢
  generalize encryptWith none n plaintext = second at agree ⊢
  cases agree with
  | ok size => exact .ok ⟨size, rfl, rfl⟩
  | error cause => exact .error cause

end Envelope

namespace Client

theorem firstSuccess_couples {judge : Text → Reply → Verdict α} {report : Text → VaultError}
    {candidates others : List Request} (matching : List.Forall₂ Request.Matches candidates others)
    (detail : Text) :
    Couples AnyDraws AnyDraws Eq (firstSuccess judge report candidates detail)
      (firstSuccess judge report others detail) := by
  induction matching generalizing detail with
  | nil => exact .throw _
  | @cons c d _ _ first _ ih =>
    refine .bind (.send first) fun r _ same => ?_
    subst same
    rw [first.url]
    cases judge c.url r with
    | error cause => exact .throw cause
    | ok settled =>
      cases settled with
      | ok value => exact .pure rfl
      | error next => exact ih next

/-- Uploads of the same length are answered alike. -/
theorem put_couples (s : Session) {payload other : Bytes} (sized : payload.length = other.length)
    (epochs : Int) : Couples AnyDraws AnyDraws Eq (put s payload epochs) (put s other epochs) := by
  have matching (shown path : Text) :
      (storeRequest s payload shown path).Matches (storeRequest s other shown path) :=
    ⟨rfl, congrArg some sized⟩
  cases written : Integer.text? epochs with
  | none =>
    rw [put_of_tooLong written, put_of_tooLong written]
    exact .throw _
  | some shown =>
    rw [put_eq payload written, put_eq other written]
    exact firstSuccess_couples (.cons (matching shown _) (.cons (matching shown _) .nil)) []

end Client

namespace Store

variable {known : List Draw → List Draw → Prop}

theorem regularFile?_couples (file : FilePath) :
    Couples known known Eq (regularFile? file) (regularFile? file) := by
  intro w v alike
  rw [regularFile?_run, regularFile?_run, alike.files]
  exact ⟨.refl _, alike⟩

theorem readPlaintext_couples (file : FilePath) :
    Couples known known Eq (readPlaintext file) (readPlaintext file) := by
  refine .bind_of (regularFile?_couples file) (fun content _ same => ?_) id
  subst same
  split
  · exact .throw _
  · exact .throw _
  · exact .pure rfl

theorem traceEpochs_couples (o : StoreOptions) :
    Couples AnyDraws AnyDraws Eq (traceEpochs o) (traceEpochs o) := by
  unfold traceEpochs
  split
  · refine .bind (.ofExcept (.refl _)) fun line _ same => ?_
    subst same
    exact .report line
  · exact .pure rfl

structure Parcel.Twins (m n : KeyMaterial) (p q : Parcel) : Prop where
  plaintext : p.plaintext = q.plaintext
  size : p.ciphertext.length = q.ciphertext.length
  first : p.material = m
  second : q.material = n

theorem prepare_couples (m n : KeyMaterial) (o : StoreOptions) (s : Session) :
    Couples (m.Next n) AnyDraws (Parcel.Twins m n) (prepare o s) (prepare o s) := by
  unfold prepare
  refine .bind (.report _) fun _ _ _ => ?_
  refine .bind (readPlaintext_couples o.file) fun plaintext _ same => ?_
  subst same
  refine .bind (.report _) fun _ _ _ => ?_
  refine .bind (.report _) fun _ _ _ => ?_
  refine .bind (.report _) fun _ _ _ => ?_
  refine .bind (.report _) fun _ _ _ => ?_
  refine .bind (Envelope.encrypt_couples m n plaintext) fun x y same => ?_
  obtain ⟨ciphertext, _⟩ := x
  obtain ⟨other, _⟩ := y
  obtain ⟨size, rfl, rfl⟩ := same
  dsimp only at size ⊢
  rw [size]
  refine .bind (.report _) fun _ _ _ => ?_
  refine .bind (.report _) fun _ _ _ => ?_
  refine .bind (.detail _ _) fun _ _ _ => ?_
  refine .bind (traceEpochs_couples o) fun _ _ _ => ?_
  exact .pure ⟨rfl, size, rfl, rfl⟩

def Receipts (m n : KeyMaterial) (r q : Receipt) : Prop :=
  ∃ common : Receipt, r = { common with decryptionKey := m.text } ∧ q = { common with decryptionKey := n.text }

theorem receipt_couples {m n : KeyMaterial} {p q : Parcel} (twins : p.Twins m n q) (id : Text) :
    Couples AnyDraws AnyDraws (Receipts m n) (receipt p id) (receipt q id) := by
  have keys : Agree (fun k l => k = m.text ∧ l = n.text)
      (KeyMaterial.encode (some p.material.key) (some p.material.nonce))
      (KeyMaterial.encode (some q.material.key) (some q.material.nonce)) := by
    rw [KeyMaterial.encode_eq, KeyMaterial.encode_eq, twins.first, twins.second]
    exact .ok ⟨rfl, rfl⟩
  unfold receipt
  refine .bind (.report _) fun _ _ _ => ?_
  refine .bind (.report _) fun _ _ _ => ?_
  refine .bind (.ofExcept keys) fun k l same => ?_
  obtain ⟨rfl, rfl⟩ := same
  rw [twins.plaintext, twins.size]
  exact .pure ⟨⟨id, [], Canonical.checksum q.plaintext, q.plaintext.length, q.ciphertext.length⟩, rfl, rfl⟩

theorem run_couples (m n : KeyMaterial) (o : StoreOptions) (s : Session) :
    Couples (m.Next n) AnyDraws (Receipts m n) (run o s) (run o s) := by
  refine .bind (prepare_couples m n o s) fun p q twins => ?_
  refine .bind (Client.put_couples s twins.size o.epochs) fun id _ same => ?_
  subst same
  exact receipt_couples twins id

/-- Two runs of the command end alike: without output, or with receipts that differ in the key. -/
theorem command_couples (m n : KeyMaterial) (environment : Environment) (t : TransportOptions)
    (o : StoreOptions) {w v : World} (alike : World.Alike (m.Next n) w v) :
    ∃ code left right, World.Alike AnyDraws left right ∧ left.output = w.output ∧
      ((command environment t o).run w = (code, left) ∧ (command environment t o).run v = (code, right) ∨
      ∃ r : Receipt,
        (command environment t o).run w =
          (code, left.printed (Json.page { r with decryptionKey := m.text }.members)) ∧
        (command environment t o).run v =
          (code, right.printed (Json.page { r with decryptionKey := n.text }.members))) := by
  rw [command]
  cases opened : Session.open environment t with
  | error e =>
    refine ⟨.ok Report.inputCode, _, _, alike.forget.tell (Action.line Report.noPublisherLine), rfl, .inl ⟨?_, ?_⟩⟩
    · exact Report.guarded_of_closed rfl w
    · exact Report.guarded_of_closed rfl v
  | ok s =>
    obtain ⟨agree, after⟩ := run_couples m n o s w v alike
    have kept := run_keeps_output o s w
    rcases ran : (run o s).run w with ⟨result, left⟩
    rcases other : (run o s).run v with ⟨otherResult, right⟩
    rw [ran, other] at agree after
    rw [ran] at kept
    cases agree with
    | error cause =>
      have told := after.tell (Report.notice cancelledLines cause)
      refine ⟨Report.disposal cause, _, _, told, kept, .inl ⟨?_, ?_⟩⟩
      · exact Report.guarded_of_failed rfl ran
      · exact Report.guarded_of_failed rfl other
    | ok receipts =>
      obtain ⟨r, rfl, rfl⟩ := receipts
      refine ⟨.ok 0, left.tell closing, right.tell closing, after.tell closing, kept, .inr ⟨r, ?_, ?_⟩⟩
      · rw [Report.guarded_of_returned rfl ran]
        exact finish_run (readable_of_run ran) left
      · rw [Report.guarded_of_returned rfl other]
        exact finish_run (readable_of_run other) right

end Store

end BlobVault
