import BlobVault.Proofs.Json.Encoding
import BlobVault.Proofs.Storage.BlobId
import BlobVault.Proofs.Text.Utf8
import BlobVault.Proofs.Vault.Retrieval
import BlobVault.Proofs.Vault.Storing

/-! What is stored comes back. The receipt of a stored file, in any spelling of its texts, retrieves the
content from every script of replies that brings the ciphertext, to every output that opens a place. -/
namespace BlobVault

open BlobVault.Action (Returns)

/-- A checksum option that asks for a digest: it is left out, or it is the digits in either case between
blanks. -/
def Retrieve.Asks (digest checksum : Text) : Prop :=
  checksum = [] ∨ ∃ digits, Text.lowerAscii digits = digest ∧ Text.Padded digits checksum

theorem Retrieve.admits_of_asks {plaintext : Bytes} {checksum : Text}
    (asks : Asks (Canonical.checksum plaintext) checksum) : Admits checksum plaintext := by
  intro some
  rcases asks with none | ⟨digits, lower, padded⟩
  · exact absurd none some
  · have solid : Text.Solid digits := by
      intro c member
      obtain ⟨n, read⟩ := Hex.digit_of_lowerAscii lower c member
      exact Hex.isBlank_of_digit read
    rw [Text.strip_padded solid padded, lower, Canonical.checksum]

theorem Store.Stored.decodes {o : StoreOptions} {w left : World} {r : Receipt} {plaintext : Bytes}
    {m : KeyMaterial} {ciphertext : Bytes} (stored : Stored o w left r plaintext m ciphertext)
    {key : Text} (respells : Hex.Respells r.decryptionKey key) : KeyMaterial.decode key = .ok m := by
  rw [stored.key] at respells
  exact KeyMaterial.decode_eq_ok_iff.mpr respells

/-- The content and the key material of a stored file are those of the file and the draws. -/
theorem Store.Stored.determined {o : StoreOptions} {w left : World} {r : Receipt} {plaintext found : Bytes}
    {m drawn : KeyMaterial} {ciphertext : Bytes} (stored : Stored o w left r found drawn ciphertext)
    (content : w.files.read? o.file = some plaintext)
    (draws : w.draws.take 2 = [some m.key, some m.nonce]) : found = plaintext ∧ drawn = m := by
  have sameContent := stored.content.symm.trans content
  have sameDraws := (KeyMaterial.ofDraws?_next_iff.mpr stored.draws).symm.trans
    (KeyMaterial.ofDraws?_next_iff.mpr draws)
  exact ⟨Option.some.inj sameContent, Option.some.inj sameDraws⟩

theorem Store.Stored.length_ciphertext {o : StoreOptions} {w left : World} {r : Receipt}
    {plaintext : Bytes} {m : KeyMaterial} {ciphertext : Bytes}
    (stored : Stored o w left r plaintext m ciphertext) :
    ciphertext.length = plaintext.length + Cipher.Gcm.tagSize :=
  Envelope.length_of_encryptWith (Envelope.produces_iff.mp stored.produced)

/-- A stored file comes back. Every upload carries one ciphertext, the receipt gives the sizes and reads
back as the two draws, and every retrieval that the ciphertext is brought to writes the content. -/
theorem retrieve_of_store {o : StoreOptions} {s : Session} {w left : World} {r : Receipt}
    {plaintext : Bytes} {m : KeyMaterial} (content : w.files.read? o.file = some plaintext)
    (draws : w.draws.take 2 = [some m.key, some m.nonce])
    (stored : Returns (Store.run o s) w r left) :
    ∃ ciphertext,
      (∃ made, made ≠ [] ∧ left.requests = w.requests ++ made ∧
        ∀ request ∈ made, request.payload = some ciphertext) ∧
      r.encryptedSize = ciphertext.length ∧ ciphertext.length = plaintext.length + 16 ∧
      r.originalSize = plaintext.length ∧ KeyMaterial.decode r.decryptionKey = .ok m ∧
      ∀ (key checksum : Text) (output : FilePath) (verbosity : Verbosity) (s' : Session) (w' : World)
        (place : Place),
        Hex.Respells r.decryptionKey key → Retrieve.Asks r.checksum checksum →
        Client.Brings w'.replies ciphertext → w'.files.Opens output place →
        ∃ after, Returns (Retrieve.run ⟨r.blobId, key, output, checksum, verbosity⟩ s') w' 0 after ∧
          Retrieve.Wrote ⟨r.blobId, key, output, checksum, verbosity⟩ w' after plaintext := by
  obtain ⟨found, drawn, ciphertext, stored⟩ := Store.run_returns stored
  obtain ⟨rfl, rfl⟩ := stored.determined content draws
  refine ⟨ciphertext, stored.uploads, stored.encryptedSize, stored.length_ciphertext,
    stored.originalSize, stored.decodes ?_, ?_⟩
  · rw [stored.key]
    exact Hex.Respells.self _
  · intro key checksum output verbosity s' w' place respells asks brings opens
    have authentic : Retrieve.Authentic ⟨r.blobId, key, output, checksum, verbosity⟩ w'.replies found
        drawn ciphertext := by
      constructor
      case key => exact stored.decodes respells
      case fetched => exact brings
      case opened => exact stored.produced
      case expected => exact Retrieve.admits_of_asks (stored.checksum ▸ asks)
    exact Retrieve.run_of_opens authentic opens

/-- A file of one octet, stored with a publisher that names it and brought back in full. -/
theorem retrieve_of_store_octet :
    let response := Json.object [("newlyCreated", .object [("blobId", .text "x")])]
    let s : Session := ⟨"http://p", 30, false, 2⟩
    let quiet : Verbosity := ⟨false, false⟩
    let w : World := ⟨⟨[([[0x66]], .file [7])], []⟩,
      [some (List.replicate 32 0), some (List.replicate 12 0)], [],
      [⟨200, Text.utf8 (response.write .compact), [], none⟩], [], [], []⟩
    ∃ r left ciphertext after, Returns (Store.run ⟨.ofText "/f", 1, quiet⟩ s) w r left ∧
      Returns (Retrieve.run ⟨r.blobId, r.decryptionKey, .ofText "/g", r.checksum, quiet⟩ s)
        { left with replies := [⟨200, ciphertext, [], none⟩] } 0 after ∧
      after.files.read? (.ofText "/g") = some [7] := by
  intro response s quiet w
  let m : KeyMaterial := ⟨List.replicate 32 0, List.replicate 12 0, rfl, rfl⟩
  have readable : Json.Readable false 2 response := by
    refine .object (List.pairwise_singleton _ _) (fun _ _ escaped => nomatch escaped) ?_
    refine List.forall_mem_singleton.mpr (.object (List.pairwise_singleton _ _) ?_ ?_)
    · exact fun _ _ escaped => nomatch escaped
    · exact List.forall_mem_singleton.mpr (.scalar fun escaped => nomatch escaped)
  have plain : (response.write .compact).hasSurrogate = false := by
    rw [Json.write, Json.hasSurrogate_writeAt Json.compact_separates rfl readable]
    decide
  have parsed : BlobId.parse 2 (Utf8.decodeLossy (Text.utf8 (response.write .compact))) = .ok "x" := by
    rw [Utf8.decodeLossy_utf8 plain, BlobId.parse_write Json.compact_separates readable]
    rfl
  have judged : Client.Stores 2 "http://p/v1/store"
      ⟨200, Text.utf8 (response.write .compact), [], none⟩ (.ok (.ok "x")) :=
    .blobId (Reply.delivers_iff.mpr rfl) parsed
  have content : w.files.read? (.ofText "/f") = some [7] := by decide
  have written : Integer.text? 1 = some (.ofInt 1) :=
    if_pos (Integer.pow_lt_bound (k := 0) (by decide))
  have stores (payload : Bytes) (w' : World) (same : w'.replies = w.replies) :
      ((Client.put s payload 1).run w').1 = .ok "x" := by
    have first : Client.storeVerdict 2 "http://p/v1/store" (w'.replies.headD .unreachable) = .ok (.ok "x") := by
      rw [same]
      exact judged.storeVerdict_eq
    rw [Client.put_eq payload written, Client.firstSuccess_run (.value first)]
    rfl
  obtain ⟨r, left, stored⟩ : ∃ r left, Returns (Store.run ⟨.ofText "/f", 1, quiet⟩ s) w r left :=
    Store.run_of_put (m := m) rfl rfl content (List.cons_ne_nil 7 []) rfl
      (Envelope.encryptWith_eq_ok_iff.mpr ⟨by decide, rfl⟩) written (stores _)
  obtain ⟨ciphertext, -, -, -, -, -, later⟩ := retrieve_of_store (m := m) content rfl stored
  obtain ⟨_, _, _, receipt⟩ := Store.run_returns stored
  have files : left.files = w.files := receipt.files
  have opens : left.files.Opens (.ofText "/g") [[0x67]] := by
    rw [files]
    exact ⟨rfl, rfl, rfl⟩
  obtain ⟨after, retrieved, wrote⟩ := later r.decryptionKey r.checksum (.ofText "/g") quiet s
    { left with replies := [⟨200, ciphertext, [], none⟩] } [[0x67]] (receipt.key ▸ Hex.Respells.self _)
    (.inr ⟨r.checksum, receipt.checksum ▸ Hex.lowerAscii_write _, Text.Padded.self _⟩)
    (.inl (Reply.delivers_iff.mpr rfl)) opens
  exact ⟨r, left, ciphertext, after, stored, retrieved, wrote.holds⟩

end BlobVault
