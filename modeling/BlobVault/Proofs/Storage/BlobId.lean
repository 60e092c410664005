import BlobVault.Proofs.Json.Display
import BlobVault.Proofs.Json.Reading
import BlobVault.Proofs.Text.Utf8
import BlobVault.Storage.BlobId

/-! The id that is found in a response does not depend on how the response is written, and it is a text
without split pairs, whatever octets the response is made of. -/
namespace BlobVault

namespace Json

theorem Unpaired.get? {members : Members} (unpaired : Unpaired (.object members)) {name : Text} {v : Json}
    (found : members.get? name = some v) : v.Unpaired := by
  obtain ⟨member, first, rfl⟩ := Option.map_eq_some_iff.mp found
  intro t inside
  apply unpaired
  rw [texts, memberTexts_eq]
  exact List.mem_flatMap.mpr ⟨member, List.mem_of_find?_eq_some first, List.mem_cons_of_mem _ inside⟩

theorem Unpaired.display {v : Json} (unpaired : v.Unpaired) : v.display.Unpaired := by
  rcases display_cases v with own | plain
  · exact unpaired _ own
  · exact Text.unpaired_of_plain plain

end Json

namespace BlobId

open Json (Unpaired)

/-- A response that is an object gives the id that is found in it, in every style. -/
theorem parse_write {s : Json.Style} (separates : s.Separates) {depth : Nat} {response : Members}
    (readable : Json.Readable s.ascii depth (.object response)) :
    parse depth ((Json.object response).write s) =
      match find? response with
      | some id => .ok id.display
      | none => .error (.known missing) := by
  cases found : find? response with
  | none => simp only [parse, Json.read_write separates readable, found]
  | some id => simp only [parse, Json.read_write separates readable, found]

theorem unpaired_object? {name : Text} {m inner : Members} (unpaired : Unpaired (.object m))
    (found : object? name m = some inner) : Unpaired (.object inner) := by
  unfold object? at found
  split at found
  · rename_i here
    cases found
    exact unpaired.get? here
  · cases found

theorem unpaired_solid? {name : Text} {m : Members} {v : Json} (unpaired : Unpaired (.object m))
    (found : solid? name m = some v) : v.Unpaired := by
  unfold solid? at found
  split at found
  · rename_i here
    split at found
    · cases found
    · cases found
      exact unpaired.get? here
  · cases found

theorem unpaired_of_entry {entry : Members} {v : Json} (unpaired : Unpaired (.object entry))
    (found : inEntry? entry = some v) : v.Unpaired := by
  unfold inEntry? at found
  split at found
  · rename_i blob inner
    rcases Option.or_eq_some_iff.mp found with first | ⟨-, second⟩
    · exact unpaired_solid? (unpaired_object? unpaired inner) first
    · exact unpaired_solid? unpaired second
  · exact unpaired_solid? unpaired found

/-- The id of a response whose octets are read as text. -/
theorem unpaired_parse {depth : Nat} {body : Text} (plain : body.hasSurrogate = false) {id : Text}
    (parsed : parse depth body = .ok id) : id.Unpaired := by
  unfold parse at parsed
  split at parsed
  · cases parsed
  · cases parsed
  · rename_i response read
    split at parsed
    · rename_i v found
      cases parsed
      obtain ⟨name, -, inside⟩ := List.exists_of_findSome?_eq_some found
      obtain ⟨entry, here, inEntry⟩ := Option.bind_eq_some_iff.mp inside
      have response := Json.unpaired_of_read plain read
      exact (unpaired_of_entry (unpaired_object? response here) inEntry).display
    · cases parsed
  · cases parsed

end BlobId
end BlobVault
