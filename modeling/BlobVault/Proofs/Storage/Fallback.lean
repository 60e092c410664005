import BlobVault.Proofs.Action
import BlobVault.Storage.Client
import Mathlib.Logic.ExistsUnique

/-! Fallback between candidates: the first one that does not fail settles the operation, each is sent
at most once and in order, and nothing is sent after it. What a failed candidate is, and what comes
of the others, is said on the reply alone. -/
namespace BlobVault

namespace Reply

/-- The exchange breaks down by a fault where it gets to: when the request is sent, or else while the
body of a served request or the text of an error status is read. -/
inductive Strikes (r : Reply) (fault : Fault) : Prop where
  | sending : r.fault = some (.sending, fault) → Strikes r fault
  | body : r.isSuccess = true → r.fault = some (.body, fault) → Strikes r fault
  | errorText : r.isSuccess = false → r.fault = some (.errorText, fault) → Strikes r fault

structure Delivers (r : Reply) (content : Bytes) : Prop where
  unharmed : ∀ fault, ¬ r.Strikes fault
  served : r.isSuccess = true
  body : r.body = content

structure Refuses (r : Reply) (text : Text) : Prop where
  unharmed : ∀ fault, ¬ r.Strikes fault
  refused : r.isSuccess = false
  text : r.text = text

/-- The reply makes the candidate fail, whatever operation it is a candidate of. -/
def Fails (r : Reply) : Prop :=
  (∃ t details, r.Strikes ⟨.transport t, details⟩) ∨ ∃ text, r.Refuses text

/-- The text of an error status is not read, for a reason that is neither a fault of the transport nor a
request to stop. What should become of the candidate is left open. -/
def Garbled (r : Reply) : Prop :=
  r.isSuccess = false ∧ ∃ crash details, r.fault = some (.errorText, ⟨.crash crash, details⟩)

theorem strikes_iff {r : Reply} {fault : Fault} : r.Strikes fault ↔ r.outcome = .error fault := by
  constructor
  · intro h
    cases h with
    | sending f => simp [outcome, faultAt?, f]
    | body served f => simp [outcome, faultAt?, f, served]
    | errorText refused f => simp [outcome, faultAt?, f, refused]
  · intro h
    unfold outcome faultAt? at h
    split at h
    · cases h
      rename_i f
      split at f <;> grind [Strikes.sending]
    · grind [Strikes.body, Strikes.errorText]

/-- Whatever is read of a reply is what its status says, and nothing strikes. -/
theorem outcome_eq_ok_iff {r : Reply} {read : Except Text Bytes} :
    r.outcome = .ok read ↔
      (∀ fault, ¬ r.Strikes fault) ∧ (if r.isSuccess then .ok r.body else .error r.text) = read := by
  constructor
  · intro h
    refine ⟨by simp [strikes_iff, h], ?_⟩
    unfold outcome at h
    grind
  · rintro ⟨unharmed, rfl⟩
    cases o : r.outcome with
    | error fault => exact absurd (strikes_iff.mpr o) (unharmed fault)
    | ok read =>
      unfold outcome at o
      grind

theorem delivers_iff {r : Reply} {content : Bytes} :
    r.Delivers content ↔ r.outcome = .ok (.ok content) := by
  rw [outcome_eq_ok_iff]
  constructor
  · rintro ⟨unharmed, served, rfl⟩
    exact ⟨unharmed, if_pos served⟩
  · rintro ⟨unharmed, read⟩
    cases served : r.isSuccess <;> simp [served] at read
    exact ⟨unharmed, served, read⟩

theorem refuses_iff {r : Reply} {text : Text} :
    r.Refuses text ↔ r.outcome = .ok (.error text) := by
  rw [outcome_eq_ok_iff]
  constructor
  · rintro ⟨unharmed, refused, rfl⟩
    exact ⟨unharmed, if_neg (by simp [refused])⟩
  · rintro ⟨unharmed, read⟩
    cases served : r.isSuccess <;> simp [served] at read
    exact ⟨unharmed, served, read⟩

end Reply

namespace Client

inductive Reads (url : Text) (r : Reply) : Verdict Bytes → Prop where
  | content : r.Delivers content → Reads url r (.ok (.ok content))
  | refusal : r.Refuses text →
      Reads url r (.ok (.error (urlDetail url ("status " ++ .ofInt r.status ++ ": " ++ text))))
  | transport : r.Strikes ⟨.transport t, details⟩ →
      Reads url r (.ok (.error (urlDetail url (Fault.transportText t details))))
  | other : r.Strikes fault → (∀ t, fault.kind ≠ .transport t) → ¬ r.Garbled →
      Reads url r (.error (.fault fault))

inductive Stores (readDepth : Nat) (url : Text) (r : Reply) : Verdict Text → Prop where
  | blobId : r.Delivers content → BlobId.parse readDepth (Utf8.decodeLossy content) = .ok name →
      Stores readDepth url r (.ok (.ok name))
  | unusable : r.Delivers content → BlobId.parse readDepth (Utf8.decodeLossy content) = .error (.known e) →
      e.kind = .transport → Stores readDepth url r (.ok (.error (urlDetail url e.message)))
  | crash : r.Delivers content → BlobId.parse readDepth (Utf8.decodeLossy content) = .error (.fault fault) →
      Stores readDepth url r (.error (.fault fault))
  | unread : Reads url r (.ok (.error detail)) → Stores readDepth url r (.ok (.error detail))
  | other : Reads url r (.error cause) → Stores readDepth url r (.error cause)

theorem Reads.verdict_eq {url : Text} {r : Reply} {v : Verdict Bytes} (h : Reads url r v) :
    verdict url r = v := by
  cases h with
  | content delivers => simp [verdict, Reply.delivers_iff.mp delivers]
  | refusal refuses => simp [verdict, Reply.refuses_iff.mp refuses]
  | transport strikes => simp [verdict, Reply.strikes_iff.mp strikes]
  | other strikes kind _ => simp [verdict, Reply.strikes_iff.mp strikes]

/-- Every verdict on a reply is one that the relation gives, unless the reply is garbled. -/
theorem reads_or_garbled (url : Text) (r : Reply) :
    Reads url r (verdict url r) ∨ r.Garbled ∧ ∃ cause, verdict url r = .error cause := by
  unfold verdict
  split
  · rename_i content o
    exact .inl (.content (Reply.delivers_iff.mpr o))
  · rename_i text o
    exact .inl (.refusal (Reply.refuses_iff.mpr o))
  · rename_i fault o
    have strikes := Reply.strikes_iff.mpr o
    split
    · rename_i t kind
      obtain ⟨kind', details⟩ := fault
      subst kind
      exact .inl (.transport strikes)
    · rename_i kind
      by_cases garbled : r.Garbled
      · exact .inr ⟨garbled, _, rfl⟩
      · exact .inl (.other strikes kind garbled)

/-- A body without a usable id is a transport error, whatever is wrong with it. -/
theorem parse_known_kind {readDepth : Nat} {body : Text} {e : VaultError}
    (h : BlobId.parse readDepth body = .error (.known e)) : e.kind = .transport := by
  unfold BlobId.parse at h
  split at h
  · cases h
    rfl
  · rename_i container _
    cases container <;> cases h
  · split at h <;> cases h
    rfl
  · cases h
    rfl

theorem verdict_content_iff {url : Text} {r : Reply} {content : Bytes} :
    verdict url r = .ok (.ok content) ↔ r.Delivers content := by
  constructor
  · intro judged
    rcases reads_or_garbled url r with h | ⟨-, cause, failed⟩
    · rw [judged] at h
      cases h
      assumption
    · rw [judged] at failed
      contradiction
  · exact fun delivers => (Reads.content delivers).verdict_eq

theorem verdict_failed_iff {url : Text} {r : Reply} :
    (∃ detail, verdict url r = .ok (.error detail)) ↔ r.Fails := by
  constructor
  · rintro ⟨detail, judged⟩
    rcases reads_or_garbled url r with h | ⟨-, cause, failed⟩
    · rw [judged] at h
      cases h with
      | refusal refuses => exact .inr ⟨_, refuses⟩
      | transport strikes => exact .inl ⟨_, _, strikes⟩
    · rw [judged] at failed
      contradiction
  · rintro (⟨t, details, strikes⟩ | ⟨text, refuses⟩)
    · exact ⟨_, (Reads.transport strikes).verdict_eq⟩
    · exact ⟨_, (Reads.refusal refuses).verdict_eq⟩

theorem Stores.storeVerdict_eq {readDepth : Nat} {url : Text} {r : Reply} {v : Verdict Text}
    (h : Stores readDepth url r v) : storeVerdict readDepth url r = v := by
  cases h with
  | blobId delivers parsed => simp [storeVerdict, verdict_content_iff.mpr delivers, parsed]
  | unusable delivers parsed _ => simp [storeVerdict, verdict_content_iff.mpr delivers, parsed]
  | crash delivers parsed => simp [storeVerdict, verdict_content_iff.mpr delivers, parsed]
  | unread reads => simp [storeVerdict, reads.verdict_eq]
  | other reads => simp [storeVerdict, reads.verdict_eq]

theorem reads_of_clear {r : Reply} (clear : ¬ r.Garbled) (url : Text) : Reads url r (verdict url r) :=
  (reads_or_garbled url r).resolve_right fun ⟨garbled, _⟩ => clear garbled

theorem stores_of_clear {readDepth : Nat} {r : Reply} (clear : ¬ r.Garbled) (url : Text) :
    Stores readDepth url r (storeVerdict readDepth url r) := by
  have reads := reads_of_clear clear url
  unfold storeVerdict
  split
  · rename_i content read
    have delivers := verdict_content_iff.mp read
    split
    · rename_i parsed
      exact .blobId delivers parsed
    · rename_i parsed
      exact .unusable delivers parsed (parse_known_kind parsed)
    · rename_i cause notKnown parsed
      cases cause with
      | known e => exact absurd rfl (notKnown e)
      | fault fault => exact .crash delivers parsed
  · rename_i read
    rw [read] at reads
    exact .unread reads
  · rename_i read
    rw [read] at reads
    exact .other reads

/-- How a row of candidates ends: a value, a failure that leaves the operation, or the detail of the
last candidate when all of them failed. -/
inductive Ending (α : Type) where
  | value (value : α)
  | left (cause : Failure)
  | exhausted (detail : Text)

def Ending.result (report : Text → VaultError) : Ending α → Except Failure α
  | .value v => .ok v
  | .left cause => .error cause
  | .exhausted detail => .error (.known (report detail))

/-- The requests that a row of candidates sends on replies that come one for each, and how it ends. The
detail is that of the candidates before. -/
inductive Tries (judge : Text → Reply → Verdict α) :
    List Request → List Reply → Text → List Request → Ending α → Prop where
  | exhausted : Tries judge [] replies detail [] (.exhausted detail)
  | value : judge c.url (replies.headD .unreachable) = .ok (.ok v) →
      Tries judge (c :: rest) replies detail [c] (.value v)
  | left : judge c.url (replies.headD .unreachable) = .error cause →
      Tries judge (c :: rest) replies detail [c] (.left cause)
  | failed : judge c.url (replies.headD .unreachable) = .ok (.error next) →
      Tries judge rest replies.tail next made ending →
      Tries judge (c :: rest) replies detail (c :: made) ending

/-- A row of candidates does what the relation says, and changes nothing else of the world. -/
theorem firstSuccess_run {judge : Text → Reply → Verdict α} {report : Text → VaultError}
    {candidates made : List Request} {detail : Text} {ending : Ending α} {w : World}
    (h : Tries judge candidates w.replies detail made ending) :
    (firstSuccess judge report candidates detail).run w = (ending.result report, w.sent made) := by
  generalize same : w.replies = replies at h
  induction h generalizing w with
  | exhausted => simp [firstSuccess, Ending.result, World.sent_nil]
  | value judged | left judged =>
    subst same
    simp only [firstSuccess, Action.run_bind, Action.run_send, World.nextReply, judged]
    rfl
  | @failed c replies next rest made ending detail judged _ ih =>
    subst same
    simp only [firstSuccess, Action.run_bind, Action.run_send, World.nextReply, judged]
    rw [ih (by simp [World.sent]), World.sent_sent]
    rfl

/-- Every row of candidates ends on every script of replies. -/
theorem tries_exists (judge : Text → Reply → Verdict α) (candidates : List Request)
    (replies : List Reply) (detail : Text) :
    ∃ made ending, Tries judge candidates replies detail made ending := by
  induction candidates generalizing replies detail with
  | nil => exact ⟨[], _, .exhausted⟩
  | cons c rest ih =>
    match judged : judge c.url (replies.headD .unreachable) with
    | .error cause => exact ⟨[c], _, .left judged⟩
    | .ok (.ok v) => exact ⟨[c], _, .value judged⟩
    | .ok (.error next) =>
      obtain ⟨made, ending, tries⟩ := ih replies.tail next
      exact ⟨c :: made, ending, .failed judged tries⟩

/-- The candidates are sent in order and each at most once. -/
theorem Tries.made_prefix {judge : Text → Reply → Verdict α}
    (h : Tries judge candidates replies detail made ending) : made <+: candidates := by
  induction h with
  | exhausted => exact List.prefix_rfl
  | value _ | left _ => exact List.cons_prefix_cons.mpr ⟨rfl, List.nil_prefix⟩
  | failed _ _ ih => exact List.cons_prefix_cons.mpr ⟨rfl, ih⟩

theorem Tries.made_ne_nil {judge : Text → Reply → Verdict α}
    (h : Tries judge (c :: rest) replies detail made ending) : made ≠ [] := by
  cases h <;> exact List.cons_ne_nil _ _

def AlikeButUrl (a b : Request) : Prop :=
  b = { a with url := b.url } ∧ b.contentType = a.contentType

theorem storeRequest_alike (s : Session) (payload : Bytes) (epochs path other : Text) :
    AlikeButUrl (storeRequest s payload epochs path) (storeRequest s payload epochs other) :=
  ⟨rfl, rfl⟩

theorem readRequest_alike (s : Session) (path other : Text) :
    AlikeButUrl (readRequest s path) (readRequest s other) :=
  ⟨rfl, rfl⟩

/-- Two candidates settle an operation in order: the first one if it does not fail, and else the second
one. Whatever the replies are, no other request is made, and nothing else of the world changes. -/
structure InOrder (judged : Text → Reply → Verdict α → Prop) (operation : Action α)
    (report : Text → VaultError) (first second : Request) : Prop where
  decided : ∀ url r, ¬ r.Garbled → ∃! v, judged url r v
  first_value : ∀ w v, judged first.url w.nextReply (.ok (.ok v)) →
    operation.run w = (.ok v, w.sent [first])
  first_left : ∀ w cause, judged first.url w.nextReply (.error cause) →
    operation.run w = (.error cause, w.sent [first])
  second_value : ∀ w detail v, judged first.url w.nextReply (.ok (.error detail)) →
    judged second.url (w.sent [first]).nextReply (.ok (.ok v)) →
    operation.run w = (.ok v, w.sent [first, second])
  second_left : ∀ w detail cause, judged first.url w.nextReply (.ok (.error detail)) →
    judged second.url (w.sent [first]).nextReply (.error cause) →
    operation.run w = (.error cause, w.sent [first, second])
  exhausted : ∀ w detail last, judged first.url w.nextReply (.ok (.error detail)) →
    judged second.url (w.sent [first]).nextReply (.ok (.error last)) →
    operation.run w = (.error (.known (report last)), w.sent [first, second])
  requests : ∀ w, ∃ made, made ≠ [] ∧ made <+: [first, second] ∧ (operation.run w).2 = w.sent made
  reported : ∀ last, (report last).kind = .transport ∧ last <:+ (report last).message
  alike : AlikeButUrl first second

theorem firstSuccess_inOrder (judged : Text → Reply → Verdict α → Prop)
    (judge : Text → Reply → Verdict α) (judges : ∀ {url r v}, judged url r v → judge url r = v)
    (settles : ∀ {r : Reply}, ¬ r.Garbled → ∀ url, judged url r (judge url r))
    {report : Text → VaultError} {first second : Request}
    (reported : ∀ last, (report last).kind = .transport ∧ last <:+ (report last).message)
    (alike : AlikeButUrl first second) :
    InOrder judged (firstSuccess judge report [first, second] []) report first second where
  decided url r clear := ⟨judge url r, settles clear url, fun _ h => (judges h).symm⟩
  first_value w v h := firstSuccess_run (.value (judges h))
  first_left w cause h := firstSuccess_run (.left (judges h))
  second_value w detail v h₁ h₂ := by
    rw [World.nextReply_sent] at h₂
    exact firstSuccess_run (.failed (judges h₁) (.value (judges h₂)))
  second_left w detail cause h₁ h₂ := by
    rw [World.nextReply_sent] at h₂
    exact firstSuccess_run (.failed (judges h₁) (.left (judges h₂)))
  exhausted w detail last h₁ h₂ := by
    rw [World.nextReply_sent] at h₂
    exact firstSuccess_run (.failed (judges h₁) (.failed (judges h₂) .exhausted))
  requests w := by
    obtain ⟨made, ending, tries⟩ := tries_exists judge [first, second] w.replies []
    exact ⟨made, tries.made_ne_nil, tries.made_prefix, congrArg Prod.snd (firstSuccess_run tries)⟩
  reported := reported
  alike := alike

theorem put_eq {s : Session} {epochs : Int} (payload : Bytes)
    (written : Integer.text? epochs = some shown) :
    put s payload epochs = firstSuccess (storeVerdict s.readDepth) uploadFailed
      [storeRequest s payload shown "/v1/store", storeRequest s payload shown "/v1/blobs"] [] := by
  unfold put
  rw [written]
  rfl

theorem put_of_tooLong {epochs : Int} (tooLong : Integer.text? epochs = none) (s : Session)
    (payload : Bytes) : put s payload epochs = throw .tooManyDigits := by
  unfold put
  rw [tooLong]

/-- What storing a blob comes to. Every request that it makes carries the blob. -/
theorem put_run {epochs : Int} {shown : Text} (written : Integer.text? epochs = some shown) (s : Session)
    (payload : Bytes) (w : World) :
    ∃ made ending,
      Tries (storeVerdict s.readDepth)
        [storeRequest s payload shown "/v1/store", storeRequest s payload shown "/v1/blobs"] w.replies []
        made ending ∧
      (put s payload epochs).run w = (ending.result uploadFailed, w.sent made) ∧
      ∀ request ∈ made, request.payload = some payload := by
  rw [put_eq payload written]
  obtain ⟨made, ending, tries⟩ := tries_exists (storeVerdict s.readDepth)
    [storeRequest s payload shown "/v1/store", storeRequest s payload shown "/v1/blobs"] w.replies []
  refine ⟨made, ending, tries, firstSuccess_run tries, fun request member => ?_⟩
  have candidate := tries.made_prefix.subset member
  simp only [List.mem_cons, List.not_mem_nil, or_false] at candidate
  rcases candidate with rfl | rfl <;> rfl

/-- A blob that is stored was sent, and every request that was made for it carried it. -/
theorem put_returns {s : Session} {payload : Bytes} {epochs : Int} {w left : World} {name : Text}
    (stored : Action.Returns (put s payload epochs) w name left) :
    ∃ made, made ≠ [] ∧ left = w.sent made ∧ ∀ request ∈ made, request.payload = some payload := by
  cases written : Integer.text? epochs with
  | none =>
    rw [put_of_tooLong written] at stored
    cases stored
  | some shown =>
    obtain ⟨made, ending, tries, ran, carried⟩ := put_run written s payload w
    obtain ⟨-, rfl⟩ := (Action.Returns.of_run ran).mp stored
    exact ⟨made, tries.made_ne_nil, rfl, carried⟩

/-- The value that settles a row of candidates is the verdict on a reply. -/
theorem Tries.judged {judge : Text → Reply → Verdict α} {v : α}
    (h : Tries judge candidates replies detail made (.value v)) : ∃ url r, judge url r = .ok (.ok v) := by
  generalize same : Ending.value v = ending at h
  induction h with
  | exhausted | left _ => cases same
  | value judged =>
    cases same
    exact ⟨_, _, judged⟩
  | failed _ _ ih => exact ih same

/-- The name of a blob that is stored was read in the body of a reply. -/
theorem put_names {s : Session} {payload : Bytes} {epochs : Int} {w left : World} {name : Text}
    (stored : Action.Returns (put s payload epochs) w name left) :
    ∃ body, BlobId.parse s.readDepth (Utf8.decodeLossy body) = .ok name := by
  cases written : Integer.text? epochs with
  | none =>
    rw [put_of_tooLong written] at stored
    cases stored
  | some shown =>
    obtain ⟨made, ending, tries, ran, -⟩ := put_run written s payload w
    obtain ⟨result, -⟩ := (Action.Returns.of_run ran).mp stored
    cases ending with
    | left | exhausted => cases result
    | value v =>
      cases result
      obtain ⟨url, r, judged⟩ := tries.judged
      unfold storeVerdict at judged
      split at judged
      · rename_i body _
        split at judged
        · rename_i parsed
          cases judged
          exact ⟨body, parsed⟩
        · cases judged
        · cases judged
      · cases judged
      · cases judged

theorem get_eq (s : Session) (name : Text) :
    get s name = firstSuccess verdict (downloadFailed name)
      [readRequest s ("/v1/" ++ name), readRequest s ("/v1/blobs/" ++ name)] [] := by
  simp only [get, readPaths, List.map_cons, List.map_nil]

/-- What reading a blob comes to, and the requests that it makes. -/
theorem get_run (s : Session) (name : Text) (w : World) :
    ∃ made ending,
      Tries verdict [readRequest s ("/v1/" ++ name), readRequest s ("/v1/blobs/" ++ name)]
        w.replies [] made ending ∧
      (get s name).run w = (ending.result (downloadFailed name), w.sent made) := by
  rw [get_eq]
  obtain ⟨made, ending, tries⟩ := tries_exists verdict
    [readRequest s ("/v1/" ++ name), readRequest s ("/v1/blobs/" ++ name)] w.replies []
  exact ⟨made, ending, tries, firstSuccess_run tries⟩

/-- Reading a blob uploads nothing. -/
theorem get_keeps {view : World → β}
    (silent : ∀ w made, (∀ request ∈ made, request.payload = none) → view (World.sent w made) = view w)
    (s : Session) (name : Text) : Action.Keeps view (get s name) := by
  intro w
  obtain ⟨made, ending, tries, ran⟩ := get_run s name w
  rw [ran]
  apply silent w made
  intro request member
  have candidate := tries.made_prefix.subset member
  simp only [List.mem_cons, List.not_mem_nil, or_false] at candidate
  rcases candidate with rfl | rfl <;> rfl

def Brings (replies : List Reply) (content : Bytes) : Prop :=
  (replies.headD .unreachable).Delivers content ∨
    (replies.headD .unreachable).Fails ∧ (replies.tail.headD .unreachable).Delivers content

/-- Reading a blob returns a body exactly when the replies bring it. -/
theorem get_returns_iff {s : Session} {name : Text} {w : World} {content : Bytes} :
    ((get s name).run w).1 = .ok content ↔ Brings w.replies content := by
  constructor
  · intro returned
    obtain ⟨made, ending, tries, ran⟩ := get_run s name w
    rw [ran] at returned
    cases tries with
    | value judged =>
      cases returned
      exact .inl (verdict_content_iff.mp judged)
    | left => contradiction
    | failed judged rest =>
      have fails := verdict_failed_iff.mp ⟨_, judged⟩
      cases rest with
      | value judged =>
        cases returned
        exact .inr ⟨fails, verdict_content_iff.mp judged⟩
      | left => contradiction
      | failed _ rest =>
        cases rest
        contradiction
  · rw [get_eq]
    rintro (delivers | ⟨fails, delivers⟩)
    · rw [firstSuccess_run (.value (verdict_content_iff.mpr delivers))]
      rfl
    · obtain ⟨detail, judged⟩ := verdict_failed_iff.mpr fails
      rw [firstSuccess_run (.failed judged (.value (verdict_content_iff.mpr delivers)))]
      rfl

/-- Storing and reading a blob send their two candidates in order and stop at the first that does not
fail. Epochs that are too long to be written make storing fail before the first request. -/
theorem put_get_inOrder (s : Session) :
    (∀ payload epochs,
      match Integer.text? epochs with
      | some shown =>
        InOrder (Stores s.readDepth) (put s payload epochs) uploadFailed
          (storeRequest s payload shown "/v1/store") (storeRequest s payload shown "/v1/blobs")
      | none => ∀ w, (put s payload epochs).run w = (.error .tooManyDigits, w)) ∧
    ∀ name, InOrder Reads (get s name) (downloadFailed name)
      (readRequest s ("/v1/" ++ name)) (readRequest s ("/v1/blobs/" ++ name)) := by
  refine ⟨?_, ?_⟩
  · intro payload epochs
    split
    · rename_i shown written
      rw [put_eq payload written]
      refine firstSuccess_inOrder (Stores s.readDepth) (storeVerdict s.readDepth) Stores.storeVerdict_eq
        stores_of_clear ?_ (storeRequest_alike s payload shown _ _)
      exact fun _ => ⟨rfl, List.suffix_append _ _⟩
    · rename_i tooLong
      intro w
      unfold put
      rw [tooLong]
      rfl
  · intro name
    rw [get_eq]
    refine firstSuccess_inOrder Reads verdict Reads.verdict_eq reads_of_clear ?_
      (readRequest_alike s _ _)
    exact fun _ => ⟨rfl, List.suffix_append _ _⟩

/-- A cancellation while the text of an error status is read is no failure of the candidate: it leaves,
and the second candidate, which would deliver the blob, is not sent. Epochs of one digit too many end
storing without a request. -/
theorem cancelled_errorText_leaves :
    let s : Session := ⟨"http://p", 30, false, 0⟩
    let cancelled : Fault := ⟨.cancelled, []⟩
    let first : Reply := ⟨500, [], [], some (.errorText, cancelled)⟩
    let second : Reply := ⟨200, [7], [], none⟩
    let w : World := ⟨⟨[], []⟩, [], [], [first, second], [], [], []⟩
    first.isSuccess = false ∧ second.Delivers [7] ∧
      (get s "x").run w = (.error (.fault cancelled), w.sent [readRequest s "/v1/x"]) ∧
      (put s [] Integer.bound).run w = (.error .tooManyDigits, w) := by
  intro s cancelled first second w
  refine ⟨rfl, Reply.delivers_iff.mpr rfl, rfl, ?_⟩
  have tooLong : Integer.text? Integer.bound = none := by
    unfold Integer.text?
    rw [Int.natAbs_natCast, if_neg (Nat.lt_irrefl _)]
  unfold put
  rw [tooLong]
  rfl

end Client
end BlobVault
