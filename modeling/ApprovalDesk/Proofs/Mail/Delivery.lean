import ApprovalDesk.Mail.Service
import ApprovalDesk.Proofs.Json.RoundTrip
import ApprovalDesk.Proofs.Text.Utf8

/-!
# Delivering a letter

To send a letter the mail service is asked at most once. What it is asked is a JSON object from which the
letter can be read back, whatever its texts are, and its answer alone decides what becomes of the letter.
The text of a refusal is passed on as the service wrote it.
-/

namespace ApprovalDesk

set_option autoImplicit false

open ApprovalDesk.Text

/-! ## Texts in UTF-8 -/

/-- A text in UTF-8 is read as it was written, unless it begins with a byte order mark. -/
theorem Text.Charset.decode_utf8_encode {s : String} (unmarked : s.toList.head? ≠ some '\uFEFF') :
    Charset.utf8.decode (Utf8.encode s) = s := by
  have units : Utf8.units (Utf8.encode s) = s.toList.map some := Utf8.units_encodeChars s.toList
  have firstReadable (rest : List (Option Char)) : Utf8.units (Utf8.encode s) ≠ none :: rest := by
    intro broken
    rw [units] at broken
    obtain ⟨c, cs, -, first, -⟩ := List.map_eq_cons_iff.1 broken
    cases first
  unfold decode
  split
  · next rest marked =>
    have mark : Utf8.units (Utf8.encode s) = some '\uFEFF' :: Utf8.units rest := by
      rw [marked]
      rfl
    rw [units] at mark
    obtain ⟨c, cs, whole, first, -⟩ := List.map_eq_cons_iff.1 mark
    cases first
    rw [whole] at unmarked
    exact absurd rfl unmarked
  -- the marks of UTF-16 begin with bytes that no text has in UTF-8
  · next rest marked =>
    refine absurd ?_ (firstReadable (Utf8.units (0xFE :: rest)))
    rw [marked]
    rfl
  · next rest marked =>
    refine absurd ?_ (firstReadable (Utf8.units (0xFF :: rest)))
    rw [marked]
    rfl
  · exact Utf8.decodeLossy_encode s

namespace MailService

variable {a : Access} {l : Letter}

/-- What the service writes in UTF-8 is its text. -/
theorem Response.text_of_utf8 {answer : Response} {s : String} (charset : answer.charset = .utf8)
    (body : answer.body = some (Utf8.encode s)) (bodied : isBodiless answer.status = false)
    (unmarked : s.toList.head? ≠ some '\uFEFF') : answer.text = s := by
  unfold text
  rw [bodied, if_neg Bool.false_ne_true, body, Option.elim_some, charset]
  exact Charset.decode_utf8_encode unmarked

/-! ## The request -/

/-- The address or the key cannot be used. -/
def Access.Unusable (a : Access) : Prop :=
  (∀ url, Url.readChars (address a) = .ok url → isUsable url = false) ∨
    ∃ c ∈ a.key.toList, isHeaderChar c = false

theorem request?_eq_none_iff : request? a l = none ↔ a.Unusable := by
  unfold request? Access.Unusable
  cases Url.readChars (address a) with
  | error e => simp
  | ok url =>
    cases usable : isUsable url with
    | false => simp [usable]
    | true => simp [usable]

/-- A letter is read back from the body of the request that sends it. -/
theorem request?_tells {r : Request} (made : request? a l = some r) : r.method = "POST" ∧
    Json.parse? r.body = some (.obj [("from", .str l.sender), ("to", .arr [.str l.recipient]),
      ("subject", .str l.subject), ("html", .str l.html)]) := by
  unfold request? at made
  split at made
  · cases made
  · split at made
    · cases made
      exact ⟨rfl, Json.parse?_write rfl⟩
    · cases made

/-! ## The answer -/

variable {answer : Response}

/-- The service has taken the letter. -/
def Response.Accepts (answer : Response) : Prop := 200 ≤ answer.status ∧ answer.status ≤ 299

theorem Response.isSuccess_iff : answer.isSuccess = true ↔ answer.Accepts := by
  unfold isSuccess Accepts
  rw [Bool.and_eq_true, decide_eq_true_eq, decide_eq_true_eq]
  omega

theorem Response.Accepts.final (accepts : answer.Accepts) : isFinal answer.status = true := by
  obtain ⟨least, most⟩ := accepts
  unfold isFinal
  rw [Bool.or_eq_true, Bool.and_eq_true, decide_eq_true_eq, decide_eq_true_eq]
  omega

theorem outcome_of_silent {answered : Option Response}
    (silent : ∀ answer, answered = some answer → isFinal answer.status = false) :
    outcome answered = .error .unreachable := by
  have nothing : answered.filter (isFinal ·.status) = none :=
    Option.filter_eq_none_iff.2 fun answer given => by simp [silent answer given]
  unfold outcome
  rw [nothing]

theorem outcome_of_accepts (accepts : answer.Accepts) : outcome (some answer) = .ok () := by
  unfold outcome
  rw [Option.filter_some, if_pos accepts.final]
  exact if_pos (Response.isSuccess_iff.2 accepts)

theorem outcome_of_refuses (final : isFinal answer.status = true) (refuses : ¬ answer.Accepts) :
    outcome (some answer) = .error (.refused answer.status answer.text) := by
  unfold outcome
  rw [Option.filter_some, if_pos final]
  exact if_neg fun success => refuses (Response.isSuccess_iff.1 success)

/-- A letter is delivered if the service has taken it, and only then. -/
theorem outcome_eq_ok_iff {answered : Option Response} :
    outcome answered = .ok () ↔ ∃ answer, answered = some answer ∧ answer.Accepts := by
  constructor
  · intro delivered
    unfold outcome at delivered
    split at delivered
    · cases delivered
    · next answer found =>
      obtain ⟨given, -⟩ := Option.filter_eq_some_iff.1 found
      split at delivered
      · next success => exact ⟨answer, given, Response.isSuccess_iff.1 success⟩
      · cases delivered
  · rintro ⟨answer, rfl, accepts⟩
    exact outcome_of_accepts accepts

/-! ## The exchange -/

theorem send_of_no_request (service : Service) (unmade : request? a l = none) :
    send a service l = (.ok (.error .unreachable), []) := by
  unfold send sending
  rw [unmade]
  rfl

/-- The service is asked once, and its answer decides. -/
theorem send_of_request (service : Service) {r : Request} (made : request? a l = some r) :
    send a service l = (.ok (outcome (service [] r)), [r]) := by
  unfold send sending
  rw [made]
  rfl

/-- **A letter arrives as it was written, at most once.** Sending it never crashes and makes at most one
request, a POST whose body is read as the object of the letter's four texts. It succeeds if and only if the
answer has a status from 200 to 299; any other answer that ends the exchange is told with its status and
its text, which is what the service wrote where that is UTF-8. Where only announcements or no answer come,
and where no request can be made because of the address or the key, the service counts as unreachable. -/
theorem letter_arrives_at_most_once (a : Access) (service : Service) (l : Letter) :
    ∃ result had, send a service l = (.ok result, had) ∧
      had.length ≤ 1 ∧
      (∀ r ∈ had, r.method = "POST" ∧
        Json.parse? r.body = some (.obj [("from", .str l.sender), ("to", .arr [.str l.recipient]),
          ("subject", .str l.subject), ("html", .str l.html)])) ∧
      (result = .ok () ↔ ∃ r ∈ had, ∃ answer, service [] r = some answer ∧
        200 ≤ answer.status ∧ answer.status ≤ 299) ∧
      (∀ r ∈ had, ∀ answer, service [] r = some answer → isFinal answer.status = true →
        ¬ (200 ≤ answer.status ∧ answer.status ≤ 299) →
        result = .error (.refused answer.status answer.text) ∧
        ∀ s, answer.charset = .utf8 → answer.body = some (Utf8.encode s) →
          isBodiless answer.status = false → s.toList.head? ≠ some '\uFEFF' → answer.text = s) ∧
      (∀ r ∈ had, (∀ answer, service [] r = some answer → isFinal answer.status = false) →
        result = .error .unreachable) ∧
      (had = [] → result = .error .unreachable) ∧
      (had = [] ↔ a.Unusable) := by
  cases made : request? a l with
  | none =>
    have unusable : a.Unusable := request?_eq_none_iff.1 made
    refine ⟨_, _, send_of_no_request service made, Nat.zero_le 1, ?_, ?_, ?_, ?_, ?_, ?_⟩
    · exact List.forall_mem_nil _
    · refine iff_of_false (fun delivered => by cases delivered) ?_
      rintro ⟨r, asked, -⟩
      cases asked
    · exact List.forall_mem_nil _
    · exact List.forall_mem_nil _
    · exact fun _ => rfl
    · exact iff_of_true rfl unusable
  | some r =>
    have usable : ¬ a.Unusable := fun unusable => by
      rw [request?_eq_none_iff.2 unusable] at made
      cases made
    refine ⟨_, _, send_of_request service made, Nat.le_refl 1, ?_, ?_, ?_, ?_, ?_, ?_⟩
    · exact List.forall_mem_singleton.2 (request?_tells made)
    · rw [outcome_eq_ok_iff]
      constructor
      · exact fun accepted => ⟨r, List.mem_singleton_self r, accepted⟩
      · rintro ⟨r', asked, accepted⟩
        rw [List.mem_singleton.1 asked] at accepted
        exact accepted
    · refine List.forall_mem_singleton.2 fun answer answered final refuses => ⟨?_, ?_⟩
      · rw [answered, outcome_of_refuses final refuses]
      · exact fun s charset body bodied unmarked => Response.text_of_utf8 charset body bodied unmarked
    · exact List.forall_mem_singleton.2 outcome_of_silent
    · exact fun none => absurd none (List.cons_ne_nil _ _)
    · exact iff_of_false (List.cons_ne_nil _ _) usable

/-- How a service on the same computer is reached. -/
def localAccess : Access := ⟨"http://127.0.0.1:8080/letters", "key"⟩

/-- An announcement with a text of its own. -/
def earlyHints : Response := ⟨103, none, some (Utf8.encode "hello")⟩

/-- An announcement after which nothing comes is not told with its status and its text. -/
theorem announcement_is_not_told : ¬ ∀ (a : Access) (service : Service) (l : Letter) (r : Request)
    (answer : Response), (send a service l).2 = [r] → service [] r = some answer →
      ¬ (200 ≤ answer.status ∧ answer.status ≤ 299) →
      (send a service l).1 = .ok (.error (.refused answer.status answer.text)) := by
  intro told
  have asked : (request? localAccess ⟨"f", "t", "s", "h"⟩).isSome = true := by decide +kernel
  obtain ⟨r, made⟩ := Option.isSome_iff_exists.1 asked
  have sent := send_of_request (fun _ _ => some earlyHints) made
  have result := told localAccess (fun _ _ => some earlyHints) ⟨"f", "t", "s", "h"⟩ r earlyHints
    (congrArg Prod.snd sent) rfl (by decide)
  rw [sent] at result
  cases result

end MailService

end ApprovalDesk
