import ApprovalDesk.Proofs.Http.Effects
import ApprovalDesk.Proofs.Http.Refusals
import ApprovalDesk.Proofs.Text.Trim

/-!
# The reason for a rejection

A form that rejects a request has to give one reason that is not blank. Whatever it gives instead, it is
refused before the store is asked anything; so the answer does not depend on what is on record, and the
link stays as it was. A reason that is given goes on record and into the answer without the blanks around
it, and otherwise as it was written.
-/

namespace ApprovalDesk

set_option autoImplicit false

namespace Http

open ApprovalDesk.Text ApprovalDesk.Workflow

/-! ## What a form gives -/

/-- The values that a name has among pairs. -/
def valuesOf (name : String) (pairs : List (String × String)) : List String :=
  (pairs.filter (·.1 == name)).map (·.2)

theorem lookup_eq_head?_valuesOf (name : String) (pairs : List (String × String)) :
    pairs.lookup name = (valuesOf name pairs).head? := by
  induction pairs with
  | nil => rfl
  | cons p pairs ih =>
    obtain ⟨n, value⟩ := p
    by_cases own : n = name
    · have first : valuesOf name ((n, value) :: pairs) = value :: valuesOf name pairs := by
        simp [valuesOf, own]
      rw [first, own, List.lookup_cons_self]
      rfl
    · have other : (name == n) = false := by simpa using Ne.symm own
      have dropped : valuesOf name ((n, value) :: pairs) = valuesOf name pairs := by
        simp [valuesOf, own]
      rw [List.lookup_cons, other, dropped]
      exact ih

theorem count_eq_length_valuesOf (name : String) (pairs : List (String × String)) :
    (pairs.map (·.1)).count name = (valuesOf name pairs).length := by
  rw [valuesOf, List.length_map, List.count, List.countP_map, List.countP_eq_length_filter]
  rfl

/-- The reasons that a request gives: the values of the field in its form. There are none if its body is
not sent as a form or is too long to be read. -/
def Request.reasons (r : Request) : List String :=
  if (r.header? "content-type").any isFormType then
    (r.readableBody?.map fun body => valuesOf reasonField (FormPairs.decode body)).getD []
  else []

/-- A form gives a reason only if it gives one and no more. -/
theorem reasonOfForm_eq (body : List UInt8) :
    reasonOfForm body = match valuesOf reasonField (FormPairs.decode body) with
      | [text] => text
      | _ => "" := by
  have count := count_eq_length_valuesOf reasonField (FormPairs.decode body)
  have first := lookup_eq_head?_valuesOf reasonField (FormPairs.decode body)
  unfold reasonOfForm
  dsimp only
  rw [first]
  generalize valuesOf reasonField (FormPairs.decode body) = values at count
  cases found : firstRepeated [reasonField] [] ((FormPairs.decode body).map (·.1)) with
  | some name =>
    obtain ⟨named, often⟩ := firstRepeated_some found
    obtain rfl := List.mem_singleton.1 named
    rw [count] at often
    rcases values with _ | ⟨text, _ | ⟨other, rest⟩⟩
    · rfl
    · exact absurd often (by simp [allowance])
    · rfl
  | none =>
    have within := firstRepeated_eq_none_iff.1 found reasonField List.mem_cons_self
    rw [count] at within
    rcases values with _ | ⟨text, _ | ⟨other, rest⟩⟩
    · rfl
    · rfl
    · exact absurd within (by simp [allowance])

theorem reasonOf_eq (r : Request) :
    reasonOf r = match r.reasons with
      | [text] => text
      | _ => "" := by
  unfold reasonOf Request.reasons
  split
  · cases r.readableBody? with
    | none => rfl
    | some body => exact reasonOfForm_eq body
  · rfl

theorem reasonOf_of_reasons {r : Request} {text : String} (given : r.reasons = [text]) :
    reasonOf r = text := by
  rw [reasonOf_eq, given]

/-- Nothing usable comes of a form that does not give exactly one reason, or gives a blank one. -/
theorem isBlankText_reasonOf {r : Request}
    (unusable : ∀ text, r.reasons = [text] → ∀ c ∈ text.toList, isBlank c = true) :
    isBlankText (reasonOf r) = true := by
  rw [isBlankText_iff, reasonOf_eq]
  split
  · next text given => exact unusable text given
  · exact nofun

/-! ## What becomes of a rejection -/

/-- A pending request was rejected through the link for the reason, and the answer reports it. -/
inductive Request.Rejects (r : Request) (reason : String) (v : World) :
    Except Crash Response → World → Prop where
  | intro {id supplied : String} {before after : ApprovalDesk.Request} {answer : Response} {w : World}
      (presents : r.Presents id supplied) (found : v.store.requests.find? id = some before)
      (pending : before.status = .pending) (stored : w.store.requests.find? id = some after)
      (rejected : after.status = .rejected) (because : after.rejectionReason = some reason)
      (ok : answer.status = 200) (tells : answer.Tells (.processed after) r.format)
      (json : r.format = .json → ∃ members, Json.parse? answer.body = some (.obj members) ∧
        members.lookup reasonField = some (.str reason)) :
      Rejects r reason v (.ok answer) w

variable {ttl : Int} {r : Request} {id supplied reason : String}

/-- The answer about a rejection that was carried out reports its reason. -/
theorem Request.rejects_of_stored {v w : World} {before after : ApprovalDesk.Request}
    (presents : r.Presents id supplied) (found : v.store.requests.find? id = some before)
    (pending : before.status = .pending) (stored : w.store.requests.find? id = some after)
    (rejected : after.status = .rejected) (because : after.rejectionReason = some reason) :
    r.Rejects reason v (.ok ((Report.processed after).respond r.format)) w := by
  refine .intro presents found pending stored rejected because (Report.respond_status _ _)
    (Report.tells_respond _ _) fun json => ?_
  rw [json]
  refine ⟨_, Json.parse?_write (Report.processed after).numberless_members, ?_⟩
  rw [Report.members, because]
  rfl

/-- A rejection through a link changes nothing, or is carried out for its reason. -/
theorem run_decide_cases (presents : r.Presents id supplied) (x : Scene) :
    let result := x.run (decide ttl r.format id supplied (.reject reason))
    x.world.Unchanged result.2.world ∨ r.Rejects reason x.world result.1 result.2.world := by
  have outcome := x.run_allOrNothing (process_allOrNothing ttl id supplied (.reject reason))
  rw [decide_steps, Scene.run_map]
  dsimp only
  generalize x.run (process ttl id supplied (.reject reason)).run = result at outcome ⊢
  cases outcome with
  | nothing idle store queue => exact Or.inl ⟨store, queue⟩
  | carried answered tells queue =>
    cases tells with
    | @link _ _ _ now =>
      obtain ⟨-, before, found, pending, -, rfl, next⟩ := Store.of_committed answered
      rw [Except.map, respondDecision_eq_respond]
      refine Or.inr (Request.rejects_of_stored presents found pending ?_
        (before.decided_status ..) rfl)
      rw [next]
      exact Table.find?_insert_self ..

/-- How a rejection is answered: the reason is looked at before the token. -/
theorem handle_rejection (post : r.method = "POST") (path : Route.ofPath? r.path = some .rejection)
    (ttl : Int) : handle ttl r = withLink r fun id supplied =>
      if isBlankText (reasonOf r) then .done (respondFailure .reasonRequired r.format)
      else decide ttl r.format id supplied (.reject (trim (reasonOf r))) :=
  (handle_post path post).trans reject_steps

/-- **A rejection without a reason never touches the link**, and one with a reason is carried out for just
that. A request whose form does not give exactly one reason, or gives a blank one, gets one and the same
answer 400 whatever is on record, at any time and in any weather, and nothing changes. If the form gives a
reason that is not blank, whatever comes to be changed is the request that the link presents: it is
rejected for the text without the blanks around it, and the answer reports the same. -/
theorem rejection_needs_a_reason {r : Request} (post : r.method = "POST")
    (path : Route.ofPath? r.path = some .rejection) :
    ((∀ text, r.reasons = [text] → ∀ c ∈ text.toList, isBlank c = true) →
      ∃ answer : Response, answer.status = 400 ∧
        ∀ (ttl : Int) (x : Scene), x.run (handle ttl r) = (.ok answer, x)) ∧
    ∀ text, r.reasons = [text] → (∃ c ∈ text.toList, isBlank c = false) →
      TrimsTo text (trim text) ∧ ∀ (ttl : Int) (x : Scene),
        let result := x.run (handle ttl r)
        x.world.Unchanged result.2.world ∨ r.Rejects (trim text) x.world result.1 result.2.world := by
  simp only [handle_rejection post path]
  refine ⟨fun unusable => ?_, fun text given solid => ⟨trimsTo_trim text, fun ttl x => ?_⟩⟩
  · simp only [isBlankText_reasonOf unusable, if_true]
    rcases withLink_cases r fun _ _ => .done (respondFailure .reasonRequired r.format) with
      ⟨id, supplied, -, followed⟩ | ⟨answer, status, refused⟩
    · exact ⟨_, respondFailure_status .reasonRequired r.format, fun _ _ => by rw [followed]; rfl⟩
    · exact ⟨answer, status, fun _ _ => by rw [refused]; rfl⟩
  · have usable : isBlankText text = false := by
      obtain ⟨c, member, solid⟩ := solid
      refine Bool.eq_false_iff.2 fun blank => ?_
      rw [isBlankText_iff.1 blank c member] at solid
      cases solid
    simp only [reasonOf_of_reasons given, usable, Bool.false_eq_true, if_false]
    rcases withLink_cases r fun id supplied =>
        decide ttl r.format id supplied (.reject (trim text)) with
      ⟨id, supplied, presents, followed⟩ | ⟨answer, -, refused⟩
    · rw [followed]
      exact run_decide_cases presents x
    · rw [refused]
      exact Or.inl ⟨rfl, rfl⟩

/-- The holder of the link to Ann's request sends a form that rejects it, and prefers JSON. -/
def sendForm (body : String) : Request where
  method := "POST"
  target := "/processRejection?requestId=r1&token=abc"
  headers := [("content-type", Utf8.encode formType), ("accept", Utf8.encode "application/json")]
  body := Utf8.encode body

/-- No more than a no-break space is no reason. The reason `Not yet` is one, with blanks of any kind
around it, and Ann's request is rejected for it. -/
theorem anns_request_is_rejected_for_a_reason :
    (∃ answer : Response, answer.status = 400 ∧ ∀ (ttl : Int) (x : Scene),
      x.run (handle ttl (sendForm "rejectionReason=%C2%A0")) = (.ok answer, x)) ∧
    (let x : Scene := ⟨World.withAnnsRequest, Sky.fair⟩
     let form := sendForm "rejectionReason=%C2%A0+Not+yet%0A"
     let result := x.run (handle 1000 form)
     form.Rejects "Not yet" x.world result.1 result.2.world) := by
  have noReason : (sendForm "rejectionReason=%C2%A0").reasons = ["\u00A0"] := by decide +kernel
  have reason : (sendForm "rejectionReason=%C2%A0+Not+yet%0A").reasons = ["\u00A0 Not yet\n"] := by
    decide +kernel
  have trimmed : trim "\u00A0 Not yet\n" = "Not yet" := by decide +kernel
  refine ⟨(rejection_needs_a_reason rfl (by decide +kernel)).1 ?_, ?_⟩
  · intro text given
    rw [noReason] at given
    cases given
    exact List.all_eq_true.1 (by decide +kernel)
  · have ends := ((rejection_needs_a_reason rfl (by decide +kernel)).2 _ reason
      ⟨'N', by decide, by decide⟩).2 1000 ⟨World.withAnnsRequest, Sky.fair⟩
    rw [trimmed] at ends
    refine ends.resolve_left fun same => ?_
    have queue := congrArg List.length same.queue
    exact absurd queue (by decide +kernel)

end Http

end ApprovalDesk
