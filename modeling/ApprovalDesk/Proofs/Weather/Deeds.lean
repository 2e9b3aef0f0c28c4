import ApprovalDesk.Proofs.Workflow.AllOrNothing

/-!
# Deeds in any weather

Whatever the weather does during a call to the workflow, the call does one deed or nothing. The deed
explains the answer, it says all that becomes of the store, and what it announces is all that the queue
receives (`run_call`). The moments at which the clock is read are not the same all through the call, and
nothing here depends on them.
-/

namespace ApprovalDesk

set_option autoImplicit false

open ApprovalDesk.Text ApprovalDesk.Time ApprovalDesk.Workflow

/-- The call puts a decision about the request `id` before the store, in the name of an actor. -/
inductive Call.Puts (id : String) (d : Decision) : Actor → Call → Prop where
  | link (supplied : String) : Puts id d .emailLink (.process id supplied d)
  | panel {adminId : String} (named : (trim adminId).isEmpty = false) :
      Puts id d (.panel (trim adminId)) (.processViaPanel id d adminId)

/-- The deed that goes with the answer to a call, and what on record made it possible. -/
inductive Deed.Explains (s : Store) : Deed → Call → Except Crash Answer → Prop where
  | nothing {c : Call} {answer : Except Crash Answer}
      (modest : ∀ a, answer = .ok a → a.claims = false) : Explains s .nothing c answer
  | submitted {data : Submission} {id secret : String} {now later : Instant}
      (complete : validateSubmission data = .ok ())
      (newRequest : s.requests.find? id = none) (newToken : s.tokens.find? id = none) :
      Explains s (.submitted (Request.new id data now) (Token.new id secret later)) (.submit data)
        (.ok (.submitted (.ok (Request.new id data now))))
  | issued {id secret : String} {now : Instant} (newToken : s.tokens.find? id = none) :
      Explains s (.issued (Token.new id secret now)) (.issue id) (.ok (.issued (.ok secret)))
  | marked {id : String} {now : Instant} {t : Token} (found : s.tokens.find? id = some t)
      (unused : t.used = false) :
      Explains s (.marked id now) (.markUsed id) (.ok (.marked (.ok true)))
  | decided {c : Call} {id : String} {d : Decision} {a : Actor} {r : Request} {now : Instant}
      (puts : c.Puts id d a) (found : s.requests.find? id = some r) (pending : r.status = .pending) :
      Explains s (.decided id (r.decided d a now) now) c
        (.ok (.decided (.ok (.processed (r.decided d a now)))))

/-- An answer that tells of no deed goes with none. -/
theorem Deed.Explains.nothing_of_modest {s : Store} {deed : Deed} {c : Call}
    {answer : Except Crash Answer} (explains : deed.Explains s c answer)
    (modest : ∀ a, answer = .ok a → a.claims = false) : deed = .nothing := by
  cases explains with
  | nothing => rfl
  | submitted | issued | marked | decided => cases modest _ rfl

/-- What is on record of a submission. -/
theorem Deed.stored_submitted (s : Store) (r : Request) (t : Token) (own : t.requestId = r.id) :
    ((Deed.submitted r t).store s).requests.find? r.id = some r ∧
      ((Deed.submitted r t).store s).tokens.find? r.id = some t := by
  refine ⟨Table.find?_insert_self .., ?_⟩
  rw [← own]
  exact Table.find?_insert_self ..

namespace Store

variable {s s' : Store}

/-- A decision that was carried out was about a pending request, and the token let it through. -/
theorem of_committed {id : String} {d : Decision} {a : Actor} {g : Option Guard} {now : Instant}
    {before : Status} {after : Request}
    (answered : s.answer (.commit id d a g now) = .ok (.ok (.committed before after), s')) :
    guardVerdict (s.tokens.find? id) g now = .ok .valid ∧
      ∃ r, s.requests.find? id = some r ∧ r.status = .pending ∧ before = .pending ∧
        after = r.decided d a now ∧ s' = (Deed.decided id after now).store s := by
  have ends := s.commit_cases id d a g now
  rw [answer] at answered
  cases result : s.commit id d a g now with
  | error c =>
    rw [result] at answered
    cases answered
  | ok pair =>
    obtain ⟨outcome, next⟩ := pair
    rw [result] at answered ends
    cases answered
    cases ends with
    | carried r found pending guard => exact ⟨guard, r, found, pending, rfl, rfl, rfl⟩

theorem of_submitted {r : Request} {t : Token}
    (answered : s.answer (.insertSubmission r t) = .ok (.ok (), s')) :
    s.requests.find? r.id = none ∧ s.tokens.find? t.requestId = none ∧
      s' = (Deed.submitted r t).store s := by
  rcases s.answer_insertSubmission r t with ⟨newRequest, newToken, stored⟩ | refused
  · rw [stored] at answered
    cases answered
    exact ⟨newRequest, newToken, rfl⟩
  · rw [refused] at answered
    cases answered

theorem of_issued {t : Token} (answered : s.answer (.insertToken t) = .ok (.ok true, s')) :
    s.tokens.find? t.requestId = none ∧ s' = (Deed.issued t).store s := by
  cases found : s.tokens.find? t.requestId with
  | some old =>
    rw [answer_insertToken_old found] at answered
    cases answered
  | none =>
    rw [answer_insertToken_new found] at answered
    cases answered
    exact ⟨rfl, rfl⟩

theorem of_marked {id : String} {now : Instant}
    (answered : s.answer (.markTokenUsed id now) = .ok (.ok true, s')) :
    ∃ t, s.tokens.find? id = some t ∧ t.used = false ∧ s' = (Deed.marked id now).store s := by
  rcases s.answer_markTokenUsed id now with ⟨t, found, unused, marked⟩ | unmarked
  · rw [marked] at answered
    cases answered
    exact ⟨t, found, unused, rfl⟩
  · rw [unmarked] at answered
    cases answered

end Store

/-- The call that the store carried out, told as a deed. -/
theorem Call.Tells.explains {ttl : Int} {c : Call} {a : Answer} {call : StoreCall}
    {reply : Except StoreError call.Result} {s s' : Store} (tells : c.Tells ttl a call reply)
    (answered : s.answer call = .ok (reply, s')) :
    ∃ deed : Deed, deed.Explains s c (.ok a) ∧ s' = deed.store s ∧ deed.events = call.news reply := by
  cases tells with
  | submitted complete =>
    obtain ⟨newRequest, newToken, rfl⟩ := Store.of_submitted answered
    exact ⟨_, .submitted complete newRequest newToken, rfl, rfl⟩
  | issued =>
    obtain ⟨newToken, rfl⟩ := Store.of_issued answered
    exact ⟨_, .issued newToken, rfl, rfl⟩
  | marked =>
    obtain ⟨t, found, unused, rfl⟩ := Store.of_marked answered
    exact ⟨_, .marked found unused, rfl, rfl⟩
  | link =>
    obtain ⟨-, r, found, pending, rfl, rfl, rfl⟩ := Store.of_committed answered
    exact ⟨_, .decided (.link _) found pending, rfl, rfl⟩
  | panel named =>
    obtain ⟨-, r, found, pending, rfl, rfl, rfl⟩ := Store.of_committed answered
    exact ⟨_, .decided (.panel named) found pending, rfl, rfl⟩

namespace Scene

/-- **A call does one deed or nothing**, whatever the weather. -/
theorem run_call (s : Settings) {c : Call} (service : c.isService = true) (x : Scene) :
    ∃ deed : Deed, deed.Explains x.world.store c (x.run (c.flow s)).1 ∧
      (x.run (c.flow s)).2.world.store = deed.store x.world.store ∧
      (x.run (c.flow s)).2.world.queue =
        x.world.queue ++ if x.world.listening then deed.events else [] := by
  have outcome := run_allOrNothing (Call.flow_allOrNothing s service) x
  generalize x.run (c.flow s) = result at outcome ⊢
  cases outcome with
  | nothing idle store queue =>
    refine ⟨.nothing, .nothing idle, store, ?_⟩
    simp [queue, Deed.events]
  | carried answered tells queue =>
    obtain ⟨deed, explains, store, news⟩ := tells.explains answered
    refine ⟨deed, explains, store, ?_⟩
    rw [news]
    exact queue

/-- A call whose answer tells of no deed, or that is cut short, has changed nothing. -/
theorem unchanged_of_modest (s : Settings) {c : Call} (service : c.isService = true) {x : Scene}
    (modest : ∀ a, (x.run (c.flow s)).1 = .ok a → a.claims = false) :
    (x.run (c.flow s)).2.world.store = x.world.store ∧
      (x.run (c.flow s)).2.world.queue = x.world.queue := by
  obtain ⟨deed, explains, store, queue⟩ := x.run_call s service
  obtain rfl := explains.nothing_of_modest modest
  refine ⟨store, ?_⟩
  rw [queue, Deed.events, ite_self]
  exact List.append_nil _

end Scene

end ApprovalDesk
