import ApprovalDesk.Proofs.Session.Basic
import ApprovalDesk.Proofs.Token.Check

/-!
# Validity is history

Whether a string is valid can be read off the calls made so far: it was handed out by the one call that
created a token for the request, no call used the token up since, and its time has not run out. Every
session has one of three stories to tell about a request (`TokenStory`): no token was created, one was
created and is unused, or one was created and has been used up.
-/

namespace ApprovalDesk

set_option autoImplicit false

open ApprovalDesk.Time ApprovalDesk.Workflow

namespace Entry

/-- The call created the token of the request `id`. -/
inductive Creates (id : String) : Entry → Prop where
  | issued (time : Instant) (secret : String) (announced : List Event) :
      Creates id ⟨.issue id, time, .ok (.issued (.ok secret)), announced⟩
  | submitted (data : Submission) (time : Instant) (r : Request) (announced : List Event)
      (own : r.id = id) : Creates id ⟨.submit data, time, .ok (.submitted (.ok r)), announced⟩

/-- The call handed out the token of the request `id`: to its caller, or with the event that announces
the request. -/
inductive HandsOut (id secret : String) : Entry → Prop where
  | issued (time : Instant) (announced : List Event) :
      HandsOut id secret ⟨.issue id, time, .ok (.issued (.ok secret)), announced⟩
  | submitted (data : Submission) (time : Instant) (r : Request) (own : r.id = id) :
      HandsOut id secret ⟨.submit data, time, .ok (.submitted (.ok r)), [.submitted r secret]⟩

/-- The call used up the token of the request `id`: it marked the token, or decided the request. -/
inductive UsesUp (id : String) : Entry → Prop where
  | marked (time : Instant) (announced : List Event) :
      UsesUp id ⟨.markUsed id, time, .ok (.marked (.ok true)), announced⟩
  | link (supplied : String) (d : Decision) (time : Instant) (after : Request)
      (announced : List Event) :
      UsesUp id ⟨.process id supplied d, time, .ok (.decided (.ok (.processed after))), announced⟩
  | panel (d : Decision) (adminId : String) (time : Instant) (after : Request)
      (announced : List Event) :
      UsesUp id
        ⟨.processViaPanel id d adminId, time, .ok (.decided (.ok (.processed after))), announced⟩

variable {id secret : String} {e : Entry}

theorem HandsOut.creates (h : e.HandsOut id secret) : e.Creates id := by
  cases h with
  | issued time announced => exact .issued time secret announced
  | submitted data time r own => exact .submitted data time r _ own

theorem HandsOut.unique {other : String} (h : e.HandsOut id secret) (k : e.HandsOut id other) :
    other = secret := by
  cases h <;> cases k <;> rfl

/-- What a call does to the token of the request `id`. -/
inductive TokenStep (id : String) (e : Entry) : Option Token → Option Token → Prop where
  | kept (token : Option Token) (idle : ¬ e.Creates id) (sparing : ¬ e.UsesUp id) :
      TokenStep id e token token
  | created (secret : String) (handsOut : e.HandsOut id secret) (sparing : ¬ e.UsesUp id) :
      TokenStep id e none (some (Token.new id secret e.time))
  | used (token : Option Token) (now : Instant) (idle : ¬ e.Creates id) (usesUp : e.UsesUp id) :
      TokenStep id e token (token.map (·.markUsed now))

end Entry

/-- What the past says about the token of the request `id`, and the token on record. -/
inductive TokenStory (id : String) : List Entry → Option Token → Prop where
  | none {past : List Entry} (nobody : ∀ e ∈ past, ¬ e.Creates id) : TokenStory id past none
  | unused {before after : List Entry} {e : Entry} {secret : String}
      (handsOut : e.HandsOut id secret) (alone : ∀ u ∈ before ++ after, ¬ u.Creates id)
      (spared : ∀ u ∈ after, ¬ u.UsesUp id) :
      TokenStory id (before ++ e :: after) (some (Token.new id secret e.time))
  | used {before after : List Entry} {e : Entry} {secret : String} {t : Token}
      (handsOut : e.HandsOut id secret) (alone : ∀ u ∈ before ++ after, ¬ u.Creates id)
      (usedUp : ∃ u ∈ after, u.UsesUp id) (spent : t.used = true) :
      TokenStory id (before ++ e :: after) (some t)

/-- There is one way to split a list at its only member of a kind. -/
theorem split_unique {α : Type} {P : α → Prop} {front back front' back' : List α} {e f : α}
    (same : front ++ e :: back = front' ++ f :: back') (kind : P e)
    (alone : ∀ u ∈ front' ++ back', ¬ P u) : front = front' ∧ e = f ∧ back = back' := by
  induction front generalizing front' with
  | nil =>
    cases front' with
    | nil =>
      obtain ⟨rfl, rfl⟩ := List.cons.inj same
      exact ⟨rfl, rfl, rfl⟩
    | cons g front' =>
      obtain ⟨rfl, -⟩ := List.cons.inj same
      exact absurd kind (alone e (by simp))
  | cons g front ih =>
    cases front' with
    | nil =>
      obtain ⟨rfl, rfl⟩ := List.cons.inj same
      exact absurd kind (alone e (by simp))
    | cons g' front' =>
      obtain ⟨rfl, rest⟩ := List.cons.inj same
      obtain ⟨rfl, rfl, rfl⟩ := ih rest fun u member => alone u (List.mem_cons_of_mem g member)
      exact ⟨rfl, rfl, rfl⟩

namespace TokenStory

variable {id : String} {past before after : List Entry} {token token' : Option Token} {e : Entry}

/-- Nobody else created the token, if the last call did not. -/
theorem alone_concat {u : Entry} (alone : ∀ v ∈ before ++ after, ¬ v.Creates id)
    (idle : ¬ u.Creates id) : ∀ v ∈ before ++ (after ++ [u]), ¬ v.Creates id := by
  intro v member
  rw [← List.append_assoc] at member
  rcases List.mem_append.1 member with earlier | last
  · exact alone v earlier
  · rw [List.mem_singleton.1 last]
    exact idle

/-- One call more. -/
theorem next (story : TokenStory id past token) (step : e.TokenStep id token token') :
    TokenStory id (past ++ [e]) token' := by
  cases story with
  | none nobody =>
    cases step with
    | kept _ idle sparing =>
      refine .none fun u member => ?_
      rcases List.mem_append.1 member with earlier | last
      · exact nobody u earlier
      · rw [List.mem_singleton.1 last]
        exact idle
    | created secret handsOut sparing =>
      exact .unused handsOut (by simpa using nobody) (by simp)
    | used _ now idle usesUp =>
      refine .none fun u member => ?_
      rcases List.mem_append.1 member with earlier | last
      · exact nobody u earlier
      · rw [List.mem_singleton.1 last]
        exact idle
  | @unused before after f secret handsOut alone spared =>
    rw [List.append_assoc, List.cons_append]
    cases step with
    | kept _ idle sparing =>
      refine .unused handsOut (alone_concat alone idle) fun u member => ?_
      rcases List.mem_append.1 member with earlier | last
      · exact spared u earlier
      · rw [List.mem_singleton.1 last]
        exact sparing
    | used _ now idle usesUp =>
      exact .used handsOut (alone_concat alone idle) ⟨e, by simp, usesUp⟩ (Token.markUsed_used _ _)
  | @used before after f secret t handsOut alone usedUp spent =>
    obtain ⟨u, member, usesUp⟩ := usedUp
    have still : ∃ u ∈ after ++ [e], u.UsesUp id := ⟨u, List.mem_append_left _ member, usesUp⟩
    rw [List.append_assoc, List.cons_append]
    cases step with
    | kept _ idle sparing => exact .used handsOut (alone_concat alone idle) still spent
    | used _ now idle usesUp =>
      exact .used handsOut (alone_concat alone idle) still (Token.markUsed_used _ _)

end TokenStory

/-! ## What the calls do -/

namespace Entry

variable {id : String} {c : Call} {time : Instant} {answer : Except Crash Answer}
  {announced : List Event}

/-- A call that tells of no deed created no token and used none up. -/
theorem idle_of_modest (modest : ∀ a, answer = .ok a → a.claims = false) :
    ¬ Creates id ⟨c, time, answer, announced⟩ ∧ ¬ UsesUp id ⟨c, time, answer, announced⟩ := by
  constructor
  · intro creates
    cases creates with
    | issued | submitted => exact absurd (modest _ rfl) (by simp [Answer.claims])
  · intro usesUp
    cases usesUp with
    | marked | link | panel => exact absurd (modest _ rfl) (by simp [Answer.claims])

end Entry

namespace Session

open Entry

variable {s : Settings} {w : World}

/-- A call that creates the token of one request is no step for the others. -/
theorem tokenStep_of_created {tokens : Table Token} {e : Entry} {own secret : String} (id : String)
    (newToken : tokens.find? own = none) (handsOut : e.HandsOut own secret)
    (alone : e.Creates id → id = own) (sparing : ¬ e.UsesUp id) :
    e.TokenStep id (tokens.find? id)
      ((tokens.insert own (Token.new own secret e.time)).find? id) := by
  by_cases this : id = own
  · subst this
    rw [newToken, Table.find?_insert_self]
    exact .created secret handsOut sparing
  · rw [Table.find?_insert_of_ne _ _ this]
    have idle : ¬ e.Creates id := fun creates => this (alone creates)
    exact .kept _ idle sparing

/-- A call that uses up the token of one request is no step for the others. -/
theorem tokenStep_of_usedUp {tokens : Table Token} {e : Entry} {own : String} {now : Instant}
    (id : String) (usesUp : e.UsesUp own) (alone : e.UsesUp id → id = own) (idle : ¬ e.Creates id) :
    e.TokenStep id (tokens.find? id) ((tokens.modify own (·.markUsed now)).find? id) := by
  rw [Table.find?_modify]
  split
  · next this =>
    subst this
    exact .used _ now idle usesUp
  · next other =>
    have sparing : ¬ e.UsesUp id := fun again => other (alone again)
    exact .kept _ idle sparing

/-- Every call takes one of the steps. -/
theorem entry_tokenStep (s : Settings) (w : World) (c : Call) (id : String) :
    (entry s w c).TokenStep id (w.store.tokens.find? id)
      ((w.run (c.flow s)).2.store.tokens.find? id) := by
  by_cases dispatched : ∃ e, c = .handle e
  · obtain ⟨e, rfl⟩ := dispatched
    have same : (w.run ((Call.handle e).flow s)).2.store.tokens = w.store.tokens := by
      rw [Call.flow, World.run_map]
      exact (World.records_of_followsUp (Dispatch.handle_asks s e) w).2
    rw [same]
    exact .kept _ nofun nofun
  · obtain ⟨deed, did, store, heard⟩ := World.comes s w c fun e same => dispatched ⟨e, same⟩
    rw [store, entry, heard]
    generalize (w.run (c.flow s)).1 = answer at did
    cases did with
    | nothing modest =>
      obtain ⟨idle, sparing⟩ := idle_of_modest modest
      exact .kept _ idle sparing
    | submitted complete newRequest newToken =>
      refine tokenStep_of_created id newToken (.submitted _ w.now _ rfl) ?_ nofun
      intro creates
      cases creates with
      | submitted _ _ _ _ this => exact this.symm
    | issued newToken =>
      refine tokenStep_of_created id newToken (.issued w.now _) ?_ nofun
      intro creates
      cases creates with
      | issued => rfl
    | marked found unused =>
      refine tokenStep_of_usedUp id (.marked w.now _) ?_ nofun
      intro again
      cases again with
      | marked => rfl
    | link found pending valid =>
      refine tokenStep_of_usedUp id (.link _ _ w.now _ _) ?_ nofun
      intro again
      cases again with
      | link => rfl
    | panel named found pending =>
      refine tokenStep_of_usedUp id (.panel _ _ w.now _ _) ?_ nofun
      intro again
      cases again with
      | panel => rfl

/-- Every session has one of the stories to tell. -/
theorem tokenStory (s : Settings) (w : World) (as : List Act) (id : String) :
    TokenStory id ((opened w).acts s as).past
      (((opened w).acts s as).world.store.tokens.find? id) := by
  have step : ∀ (x : Session) (a : Act), TokenStory id x.past (x.world.store.tokens.find? id) →
      TokenStory id (x.act s a).past ((x.act s a).world.store.tokens.find? id) := by
    intro x a story
    cases a with
    | call c => exact story.next (entry_tokenStep s x.world c id)
    | outside change => exact story
  exact acts_keep (fun x => TokenStory id x.past (x.world.store.tokens.find? id)) step
    (.none (by simp [opened])) as

/-- The string is on record as valid: somebody handed it out, nobody used it up since, and its time has
not run out. -/
def Vouches (ttl : Int) (x : Session) (id supplied : String) : Prop :=
  ∃ before e after deadline, x.past = before ++ e :: after ∧ e.HandsOut id supplied ∧
    (∀ u ∈ after, ¬ u.UsesUp id) ∧ e.time.addMillis ttl = some deadline ∧
    x.world.now.isAfter deadline = false

theorem vouches_iff_of_story {ttl : Int} {x : Session} {id supplied : String}
    (story : TokenStory id x.past (x.world.store.tokens.find? id)) :
    Vouches ttl x id supplied ↔ ∃ t, x.world.store.tokens.find? id = some t ∧
      t.check supplied ttl x.world.now = .ok .valid := by
  unfold Vouches
  generalize x.past = past at story ⊢
  generalize x.world.store.tokens.find? id = token at story ⊢
  cases story with
  | none nobody =>
    constructor
    · rintro ⟨before, e, after, deadline, rfl, handsOut, -⟩
      exact absurd handsOut.creates (nobody e (by simp))
    · rintro ⟨t, found, -⟩
      cases found
  | @unused front back f secret handsOut alone spared =>
    constructor
    · rintro ⟨before, e, after, deadline, same, given, -, ends, inTime⟩
      obtain ⟨-, rfl, -⟩ := split_unique same.symm given.creates alone
      obtain rfl := handsOut.unique given
      exact ⟨_, rfl, Token.check_eq_valid_iff.2 ⟨rfl, rfl, deadline, ends, inTime⟩⟩
    · rintro ⟨t, found, valid⟩
      cases found
      obtain ⟨rfl, -, deadline, ends, inTime⟩ := Token.check_eq_valid_iff.1 valid
      exact ⟨front, f, back, deadline, rfl, handsOut, spared, ends, inTime⟩
  | @used front back f secret t handsOut alone usedUp spent =>
    constructor
    · rintro ⟨before, e, after, deadline, same, given, spared, -⟩
      obtain ⟨-, -, rfl⟩ := split_unique same.symm given.creates alone
      obtain ⟨u, member, usesUp⟩ := usedUp
      exact absurd usesUp (spared u member)
    · rintro ⟨t', found, valid⟩
      cases found
      obtain ⟨-, unused, -⟩ := Token.check_eq_valid_iff.1 valid
      rw [spent] at unused
      cases unused

/-- A check of the string comes to an answer as long as the validity of the token ends within the
calendar. -/
theorem answers_of_story {ttl : Int} {x : Session} {id : String}
    (story : TokenStory id x.past (x.world.store.tokens.find? id))
    (dated : ∀ e ∈ x.past, e.Creates id → (e.time.addMillis ttl).isSome = true) (supplied : String) :
    ∃ valid, (x.world.run (validate ttl id supplied)).1 = .ok valid := by
  have settled : ∀ t, x.world.store.tokens.find? id = some t → t.used = true ∨ t.InCalendar ttl := by
    intro t found
    rw [found] at story
    generalize x.past = past at story dated
    cases story with
    | unused handsOut => exact Or.inr (dated _ (by simp) handsOut.creates)
    | used _ _ _ spent => exact Or.inl spent
  rw [World.run_validate, World.verdict]
  cases x.world.up (.findToken id) with
  | false => exact ⟨_, rfl⟩
  | true =>
    cases found : x.world.store.tokens.find? id with
    | none => exact ⟨_, rfl⟩
    | some t =>
      obtain ⟨v, checked⟩ := Token.check_total (settled t found) supplied x.world.now
      exact ⟨v.isValid, by simp [checked, Except.map]⟩

/-- The call that created the token of a request handed it out, and no other created one. -/
theorem created_once {id : String} {before after : List Entry} {e : Entry} {token : Option Token}
    (story : TokenStory id (before ++ e :: after) token) (creates : e.Creates id) :
    (∃ secret, e.HandsOut id secret) ∧ ∀ u ∈ before ++ after, ¬ u.Creates id := by
  generalize split : before ++ e :: after = past at story
  cases story with
  | none nobody =>
    subst split
    exact absurd creates (nobody e (by simp))
  | unused handsOut alone | used handsOut alone =>
    obtain ⟨rfl, rfl, rfl⟩ := split_unique split creates alone
    exact ⟨⟨_, handsOut⟩, alone⟩

/-- **Validity is history**, in every session that begins with an empty store. A string is valid exactly
if the store is up and the calls vouch for it; the answer is never missing as long as the validity of
the token ends within the calendar; and at most one call ever creates a token for a request. -/
theorem validity_is_history (s : Settings) (w : World) (as : List Act) (id supplied : String) :
    let x := (opened w).acts s as
    ((x.world.run (validate s.tokenTtl id supplied)).1 = .ok true ↔
      x.world.up (.findToken id) = true ∧ Vouches s.tokenTtl x id supplied) ∧
    ((∀ e ∈ x.past, e.Creates id → (e.time.addMillis s.tokenTtl).isSome = true) →
      ∃ valid, (x.world.run (validate s.tokenTtl id supplied)).1 = .ok valid) ∧
    ∀ before e after, x.past = before ++ e :: after → e.Creates id →
      (∃ secret, e.HandsOut id secret) ∧ ∀ u ∈ before ++ after, ¬ u.Creates id := by
  intro x
  have story : TokenStory id x.past (x.world.store.tokens.find? id) := tokenStory s w as id
  refine ⟨?_, ?_, ?_⟩
  · rw [World.run_validate_eq_true_iff, vouches_iff_of_story story]
  · intro dated
    exact answers_of_story story dated supplied
  · intro before e after split creates
    rw [split] at story
    exact created_once story creates

/-- A session in which a token is issued and nothing else happens. -/
theorem issued_token_is_valid :
    ∃ secret, (((opened (World.quiet .empty ⟨0, 0⟩)).acts ⟨"", "", 5000, "", none⟩
      [.call (.issue "r1")]).world.run (validate 5000 "r1" secret)).1 = .ok true := by
  let secret := Token.secretFor "r1" ⟨List.replicate 32 0, rfl⟩ ⟨0, 0⟩
  refine ⟨secret, ?_⟩
  obtain ⟨valid, -, -⟩ := validity_is_history ⟨"", "", 5000, "", none⟩ (World.quiet .empty ⟨0, 0⟩)
    [.call (.issue "r1")] "r1" secret
  refine valid.2 ⟨rfl, [], _, [], ⟨5, 0⟩, rfl, .issued ⟨0, 0⟩ [], ?_, rfl, rfl⟩
  simp

end Session

end ApprovalDesk
