import Mathlib.Data.List.Forall2
import ApprovalDesk.Proofs.Dialogue.Alike
import ApprovalDesk.Proofs.Secret.Letters
import ApprovalDesk.Proofs.Weather.Scene

/-!
# Worlds that differ in their secrets

Twin worlds are the same but for the random bytes that they draw and what was made of them: the secrets
of the tokens on record, those of the submissions that wait in the queue, and the links of the letters
to the administrator. Steps that match (`Step.Twins`) get the same answers in twin worlds, random bytes
apart, and leave twin worlds behind (`World.ends_answer`).
-/

namespace ApprovalDesk

set_option autoImplicit false

open ApprovalDesk.Dialogue

/-! ## Tokens -/

/-- The token without its secret. -/
def Token.withoutSecret (t : Token) : Token := { t with secret := "" }

@[simp] theorem Token.withoutSecret_new (id secret : String) (now : Time.Instant) :
    (Token.new id secret now).withoutSecret = Token.new id "" now := rfl

@[simp] theorem Token.withoutSecret_markUsed (t : Token) (now : Time.Instant) :
    (t.markUsed now).withoutSecret = t.withoutSecret.markUsed now := by
  unfold markUsed withoutSecret
  dsimp only
  split <;> rfl

/-- What operators are shown of a token does not depend on the secret. -/
theorem Token.redacted_withoutSecret (t : Token) : t.withoutSecret.redacted = t.redacted := rfl

/-! ## Stores -/

/-- Stores that differ in the secrets of their tokens only. -/
structure Store.Twins (s s' : Store) : Prop where
  requests : s.requests = s'.requests
  tokens : ∀ id, (s.tokens.find? id).map Token.withoutSecret =
    (s'.tokens.find? id).map Token.withoutSecret
  notifications : s.notifications = s'.notifications
  profiles : s.profiles = s'.profiles
  audit : s.audit = s'.audit

namespace Store.Twins

variable {s s' : Store}

theorem refl (s : Store) : s.Twins s := ⟨rfl, fun _ => rfl, rfl, rfl, rfl⟩

/-- Corresponding tokens are shown to operators in the same way. -/
theorem redacted (h : s.Twins s') (id : String) :
    (s.tokens.find? id).map Token.redacted = (s'.tokens.find? id).map Token.redacted := by
  have shown : Token.redacted = Token.redacted ∘ Token.withoutSecret :=
    funext fun t => t.redacted_withoutSecret.symm
  rw [shown, ← Option.map_map, ← Option.map_map, h.tokens id]

/-- A token is there in both or in neither. -/
theorem contains_tokens (h : s.Twins s') (id : String) :
    s.tokens.contains id = s'.tokens.contains id := by
  have same := congrArg Option.isSome (h.tokens id)
  rwa [Option.isSome_map, Option.isSome_map] at same

theorem tokens_insert (h : s.Twins s') {id : String} {t t' : Token}
    (twins : t.withoutSecret = t'.withoutSecret) (k : String) :
    ((s.tokens.insert id t).find? k).map Token.withoutSecret =
      ((s'.tokens.insert id t').find? k).map Token.withoutSecret := by
  rw [Table.find?_insert, Table.find?_insert]
  split
  · exact congrArg some twins
  · exact h.tokens k

theorem tokens_markUsed (h : s.Twins s') (id : String) (now : Time.Instant) (k : String) :
    ((s.tokens.modify id (·.markUsed now)).find? k).map Token.withoutSecret =
      ((s'.tokens.modify id (·.markUsed now)).find? k).map Token.withoutSecret := by
  have marked (t : Option Token) : (t.map (·.markUsed now)).map Token.withoutSecret =
      (t.map Token.withoutSecret).map (·.markUsed now) := by
    cases t <;> simp
  rw [Table.find?_modify, Table.find?_modify]
  split
  · rw [marked, marked, h.tokens id]
  · exact h.tokens k

end Store.Twins

/-- The calls to the store whose answers do not depend on any secret. -/
def StoreCall.isOpen : StoreCall → Bool
  | .ping | .findRequest _ | .markTokenUsed .. | .commit _ _ _ none _ | .insertNotification _
  | .certifyProfile .. | .appendAudit _ => true
  | .insertRequest _ | .insertSubmission .. | .insertToken _ | .findToken _
  | .commit _ _ _ (some _) _ => false

/-- A decision that comes without a string does not look at the token, and it does not crash. -/
theorem plan_unguarded (r : Option Request) (d : Decision) (a : Actor) (now : Time.Instant) :
    ∃ result, ∀ t, plan r t d a none now = .ok result := by
  cases r with
  | none => exact ⟨_, fun _ => rfl⟩
  | some r =>
    unfold plan
    dsimp only
    split <;> exact ⟨_, fun _ => rfl⟩

/-- Twin stores answer an open call in the same way and stay twins. -/
theorem Store.Twins.answer {s s' : Store} {call : StoreCall} (isOpen : call.isOpen = true)
    (h : s.Twins s') : ∃ reply t t', s.answer call = .ok (reply, t) ∧
      s'.answer call = .ok (reply, t') ∧ t.Twins t' := by
  cases call with
  | ping => exact ⟨_, _, _, rfl, rfl, h⟩
  | findRequest id =>
    refine ⟨.ok (s.requests.find? id), s, s', rfl, ?_, h⟩
    rw [Store.answer, h.requests]
  | markTokenUsed id now =>
    have same := h.tokens id
    rw [Store.answer, Store.answer, markTokenUsed, markTokenUsed]
    cases found : s.tokens.find? id with
    | none =>
      cases found' : s'.tokens.find? id with
      | none => exact ⟨_, _, _, rfl, rfl, h⟩
      | some t' => simp [found, found'] at same
    | some t =>
      cases found' : s'.tokens.find? id with
      | none => simp [found, found'] at same
      | some t' =>
        have twins : t.withoutSecret = t'.withoutSecret := by simpa [found, found'] using same
        have used : t'.used = t.used := (congrArg Token.used twins.symm :)
        dsimp only
        rw [used]
        split
        · exact ⟨_, _, _, rfl, rfl, h⟩
        · refine ⟨_, _, _, rfl, rfl, { h with tokens := h.tokens_insert ?_ }⟩
          simp [twins]
  | commit id d a g now =>
    cases g with
    | some g => cases isOpen
    | none =>
      obtain ⟨result, planned⟩ := plan_unguarded (s'.requests.find? id) d a now
      rw [Store.answer, Store.answer, commit, commit, h.requests, planned, planned]
      rcases result with cause | after
      · exact ⟨_, _, _, rfl, rfl, h⟩
      · refine ⟨_, _, _, rfl, rfl, { h with requests := ?_, tokens := h.tokens_markUsed id now }⟩
        rfl
  | insertNotification n =>
    exact ⟨_, _, _, rfl, rfl, { h with notifications := congrArg (· ++ [n]) h.notifications }⟩
  | certifyProfile userId now =>
    refine ⟨_, _, _, rfl, rfl, { h with profiles := ?_ }⟩
    rw [certifyProfile, certifyProfile, h.profiles]
  | appendAudit e => exact ⟨_, _, _, rfl, rfl, { h with audit := congrArg (· ++ [e]) h.audit }⟩
  | insertRequest | insertSubmission | insertToken | findToken => cases isOpen

/-- Twin stores take in the same request with corresponding tokens in the same way and stay twins. -/
theorem Store.Twins.insertSubmission {s s' : Store} (h : s.Twins s') (r : Request) {t t' : Token}
    (twins : t.withoutSecret = t'.withoutSecret) :
    (s.insertSubmission r t).1 = (s'.insertSubmission r t').1 ∧
      (s.insertSubmission r t).2.Twins (s'.insertSubmission r t').2 := by
  have own : t.requestId = t'.requestId := (congrArg Token.requestId twins :)
  unfold Store.insertSubmission
  rw [h.requests, h.contains_tokens, own]
  split
  · exact ⟨rfl, h⟩
  · exact ⟨rfl, { h with requests := rfl, tokens := own ▸ h.tokens_insert twins }⟩

/-! ## Worlds -/

/-- Announcements that are the same but for the token. -/
inductive Event.Twins : Event → Event → Prop where
  | submitted (r : Request) (token token' : String) : Twins (.submitted r token) (.submitted r token')
  | statusChanged (c : StatusChange) : Twins (.statusChanged c) (.statusChanged c)

/-- Worlds that differ in their secrets and in what was made of them, whatever the weather. -/
structure World.Twins (s : Settings) (w w' : World) : Prop where
  store : w.store.Twins w'.store
  ids : w.ids = w'.ids
  idsDrawn : w.idsDrawn = w'.idsDrawn
  listening : w.listening = w'.listening
  queue : List.Forall₂ Event.Twins w.queue w'.queue
  outbox : List.Forall₂ (Letter.Twins s) w.outbox w'.outbox

theorem World.Twins.announce {s : Settings} {w w' : World} (h : w.Twins s w') {e e' : Event}
    (twins : e.Twins e') : (w.announce e).Twins s (w'.announce e') := by
  unfold World.announce
  rw [← h.listening]
  split
  · exact { h with queue := List.rel_append h.queue (.cons twins .nil), listening := rfl }
  · exact h

/-- What becomes of a letter does not depend on the token in its links. -/
def Weather.Impartial (s : Settings) (y : Weather) : Prop :=
  ∀ l l', Letter.Twins s l l' → y.relay l = y.relay l'

/-- Steps that two runs take in the same place when they differ in their secrets, and how the replies
have to be related. -/
inductive Step.Twins (s : Settings) : Matching Step Step.Reply where
  | store {call : StoreCall} (isOpen : call.isOpen = true) : Twins s (.store call) (.store call) Eq
  | insertSubmission (r : Request) {t t' : Token} (twins : t.withoutSecret = t'.withoutSecret) :
      Twins s (.store (.insertSubmission r t)) (.store (.insertSubmission r t')) Eq
  | readClock : Twins s .readClock .readClock Eq
  | drawId : Twins s .drawId .drawId Eq
  | drawSecret : Twins s .drawSecret .drawSecret fun random random' => random.isSome = random'.isSome
  | publish {e e' : Event} (twins : e.Twins e') : Twins s (.publish e) (.publish e') Eq
  | deliver {l l' : Letter} (twins : l.Twins s l') : Twins s (.deliver l) (.deliver l') Eq

/-! ## Scenes -/

/-- Twin worlds under the same sky, which treats twin letters alike. -/
structure Scene.Twins (s : Settings) (x x' : Scene) : Prop where
  world : x.world.Twins s x'.world
  sky : x.sky = x'.sky
  impartial : ∀ n, (x.sky n).Impartial s

namespace Scene

variable {α β : Type} {s : Settings} {x x' : Scene}

/-- The scene after a step that leaves a world behind. -/
theorem Twins.next (h : x.Twins s x') {w w' : World} (twins : w.Twins s w') :
    Scene.Twins s ⟨w, fun n => x.sky (n + 1)⟩ ⟨w', fun n => x'.sky (n + 1)⟩ where
  world := twins
  sky := by rw [h.sky]
  impartial n := h.impartial (n + 1)

/-- Twin scenes after a call to the store. -/
theorem Twins.stored (h : x.Twins s x') {t t' : Store} (twins : t.Twins t') :
    (x.stored t).Twins s (x'.stored t') :=
  h.next { h.world with store := twins }

theorem answer_drawSecret_up (up : (x.sky 0).randomUp = true) : x.answer .drawSecret =
    (.ok (some (x.world.secrets x.world.secretsDrawn)),
      ⟨(x.world.under (x.sky 0)).drawn, fun n => x.sky (n + 1)⟩) := by
  have up' : (x.world.under (x.sky 0)).randomUp = true := up
  rw [answer, World.answer, if_pos up']
  rfl

theorem answer_drawSecret_down (down : (x.sky 0).randomUp = false) : x.answer .drawSecret =
    (.ok none, ⟨x.world.under (x.sky 0), fun n => x.sky (n + 1)⟩) := by
  have down' : (x.world.under (x.sky 0)).randomUp = false := down
  rw [answer, World.answer, down', if_neg Bool.false_ne_true]

/-- Steps that match get related replies in twin scenes. -/
theorem ends_answer {q q' : Step} {T : q.Reply → q'.Reply → Prop} (matched : Step.Twins s q q' T)
    (h : x.Twins s x') : Ends T (Scene.Twins s) (x.answer q) (x'.answer q') := by
  have sky : x'.sky 0 = x.sky 0 := congrFun h.sky.symm 0
  have under : (x.world.under (x.sky 0)).Twins s (x'.world.under (x'.sky 0)) := { h.world with }
  cases matched with
  | @store call isOpen =>
    cases up : (x.sky 0).storeUp with
    | true =>
      obtain ⟨reply, t, t', answered, answered', twins⟩ := h.world.store.answer isOpen
      rw [answer_store_up up answered, answer_store_up (sky ▸ up) answered']
      exact .value rfl (h.stored twins)
    | false =>
      rw [answer_store_down up, answer_store_down (sky ▸ up)]
      exact .value rfl (h.stored h.world.store)
  | @insertSubmission r t t' same =>
    cases up : (x.sky 0).storeUp with
    | true =>
      obtain ⟨reply, twins⟩ := h.world.store.insertSubmission r same
      rw [answer_store_up up rfl, answer_store_up (sky ▸ up) rfl]
      exact .value reply (h.stored twins)
    | false =>
      rw [answer_store_down up, answer_store_down (sky ▸ up)]
      exact .value rfl (h.stored h.world.store)
  | readClock => exact .value (sky ▸ rfl) (h.next under)
  | drawId =>
    refine .value ?_ (h.next { h.world with idsDrawn := congrArg (· + 1) h.world.idsDrawn })
    exact h.world.idsDrawn ▸ congrFun h.world.ids _
  | drawSecret =>
    cases up : (x.sky 0).randomUp with
    | true =>
      rw [answer_drawSecret_up up, answer_drawSecret_up (sky ▸ up)]
      exact .value rfl (h.next { under with })
    | false =>
      rw [answer_drawSecret_down up, answer_drawSecret_down (sky ▸ up)]
      exact .value rfl (h.next under)
  | publish twins => exact .value rfl (h.next (under.announce twins))
  | @deliver l l' twins =>
    have same : (x'.world.under (x'.sky 0)).relay l' = (x.world.under (x.sky 0)).relay l :=
      sky ▸ (h.impartial 0 l l' twins).symm
    rw [answer, answer, World.answer, World.answer, same]
    cases (x.world.under (x.sky 0)).relay l with
    | ok _ =>
      refine .value rfl (h.next { h.world with outbox := ?_ })
      exact List.rel_append h.world.outbox (.cons twins .nil)
    | error e => exact .value rfl (h.next under)

/-- **Alike flows in twin scenes** come to related values and leave twin worlds behind. -/
theorem ends_run {f : Flow α} {g : Flow β} {S : α → β → Prop} (alike : Alike (Step.Twins s) S f g)
    (h : x.Twins s x') : Ends S (Scene.Twins s) (x.run f) (x'.run g) :=
  alike.run (fun matched around => ends_answer matched around) h

end Scene

end ApprovalDesk
