import ApprovalDesk.AuditEntry
import ApprovalDesk.Notification
import ApprovalDesk.Profile
import ApprovalDesk.Proofs.Json.RoundTrip
import ApprovalDesk.Proofs.Time.Timestamp
import ApprovalDesk.Proofs.Uuid.RoundTrip

/-!
# What is stored is read back

A record is written as an object with a member for each of its fields, in their order. Reading it back
checks the members against the fields (`Matches`) and then takes them apart by name. So a record is read
back if each of its values is (`decoding_undoes_encoding`).
-/

set_option autoImplicit false

namespace ApprovalDesk.Json

open ApprovalDesk.Time

/-! ## Members and fields -/

/-- The members are those of a record with the fields: each has the name of its field, and its value can
be read. -/
inductive Matches : List Field → List (String × Json) → Prop where
  | nil : Matches [] []
  | cons {α : Type} {name : String} {d : Decoder α} {v : Json} {a : α} {fields : List Field}
      {members : List (String × Json)} (reads : d v = .ok a) (rest : Matches fields members) :
      Matches (.required name d :: fields) ((name, v) :: members)

theorem Matches.names {fields : List Field} {members : List (String × Json)}
    (h : Matches fields members) : members.map (·.1) = fields.map (·.name) := by
  induction h with
  | nil => rfl
  | cons _ _ ih =>
    rw [List.map_cons, List.map_cons, ih]
    rfl

/-- Every member passes the check of the field that has its name. -/
theorem Matches.find? {fields : List Field} {members : List (String × Json)}
    (h : Matches fields members) (distinct : (fields.map (·.name)).Nodup) :
    ∀ m ∈ members, ∃ f, fields.find? (·.name == m.1) = some f ∧ f.check m.2 = .ok () := by
  induction h with
  | nil => exact List.forall_mem_nil _
  | @cons α name d v a fields members reads rest ih =>
    rw [List.map_cons, List.nodup_cons] at distinct
    rw [List.forall_mem_cons]
    constructor
    · refine ⟨.required name d, ?_, ?_⟩
      · exact List.find?_cons_of_pos (beq_self_eq_true name)
      · simp only [Field.required, reads, Except.map]
    · intro m member
      obtain ⟨f, found, passes⟩ := ih distinct.2 m member
      have other : name ≠ m.1 := by
        intro same
        apply distinct.1
        rw [← rest.names]
        exact same ▸ List.mem_map_of_mem member
      refine ⟨f, ?_, passes⟩
      rw [List.find?_cons_of_neg, found]
      simpa [Field.required] using other

/-- Members that pass their checks are taken as they stand, after those that have been seen. -/
theorem memberFields_of_found {fields : List Field} (seen : List (String × Json))
    {members : List (String × Json)}
    (found : ∀ m ∈ members, ∃ f, fields.find? (·.name == m.1) = some f ∧ f.check m.2 = .ok ())
    (distinct : ((seen.reverse ++ members).map (·.1)).Nodup) :
    memberFields fields seen members = .ok (seen.reverse ++ members) := by
  induction members generalizing seen with
  | nil => rw [memberFields, List.append_nil]
  | cons m members ih =>
    obtain ⟨name, v⟩ := m
    rw [List.forall_mem_cons] at found
    obtain ⟨⟨f, field, passes⟩, others⟩ := found
    have unseen : seen.any (·.1 == name) = false := by
      rw [List.map_append, List.nodup_append] at distinct
      rw [List.any_eq_false]
      intro p earlier same
      have before : p.1 ∈ seen.reverse.map (·.1) := List.mem_map_of_mem (List.mem_reverse.2 earlier)
      exact distinct.2.2 p.1 before name List.mem_cons_self (beq_iff_eq.1 same)
    have later : (((name, v) :: seen).reverse ++ members) = seen.reverse ++ (name, v) :: members := by
      rw [List.reverse_cons, List.append_assoc, List.singleton_append]
    have rest := ih ((name, v) :: seen) others (by rwa [later])
    rw [memberFields, field]
    dsimp only
    rw [unseen, passes, rest, later]
    rfl

/-- An object with a member for each field is read as a record. -/
theorem recordFields_of_matches (what : String) {fields : List Field} {members : List (String × Json)}
    (h : Matches fields members) (distinct : (fields.map (·.name)).Nodup) :
    recordFields what fields (.obj members) = .ok members := by
  refine memberFields_of_found [] (h.find? distinct) ?_
  rwa [List.reverse_nil, List.nil_append, h.names]

section Taken

variable {α : Type} {members : List (String × Json)} {name : String} {d : Decoder α} {v : Json}
  (found : members.lookup name = some v)

include found

/-- A field is taken from the members by its name. -/
theorem required_of_lookup {a : α} (reads : d v = .ok a) : required members name d = .ok a := by
  rw [required, found]
  exact reads

theorem optional_of_lookup {a : Option α} (reads : decodeOption d v = .ok a) :
    optional members name d = .ok a := by
  rw [optional, found]
  exact reads

end Taken

/-! ## Values -/

/-- A value that may be absent is read back, if it is not written as `null`. -/
theorem decodeOption_optionJson {α : Type} {d : Decoder α} {f : α → Json} {o : Option α}
    (reads : ∀ a, o = some a → d (f a) = .ok a) (present : ∀ a, f a ≠ .null) :
    decodeOption d (optionJson f o) = .ok o := by
  cases o with
  | none => rfl
  | some a =>
    have read := reads a rfl
    have notNull := present a
    show decodeOption d (f a) = .ok (some a)
    generalize f a = v at read notNull
    cases v with
    | null => exact absurd rfl notNull
    | bool | num | str | arr | obj => exact congrArg (Except.map some) read

theorem decodeText_option (o : Option String) : decodeOption decodeText (optionJson .str o) = .ok o :=
  decodeOption_optionJson (fun _ _ => rfl) (fun _ absent => by cases absent)

theorem decodeTimestamp_instantJson {t : Instant} (valid : t.Valid) :
    decodeTimestamp (instantJson t) = .ok t := by
  rw [instantJson, decodeTimestamp, Timestamp.read_write valid]
  rfl

theorem decodeTimestamp_option {o : Option Instant} (valid : ∀ t, o = some t → t.Valid) :
    decodeOption decodeTimestamp (optionJson instantJson o) = .ok o :=
  decodeOption_optionJson (fun t given => decodeTimestamp_instantJson (valid t given))
    (fun _ absent => by cases absent)

theorem decodeUuid_write (u : Uuid) : decodeUuid (.str u.write) = .ok u := by
  rw [decodeUuid, Uuid.read_write]
  rfl

theorem decode_status (s : Status) : Status.decode s.toJson = .ok s := by
  cases s <;> rfl

theorem decode_channel (o : Option Channel) :
    decodeOption Channel.decode (optionJson Channel.toJson o) = .ok o :=
  decodeOption_optionJson (fun c _ => by cases c <;> rfl) (fun _ absent => by cases absent)

end ApprovalDesk.Json

namespace ApprovalDesk

open ApprovalDesk.Json ApprovalDesk.Time

/-! ## Records -/

/-- The times of a request are those of a clock. -/
structure Request.Timed (r : Request) : Prop where
  createdAt : r.createdAt.Valid
  approvedAt : ∀ t, r.approvedAt = some t → t.Valid
  rejectedAt : ∀ t, r.rejectedAt = some t → t.Valid
  processedAt : ∀ t, r.processedAt = some t → t.Valid

theorem Request.decode_toJson {r : Request} (timed : r.Timed) : decode r.toJson = .ok r := by
  have createdAt := decodeTimestamp_instantJson timed.createdAt
  have approvedAt := decodeTimestamp_option timed.approvedAt
  have rejectedAt := decodeTimestamp_option timed.rejectedAt
  have processedAt := decodeTimestamp_option timed.processedAt
  have read : recordFields "CertificationRequest" fields r.toJson = .ok _ :=
    recordFields_of_matches _
      (.cons rfl <| .cons rfl <| .cons rfl <| .cons rfl <| .cons (decodeText_option _) <|
        .cons (decodeText_option _) <| .cons (decode_status _) <| .cons createdAt <| .cons approvedAt <|
        .cons rejectedAt <| .cons processedAt <| .cons (decodeText_option _) <|
        .cons (decode_channel _) <| .cons (decodeText_option _) <| .cons (decodeText_option _) .nil)
      (by decide)
  refine bind_ok read ?_
  refine bind_ok (required_of_lookup rfl rfl) ?_
  refine bind_ok (required_of_lookup rfl rfl) ?_
  refine bind_ok (required_of_lookup rfl rfl) ?_
  refine bind_ok (required_of_lookup rfl rfl) ?_
  refine bind_ok (optional_of_lookup rfl (decodeText_option _)) ?_
  refine bind_ok (optional_of_lookup rfl (decodeText_option _)) ?_
  refine bind_ok (required_of_lookup rfl (decode_status _)) ?_
  refine bind_ok (required_of_lookup rfl createdAt) ?_
  refine bind_ok (optional_of_lookup rfl approvedAt) ?_
  refine bind_ok (optional_of_lookup rfl rejectedAt) ?_
  refine bind_ok (optional_of_lookup rfl processedAt) ?_
  refine bind_ok (optional_of_lookup rfl (decodeText_option _)) ?_
  refine bind_ok (optional_of_lookup rfl (decode_channel _)) ?_
  refine bind_ok (optional_of_lookup rfl (decodeText_option _)) ?_
  refine bind_ok (optional_of_lookup rfl (decodeText_option _)) ?_
  rfl

/-- The time of a profile is that of a clock. -/
def Profile.Timed (p : Profile) : Prop := ∀ t, p.certifiedAt = some t → t.Valid

theorem Profile.decode_toJson {p : Profile} (timed : p.Timed) : decode p.toJson = .ok p := by
  have certifiedAt := decodeTimestamp_option timed
  have read : recordFields "UserProfile" fields p.toJson = .ok _ :=
    recordFields_of_matches _ (.cons rfl <| .cons rfl <| .cons certifiedAt .nil) (by decide)
  refine bind_ok read ?_
  refine bind_ok (required_of_lookup rfl rfl) ?_
  refine bind_ok (required_of_lookup rfl rfl) ?_
  refine bind_ok (optional_of_lookup rfl certifiedAt) ?_
  rfl

theorem Notification.decode_toJson {n : Notification} (timed : n.createdAt.Valid) :
    decode n.toJson = .ok n := by
  have id := decodeUuid_write n.id
  have createdAt := decodeTimestamp_instantJson timed
  have read : recordFields "Notification" fields n.toJson = .ok _ :=
    recordFields_of_matches _
      (.cons id <| .cons rfl <| .cons rfl <| .cons rfl <| .cons rfl <| .cons rfl <| .cons rfl <|
        .cons rfl <| .cons createdAt .nil)
      (by decide)
  refine bind_ok read ?_
  refine bind_ok (required_of_lookup rfl id) ?_
  refine bind_ok (required_of_lookup rfl rfl) ?_
  refine bind_ok (required_of_lookup rfl rfl) ?_
  refine bind_ok (required_of_lookup rfl rfl) ?_
  refine bind_ok (required_of_lookup rfl rfl) ?_
  refine bind_ok (required_of_lookup rfl rfl) ?_
  refine bind_ok (required_of_lookup rfl rfl) ?_
  refine bind_ok (required_of_lookup rfl rfl) ?_
  refine bind_ok (required_of_lookup rfl createdAt) ?_
  rfl

theorem AuditEntry.decode_toJson {e : AuditEntry} (timed : e.timestamp.Valid) :
    decode e.toJson = .ok e := by
  have id := decodeUuid_write e.id
  have timestamp := decodeTimestamp_instantJson timed
  have read : recordFields "AuditLogEntry" fields e.toJson = .ok _ :=
    recordFields_of_matches _
      (.cons id <| .cons rfl <| .cons rfl <| .cons rfl <| .cons rfl <| .cons (decodeText_option _) <|
        .cons (decode_channel _) <| .cons (decodeText_option _) <| .cons rfl <| .cons timestamp .nil)
      (by decide)
  refine bind_ok read ?_
  refine bind_ok (required_of_lookup rfl id) ?_
  refine bind_ok (required_of_lookup rfl rfl) ?_
  refine bind_ok (required_of_lookup rfl rfl) ?_
  refine bind_ok (required_of_lookup rfl rfl) ?_
  refine bind_ok (required_of_lookup rfl rfl) ?_
  refine bind_ok (optional_of_lookup rfl (decodeText_option _)) ?_
  refine bind_ok (optional_of_lookup rfl (decode_channel _)) ?_
  refine bind_ok (optional_of_lookup rfl (decodeText_option _)) ?_
  refine bind_ok (required_of_lookup rfl rfl) ?_
  refine bind_ok (required_of_lookup rfl timestamp) ?_
  rfl

/-! ## Texts -/

namespace Json

theorem numberless_optionJson {α : Type} {f : α → Json} (plain : ∀ a, numberless (f a) = true)
    (o : Option α) : numberless (optionJson f o) = true := by
  cases o with
  | none => rfl
  | some a => exact plain a

theorem numberless_text (o : Option String) : numberless (optionJson .str o) = true :=
  numberless_optionJson (fun _ => rfl) o

theorem numberless_time (o : Option Instant) : numberless (optionJson instantJson o) = true :=
  numberless_optionJson (fun _ => rfl) o

theorem numberless_channel (o : Option Channel) : numberless (optionJson Channel.toJson o) = true :=
  numberless_optionJson (fun _ => rfl) o

/-- A value whose decoder undoes its encoding is read back from its text. -/
theorem decode_write {α : Type} {d : Decoder α} {v : Json} {a : α} (plain : numberless v = true)
    (reads : d v = .ok a) : (parse? v.write).map d = some (.ok a) := by
  rw [parse?_write plain, Option.map_some, reads]

end Json

theorem Request.numberless_toJson (r : Request) : numberless r.toJson = true := by
  simp only [toJson, Status.toJson, instantJson, numberless, numberlessMembers, numberless_text,
    numberless_time, numberless_channel, Bool.and_self]

theorem Profile.numberless_toJson (p : Profile) : numberless p.toJson = true := by
  simp only [toJson, numberless, numberlessMembers, numberless_time, Bool.and_self]

theorem Notification.numberless_toJson {n : Notification} (metadata : numberless n.metadata = true) :
    numberless n.toJson = true := by
  simp only [toJson, instantJson, numberless, numberlessMembers, metadata, Bool.and_self]

theorem AuditEntry.numberless_toJson {e : AuditEntry} (metadata : numberless e.metadata = true) :
    numberless e.toJson = true := by
  simp only [toJson, instantJson, numberless, numberlessMembers, metadata, numberless_text,
    numberless_channel, Bool.and_self]

/-- There is no number in what a notification adds about its decision, and its time is that of the
decision. -/
theorem Notification.metadata_of_forDecision {r : Request} {id : Uuid} {now : Instant}
    {n : Notification} (made : forDecision r id now = some n) :
    numberless n.metadata = true ∧ n.createdAt = now := by
  unfold forDecision at made
  cases status : r.status with
  | pending =>
    rw [status] at made
    cases made
  | approved | rejected =>
    rw [status] at made
    cases made
    simp only [Status.toJson, numberless, numberlessMembers, numberless_text, Bool.and_self, and_self]

/-- There is no number in what an entry adds about its decision, and its time is that of the decision. -/
theorem AuditEntry.metadata_of_forDecision {r : Request} {id : Uuid} {now : Instant} {e : AuditEntry}
    (made : forDecision r id now = some e) : numberless e.metadata = true ∧ e.timestamp = now := by
  unfold forDecision at made
  cases status : r.status with
  | pending =>
    rw [status] at made
    cases made
  | approved | rejected =>
    rw [status] at made
    cases made
    simp only [Status.toJson, numberless, numberlessMembers, Bool.and_self, and_self]

/-- **Decoding undoes encoding** for what is stored: requests and profiles with any texts, any of the
fields that may be absent and any times of a clock, and the notification and the audit entry of any
decision. -/
theorem decoding_undoes_encoding :
    (∀ r : Request, r.Timed → (parse? r.toJson.write).map Request.decode = some (.ok r)) ∧
    (∀ p : Profile, p.Timed → (parse? p.toJson.write).map Profile.decode = some (.ok p)) ∧
    (∀ (r : Request) (id : Uuid) (now : Instant) (n : Notification), now.Valid →
      Notification.forDecision r id now = some n →
      (parse? n.toJson.write).map Notification.decode = some (.ok n)) ∧
    ∀ (r : Request) (id : Uuid) (now : Instant) (e : AuditEntry), now.Valid →
      AuditEntry.forDecision r id now = some e →
      (parse? e.toJson.write).map AuditEntry.decode = some (.ok e) := by
  refine ⟨?request, ?profile, ?notification, ?auditEntry⟩
  case request =>
    intro r timed
    exact decode_write r.numberless_toJson (Request.decode_toJson timed)
  case profile =>
    intro p timed
    exact decode_write p.numberless_toJson (Profile.decode_toJson timed)
  case notification =>
    intro r id now n valid made
    obtain ⟨metadata, createdAt⟩ := Notification.metadata_of_forDecision made
    have timed : n.createdAt.Valid := createdAt ▸ valid
    exact decode_write (Notification.numberless_toJson metadata) (Notification.decode_toJson timed)
  case auditEntry =>
    intro r id now e valid made
    obtain ⟨metadata, timestamp⟩ := AuditEntry.metadata_of_forDecision made
    have timed : e.timestamp.Valid := timestamp ▸ valid
    exact decode_write (AuditEntry.numberless_toJson metadata) (AuditEntry.decode_toJson timed)

/-- A request of Ann's with texts and times that are seldom seen: it was made before the year 0, approved
in a leap second and processed after the year 9999. -/
def annsOddRequest : Request where
  id := "r\"1\\"
  userId := ""
  userName := "Ann\n\u0001😀"
  userEmail := "ann@example.org"
  purchaseEmail := none
  proofFileUrl := some "https://h/?a=b&c"
  status := .approved
  createdAt := ⟨-62198755200, 1⟩
  approvedAt := some ⟨1483228799, 1500000000⟩
  rejectedAt := none
  processedAt := some ⟨253402300800, 120000⟩
  rejectionReason := none
  processedVia := some .panel
  approvedBy := some "root"
  rejectedBy := none

/-- The odd request, a badge that dates from the leap second, and what is recorded of the approval
then. -/
theorem annsOddRequest_is_read_back :
    annsOddRequest.Timed ∧ Profile.Timed ⟨"u1", true, some ⟨1483228799, 1500000000⟩⟩ ∧
    Instant.Valid ⟨1483228799, 1500000000⟩ ∧
    (parse? annsOddRequest.toJson.write).map Request.decode = some (.ok annsOddRequest) ∧
    (parse? (Profile.toJson ⟨"u1", true, some ⟨1483228799, 1500000000⟩⟩).write).map Profile.decode =
      some (.ok ⟨"u1", true, some ⟨1483228799, 1500000000⟩⟩) ∧
    (∃ n, Notification.forDecision annsOddRequest ⟨List.replicate 16 7, rfl⟩ ⟨1483228799, 1500000000⟩ =
        some n ∧
      (parse? n.toJson.write).map Notification.decode = some (.ok n)) ∧
    ∃ e, AuditEntry.forDecision annsOddRequest ⟨List.replicate 16 7, rfl⟩ ⟨1483228799, 1500000000⟩ =
        some e ∧
      (parse? e.toJson.write).map AuditEntry.decode = some (.ok e) := by
  have leapSecond : Instant.Valid ⟨1483228799, 1500000000⟩ := ⟨by decide, .inr (by decide)⟩
  have timed : annsOddRequest.Timed := by
    refine ⟨⟨by decide, .inl (by decide)⟩, ?_, ?_, ?_⟩
    · intro t given
      cases given
      exact leapSecond
    · intro t given
      cases given
    · intro t given
      cases given
      exact ⟨by decide, .inl (by decide)⟩
  have badge : Profile.Timed ⟨"u1", true, some ⟨1483228799, 1500000000⟩⟩ := by
    intro t given
    cases given
    exact leapSecond
  obtain ⟨request, profile, notification, entry⟩ := decoding_undoes_encoding
  refine ⟨timed, badge, leapSecond, request _ timed, profile _ badge, ⟨_, rfl, ?_⟩, ⟨_, rfl, ?_⟩⟩
  · exact notification annsOddRequest ⟨List.replicate 16 7, rfl⟩ _ _ leapSecond rfl
  · exact entry annsOddRequest ⟨List.replicate 16 7, rfl⟩ _ _ leapSecond rfl

end ApprovalDesk
