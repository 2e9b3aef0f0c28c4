import ApprovalDesk.Mail.Letters
import ApprovalDesk.Proofs.Html.Slots

/-!
# Letters that tell the secret apart

Of all letters only the one about a new request holds the token, and it holds it in its two links: two
such letters for the same request and different tokens are the same but for the addresses of the links
(`Letter.twins_newRequest`). Whether the links can be made does not depend on the token.
-/

namespace ApprovalDesk

set_option autoImplicit false

namespace Html

/-- The lines of a document around some lines of its body. -/
theorem document_around (opening : String) (head rules before after : List Line) :
    ∃ front back : List Line, front ≠ [] ∧ back ≠ [] ∧ ∀ lines,
      document opening head rules (before ++ (lines ++ after)) = front ++ (lines ++ back) := by
  refine ⟨List.flatten [
    [["<!DOCTYPE html>"], [opening], ["<head>"], ["  <meta charset=\"UTF-8\">"]],
    head, [["  <style>"]], rules, [["  </style>"], ["</head>"], ["<body>"]], before],
    List.flatten [after, [["</body>"], ["</html>"]]], List.cons_ne_nil _ _, ?_, fun lines => ?_⟩
  · simp
  · simp [document]

/-- A document is written with what comes before some of its lines, these lines, and what comes after
them. -/
theorem chars_around {front back : List Line} (before : front ≠ []) (after : back ≠ []) :
    ∃ left right : List Char, ∀ l lines,
      chars (front ++ (l :: lines ++ back)) = left ++ (chars (l :: lines) ++ right) := by
  refine ⟨written (pieces front) ++ ['\n'], '\n' :: written (pieces back), fun l lines => ?_⟩
  rw [← written_pieces, pieces_append before (by simp), pieces_append (by simp) after,
    ← written_pieces]
  simp [written, Piece.chars]

end Html

namespace Letter

open ApprovalDesk.Text Html

/-- The two lines with the links of the letter about a new request. -/
def NewRequest.linkLines (approveHref rejectHref : String) : List Line := [
  ["      <a href=\"", .text approveHref, "\" class=\"button approve\">Approve certification</a>"],
  ["      <a href=\"", .text rejectHref, "\" class=\"button reject\">Reject certification</a>"]]

/-- The body of the letter about a new request, around the lines with the links. -/
theorem NewRequest.body_around (l : NewRequest) : ∃ before after : List Line,
    ∀ approveHref rejectHref, NewRequest.body { l with approveHref, rejectHref } =
      before ++ (linkLines approveHref rejectHref ++ after) :=
  ⟨l.body.take 27, l.body.drop 29, fun _ _ => rfl⟩

/-- The letter about a new request, around the addresses of its two links. -/
theorem NewRequest.lines_around (l : NewRequest) : ∃ before between after : List Char,
    ∀ approveHref rejectHref, chars (NewRequest.lines { l with approveHref, rejectHref }) =
      before ++ (escape approveHref ++ (between ++ (escape rejectHref ++ after))) := by
  obtain ⟨upper, lower, body⟩ := l.body_around
  obtain ⟨front, back, begins, ends, whole⟩ := document_around "<html>" [] rules upper lower
  obtain ⟨left, right, written⟩ := chars_around begins ends
  refine ⟨left ++ "      <a href=\"".toList,
    "\" class=\"button approve\">Approve certification</a>\n      <a href=\"".toList,
    "\" class=\"button reject\">Reject certification</a>".toList ++ right, fun a r => ?_⟩
  rw [lines, body, whole, linkLines, written]
  simp [chars, lineChars, Piece.chars]

/-- A letter to the administrator about a new request, around the addresses of its two links. -/
def asking (s : Settings) (before between after : List Char) (links : ApprovalLinks) : Letter where
  sender := s.senderAddress
  recipient := s.adminRecipient
  subject := "New spiritual certification request"
  html := String.ofList (before ++ (escape links.approve.write ++
    (between ++ (escape links.reject.write ++ after))))

/-- Letters that go out in the same place of two runs that differ in their tokens. -/
inductive Twins (s : Settings) : Letter → Letter → Prop where
  | userDecision {r : Request} {year : Int} {l : Letter}
      (made : Letter.userDecision s r year = some l) : Twins s l l
  | adminConfirmation {r : Request} {year : Int} {l : Letter}
      (made : Letter.adminConfirmation s r year = some l) : Twins s l l
  /-- Both go to the administrator, and nothing but the addresses of the two links is different. -/
  | newRequest {r : Request} {year : Int} {token token' : String} {links links' : ApprovalLinks}
      {before between after : List Char}
      (linked : ApprovalLinks.make s.publicBaseUrl r.id token = .ok links)
      (linked' : ApprovalLinks.make s.publicBaseUrl r.id token' = .ok links')
      (made : Letter.newRequest s r token year = .ok (asking s before between after links))
      (made' : Letter.newRequest s r token' year = .ok (asking s before between after links')) :
      Twins s (asking s before between after links) (asking s before between after links')

/-- The letter about a new request depends on the token through the addresses of its links only. -/
theorem newRequest_around (s : Settings) (r : Request) (year : Int) :
    ∃ before between after : List Char, ∀ token,
      Letter.newRequest s r token year =
        ((ApprovalLinks.make s.publicBaseUrl r.id token).map
          (asking s before between after)).mapError .link := by
  obtain ⟨before, between, after, html⟩ := NewRequest.lines_around {
    userName := r.displayName
    userEmail := shown (some r.userEmail)
    purchaseEmail := shown r.purchaseEmail
    submittedAt := Time.Timestamp.writeForMail r.createdAt
    requestId := r.id
    proofHref := safeHref r.proofFileUrl
    approveHref := ""
    rejectHref := ""
    ttlDays := Decimal.intText s.ttlDays
    year := yearText year }
  dsimp only at html
  refine ⟨before, between, after, fun token => ?_⟩
  rw [Letter.newRequest]
  cases ApprovalLinks.make s.publicBaseUrl r.id token with
  | error e => rfl
  | ok links =>
    have made : ((Except.ok links : Except Url.Error ApprovalLinks).map
        (asking s before between after)).mapError MailError.link =
          .ok (asking s before between after links) := rfl
    rw [made, asking, ← html links.approve.write links.reject.write]
    rfl

/-- The letters about a new request under two tokens are twins, or neither can be made. -/
theorem twins_newRequest (s : Settings) (r : Request) (token token' : String) (year : Int) :
    (∃ e, Letter.newRequest s r token year = .error e ∧
      Letter.newRequest s r token' year = .error e) ∨
    ∃ l l', Letter.newRequest s r token year = .ok l ∧
      Letter.newRequest s r token' year = .ok l' ∧ Twins s l l' := by
  obtain ⟨before, between, after, around⟩ := newRequest_around s r year
  cases base : Url.readChars (dropEndSlashes s.publicBaseUrl.toList) with
  | error e =>
    have unmade (token : String) : Letter.newRequest s r token year = .error (.link e) := by
      rw [around, ApprovalLinks.make, base]
      rfl
    exact Or.inl ⟨.link e, unmade token, unmade token'⟩
  | ok address =>
    have made (token : String) : ∃ links,
        ApprovalLinks.make s.publicBaseUrl r.id token = .ok links ∧
          Letter.newRequest s r token year = .ok (asking s before between after links) := by
      rw [around, ApprovalLinks.make, base]
      exact ⟨_, rfl, rfl⟩
    obtain ⟨links, linked, letter⟩ := made token
    obtain ⟨links', linked', letter'⟩ := made token'
    exact Or.inr ⟨_, _, letter, letter', .newRequest linked linked' letter letter'⟩

end Letter

end ApprovalDesk
