import ApprovalDesk.Http.Pages
import ApprovalDesk.Mail.Letters
import ApprovalDesk.Proofs.Html.Slots

/-!
# No text becomes markup

Everything that the desk renders is one of five documents. Which markup a document has is told by a few
choices, such as the decision and whether a reason is shown; all that a user, an administrator or the
settings supply stands in its slots, and can be read back from there.
-/

namespace ApprovalDesk

set_option autoImplicit false

open Html Http

/-! ## The details of a message -/

namespace Http.Message

/-- The lines of details between the tags of their list. -/
def entries (details : List String) : List Line :=
  details.flatMap fun d => [["    <li>", .text d, "</li>"], ["    "]]

theorem items_eq (m : Message) :
    m.items = [.markup "  <ul>"] :: [.markup "    "] ::
      (entries m.details ++ [[.markup "  </ul>"]]) := rfl

theorem texts_entries (details : List String) : (entries details).flatMap texts = details := by
  induction details with
  | nil => rfl
  | cons d details ih => exact congrArg (d :: ·) ih

theorem blank_entries (details : List String) :
    (entries details).map blank = (entries (details.map fun _ => "")).map blank := by
  induction details with
  | nil => rfl
  | cons d details ih => exact congrArg (fun rest => _ :: _ :: rest) ih

theorem guarded_entries (details : List String) : Guarded (pieces (entries details)) := by
  induction details with
  | nil => exact Guarded.lines_nil
  | cons d details ih =>
    have own : Guarded ["    <li>", .text d, "</li>"] :=
      (Guarded.nil.markup.text (Guarded.closed_markup (by decide))).markup
    exact own.lines_cons (Guarded.nil.markup.lines_cons ih)

theorem texts_items (m : Message) : m.items.flatMap texts = m.details := by
  rw [items_eq, List.flatMap_cons, List.flatMap_cons, List.flatMap_append, texts_entries]
  exact List.append_nil m.details

theorem blank_items (m : Message) :
    m.items.map blank = (items ⟨m.tone, "", "", m.details.map fun _ => ""⟩).map blank := by
  rw [items_eq, items_eq, List.map_cons, List.map_cons, List.map_append, blank_entries]
  simp only [List.map_cons, List.map_append]

theorem guarded_items (m : Message) : Guarded (pieces m.items) := by
  have last : Guarded (pieces [["  </ul>"]]) := Guarded.nil.markup
  exact Guarded.nil.markup.lines_cons (Guarded.nil.markup.lines_cons
    ((guarded_entries m.details).lines_append last))

end Http.Message

/-! ## The five documents -/

/-- A document with what it shows. -/
inductive Document where
  | newRequest (l : Letter.NewRequest)
  | userDecision (l : Letter.UserDecision)
  | adminConfirmation (l : Letter.AdminConfirmation)
  | form (f : RejectionForm)
  | message (m : Message)

namespace Document

def lines : Document → List Line
  | newRequest l => l.lines
  | userDecision l => l.lines
  | adminConfirmation l => l.lines
  | form f => f.lines
  | message m => m.lines

/-- What stands in the slots, in the order of the document. -/
def values : Document → List String
  | newRequest l => [l.userName, l.userEmail, l.purchaseEmail, l.submittedAt, l.requestId, l.proofHref,
      l.approveHref, l.rejectHref, l.ttlDays, l.year]
  | userDecision l =>
    l.userName :: (if l.approved || l.reason.isEmpty then [l.year] else [l.reason, l.year])
  | adminConfirmation l =>
    [l.userName, l.userEmail, l.processedBy, l.method] ++
      (if l.approved || l.reason.isEmpty then [] else [l.reason]) ++
      (if l.consoleHref.isEmpty then [l.year] else [l.consoleHref, l.year])
  | form f => [f.userName, f.userEmail, f.purchaseEmail, f.action]
  | message m => m.title :: m.title :: m.message :: m.details

/-- The document with nothing in its slots. -/
def emptied : Document → Document
  | newRequest _ => .newRequest ⟨"", "", "", "", "", "", "", "", "", ""⟩
  | userDecision l => .userDecision ⟨l.approved, "", if l.reason.isEmpty then "" else " ", ""⟩
  | adminConfirmation l => .adminConfirmation ⟨l.approved, "", "", "", "",
      if l.reason.isEmpty then "" else " ", if l.consoleHref.isEmpty then "" else " ", ""⟩
  | form _ => .form ⟨"", "", "", ""⟩
  | message m => .message ⟨m.tone, "", "", m.details.map fun _ => ""⟩

/-- The values stand in the slots. -/
theorem texts_lines (d : Document) : texts (pieces d.lines) = d.values := by
  cases d with
  | newRequest l => rfl
  | userDecision l =>
    obtain ⟨approved, userName, reason, year⟩ := l
    simp only [values, lines, Letter.UserDecision.lines, Letter.UserDecision.body,
      Letter.UserDecision.rejection, linesIf]
    cases reason.isEmpty <;> cases approved <;> rfl
  | adminConfirmation l =>
    obtain ⟨approved, user, email, processedBy, method, reason, consoleHref, year⟩ := l
    simp only [values, lines, Letter.AdminConfirmation.lines, Letter.AdminConfirmation.body, linesIf]
    cases consoleHref.isEmpty <;> cases reason.isEmpty <;> cases approved <;> rfl
  | form f => rfl
  | message m =>
    rw [texts_pieces]
    simp only [lines, Message.lines, page, document, Message.content, pageRules, rule, List.flatten_cons,
      List.flatten_nil, List.cons_append, List.nil_append, List.flatMap_cons, List.flatMap_append, texts,
      List.flatMap_nil, List.append_nil, linesIf]
    have items := m.texts_items
    obtain ⟨tone, title, message, details⟩ := m
    cases details with
    | nil => rfl
    | cons d details =>
      simp only [List.isEmpty_cons, Bool.not_false, if_true, List.flatMap_append, items]
      exact congrArg (title :: title :: message :: ·) (List.append_nil _)

/-- The markup does not depend on what stands in the slots. -/
theorem blank_lines (d : Document) : blank (pieces d.lines) = blank (pieces d.emptied.lines) := by
  cases d with
  | newRequest l => rfl
  | userDecision l =>
    obtain ⟨approved, userName, reason, year⟩ := l
    simp only [emptied, lines, Letter.UserDecision.lines, Letter.UserDecision.body,
      Letter.UserDecision.rejection, linesIf]
    cases reason.isEmpty <;> cases approved <;> rfl
  | adminConfirmation l =>
    obtain ⟨approved, user, email, processedBy, method, reason, consoleHref, year⟩ := l
    simp only [emptied, lines, Letter.AdminConfirmation.lines, Letter.AdminConfirmation.body, linesIf]
    cases consoleHref.isEmpty <;> cases reason.isEmpty <;> cases approved <;> rfl
  | form f => rfl
  | message m =>
    rw [blank_pieces, blank_pieces]
    simp only [emptied, lines, Message.lines, page, document, Message.content, List.map_append,
      List.flatten_cons, List.flatten_nil, List.map_cons, List.map_nil, linesIf]
    have items := m.blank_items
    obtain ⟨tone, title, message, details⟩ := m
    cases details with
    | nil => rfl
    | cons d details =>
      simp only [List.map_cons, List.isEmpty_cons, Bool.not_false, if_true, List.map_append, items]
      rfl

/-- Every slot is followed by a delimiter. -/
theorem guarded_lines (d : Document) : Guarded (pieces d.lines) := by
  cases d
  -- The choices come first, so that only the lines are left that are there.
  case' userDecision l =>
    simp only [lines, Letter.UserDecision.lines, Letter.UserDecision.rules, Letter.UserDecision.body,
      Letter.UserDecision.approval, Letter.UserDecision.rejection, linesIf]
    cases l.reason.isEmpty <;> cases l.approved
  case' adminConfirmation l =>
    simp only [lines, Letter.AdminConfirmation.lines, Letter.AdminConfirmation.rules,
      Letter.AdminConfirmation.body, Letter.AdminConfirmation.row, linesIf]
    cases l.consoleHref.isEmpty <;> cases l.reason.isEmpty <;> cases l.approved
  case' message m =>
    simp only [lines, Message.lines, Message.content, linesIf]
    cases m.details.isEmpty
  case' newRequest l =>
    simp only [lines, Letter.NewRequest.lines, Letter.NewRequest.rules, Letter.NewRequest.body,
      Letter.NewRequest.entry, Letter.NewRequest.links]
  case' form f => simp only [lines, RejectionForm.lines, RejectionForm.content]
  all_goals
    simp only [page, document, pageRules, Letter.bodyRule, Letter.contentRule, Letter.footerRule, rule,
      List.flatten_cons, List.flatten_nil, List.cons_append, List.nil_append, List.append_nil,
      Bool.not_true, Bool.not_false, Bool.and_true, Bool.and_false, Bool.false_eq_true, if_true, if_false]
    repeat' with_reducible first
      | exact Guarded.nil
      | exact Guarded.lines_nil
      | exact Message.guarded_items _
      | refine Guarded.lines_open ?_ ?_
      | refine Guarded.lines_wrapped ?_ ?_
      | refine Guarded.lines_cons ?_ ?_
      | refine Guarded.lines_append ?_ ?_
      | refine Guarded.markup ?_
      | refine Guarded.text ?_ ?_
      | refine Guarded.closed_left ?_
      | refine Guarded.closed_markup ?_
  all_goals decide +kernel

end Document

/-! ## What is rendered -/

/-- All that is rendered as HTML, with all that it is made from. -/
inductive Rendering where
  | newRequest (s : Settings) (r : Request) (token : String) (year : Int)
  | userDecision (s : Settings) (r : Request) (year : Int)
  | adminConfirmation (s : Settings) (r : Request) (year : Int)
  | form (r : Request) (token : String)
  | failure (e : Failure)
  | alreadyProcessed (requestId : String) (status : Status)
  | outcome (requestId : String) (outcome : Workflow.Outcome)

/-- The choices that tell which markup there is. -/
inductive Branch where
  | newRequest
  | userDecision (status : Status) (noReason : Bool)
  | adminConfirmation (status : Status) (noReason noConsole : Bool)
  | form
  /-- All failures are shown with the same markup. -/
  | failure
  | alreadyProcessed (status : Status)
  | processed (status : Status)
  deriving DecidableEq, Repr

/-- A document with the markup of a branch. -/
def Branch.document : Branch → Document
  | newRequest => .newRequest ⟨"", "", "", "", "", "", "", "", "", ""⟩
  | userDecision status noReason =>
    .userDecision ⟨status == .approved, "", if noReason then "" else " ", ""⟩
  | adminConfirmation status noReason noConsole =>
    .adminConfirmation ⟨status == .approved, "", "", "", "", if noReason then "" else " ",
      if noConsole then "" else " ", ""⟩
  | form => .form ⟨"", "", "", ""⟩
  | failure => .message ⟨.error, "", "", []⟩
  | alreadyProcessed status => .message ⟨if status = .approved then .success else .warning, "", "", []⟩
  | processed status =>
    .message (if status = .approved then ⟨.success, "", "", ["", "", ""]⟩
      else ⟨.warning, "", "", ["", "", "", ""]⟩)

/-- The markup of a branch with its slots. -/
def Branch.template (b : Branch) : List Piece := blank (pieces b.document.lines)

namespace Rendering

/-- The HTML text, if there is one. -/
def html : Rendering → Option String
  | newRequest s r token year => (Letter.newRequest s r token year).toOption.map (·.html)
  | userDecision s r year => (Letter.userDecision s r year).map (·.html)
  | adminConfirmation s r year => (Letter.adminConfirmation s r year).map (·.html)
  | form r token => some (RejectionForm.of r token).write
  | failure e => some (respondFailure e .html).body
  | alreadyProcessed requestId status => some (respondAlreadyProcessed requestId status .html).body
  | outcome requestId o => some (respondOutcome requestId o .html).body

def branch : Rendering → Branch
  | newRequest .. => .newRequest
  | userDecision _ r _ => .userDecision r.status (r.rejectionReason.getD "").isEmpty
  | adminConfirmation s r _ =>
    .adminConfirmation r.status (r.rejectionReason.getD "").isEmpty ((s.consoleLink r.id).getD "").isEmpty
  | form .. => .form
  | failure _ => .failure
  | alreadyProcessed _ status | outcome _ (.alreadyProcessed status) => .alreadyProcessed status
  | outcome _ (.processed r) => .processed r.status

/-- A text that is left out where it is empty. -/
def ifGiven (s : String) : List String := if s.isEmpty then [] else [s]

/-- The reason that is shown with a decision. -/
def reason (r : Request) : List String :=
  if r.status = .approved then [] else ifGiven (r.rejectionReason.getD "")

/-- What the page with a message shows. -/
def messageValues (m : Message) : List String := m.title :: m.title :: m.message :: m.details

/-- What stands in the slots, in the order of the text. -/
def values : Rendering → List String
  | newRequest s r token year =>
    match ApprovalLinks.make s.publicBaseUrl r.id token with
    | .error _ => []
    | .ok links => [r.displayName, Letter.shown (some r.userEmail), Letter.shown r.purchaseEmail,
        Time.Timestamp.writeForMail r.createdAt, r.id, safeHref r.proofFileUrl, links.approve.write,
        links.reject.write, Text.Decimal.intText s.ttlDays, Letter.yearText year]
  | userDecision _ r year => r.displayName :: (reason r ++ [Letter.yearText year])
  | adminConfirmation s r year =>
    [r.displayName, r.userEmail, Letter.shown r.processedBy, r.processedVia.elim "unknown" Channel.describe] ++
      (reason r ++ (ifGiven ((s.consoleLink r.id).getD "") ++ [Letter.yearText year]))
  | form r token =>
    [r.displayName, r.userEmail, r.purchaseEmail.getD Request.notProvided, (RejectionForm.of r token).action]
  | failure e => [e.title, e.title, e.publicMessage]
  | alreadyProcessed _ status | outcome _ (.alreadyProcessed status) =>
    ["Request already processed", "Request already processed", alreadyProcessedText status]
  | outcome _ (.processed r) =>
    messageValues (if r.status = .approved then approvalPage r else rejectionPage r)

/-- What is rendered is a document with the markup of the branch and the values in its slots. -/
theorem exists_document {a : Rendering} {h : String} (shown : a.html = some h) :
    ∃ d : Document, h = write d.lines ∧ d.emptied = a.branch.document.emptied ∧ d.values = a.values := by
  cases a with
  | newRequest s r token year =>
    simp only [html, Letter.newRequest] at shown
    cases made : ApprovalLinks.make s.publicBaseUrl r.id token with
    | error e =>
      rw [made] at shown
      cases shown
    | ok links =>
      simp only [made, Except.toOption, Option.map_some, Option.some.injEq] at shown
      refine ⟨.newRequest _, shown.symm, ?_, ?_⟩
      · simp only [branch, Branch.document, Document.emptied]
      · simp only [values, made, Document.values]
  | userDecision s r year =>
    simp only [html, Letter.userDecision] at shown
    split at shown
    · cases shown
    refine ⟨.userDecision _, (Option.some.inj shown).symm, ?_, ?_⟩
    · simp only [branch, Branch.document, Document.emptied]
      cases (r.rejectionReason.getD "").isEmpty <;> rfl
    · simp only [values, reason, ifGiven, Document.values]
      by_cases approved : r.status = .approved <;> cases (r.rejectionReason.getD "").isEmpty <;>
        simp [approved]
  | adminConfirmation s r year =>
    simp only [html, Letter.adminConfirmation] at shown
    split at shown
    · cases shown
    refine ⟨.adminConfirmation _, (Option.some.inj shown).symm, ?_, ?_⟩
    · simp only [branch, Branch.document, Document.emptied]
      cases (r.rejectionReason.getD "").isEmpty <;> cases ((s.consoleLink r.id).getD "").isEmpty <;> rfl
    · simp only [values, reason, ifGiven, Document.values]
      by_cases approved : r.status = .approved <;> cases (r.rejectionReason.getD "").isEmpty <;>
        cases ((s.consoleLink r.id).getD "").isEmpty <;> simp [approved]
  | form r token =>
    refine ⟨.form (RejectionForm.of r token), (Option.some.inj shown).symm, ?_, ?_⟩
    · simp only [branch, Branch.document, Document.emptied]
    · simp only [values, Document.values, RejectionForm.of]
  | failure e =>
    refine ⟨.message (failurePage e), (Option.some.inj shown).symm, ?_, ?_⟩
    · simp only [branch, Branch.document, Document.emptied, failurePage, List.map_nil]
    · simp only [values, Document.values, failurePage]
  | alreadyProcessed id status =>
    refine ⟨.message (alreadyProcessedPage status), (Option.some.inj shown).symm, ?_, ?_⟩
    · simp only [branch, Branch.document, Document.emptied, alreadyProcessedPage, List.map_nil]
    · rfl
  | outcome id o =>
    cases o with
    | alreadyProcessed status =>
      refine ⟨.message (alreadyProcessedPage status), (Option.some.inj shown).symm, ?_, ?_⟩
      · simp only [branch, Branch.document, Document.emptied, alreadyProcessedPage, List.map_nil]
      · rfl
    | processed r =>
      refine ⟨.message (if r.status = .approved then approvalPage r else rejectionPage r),
        (Option.some.inj shown).symm, ?_, ?_⟩
      · simp only [branch, Branch.document]
        split <;> rfl
      · simp only [values, Document.values, messageValues]

end Rendering

/-- **No text becomes markup.** What is rendered with the same choices has the same delimiters, and every
text can be read back from its slot, so what is rendered alike shows the same. -/
theorem no_text_becomes_markup {a b : Rendering} {h k : String} (same : a.branch = b.branch)
    (shown : a.html = some h) (shown' : b.html = some k) :
    delimiters h.toList = delimiters k.toList ∧ readSlots a.branch.template h.toList = a.values ∧
      (h = k → a.values = b.values) := by
  have parts {a : Rendering} {h : String} (shown : a.html = some h) :
      delimiters h.toList = delimiters (written a.branch.template) ∧
        readSlots a.branch.template h.toList = a.values := by
    obtain ⟨d, rfl, emptied, values⟩ := Rendering.exists_document shown
    have template : blank (pieces d.lines) = a.branch.template := by
      rw [Document.blank_lines, emptied, ← Document.blank_lines, Branch.template]
    rw [write, String.toList_ofList, ← written_pieces, ← template, delimiters_blank, readSlots_blank,
      readSlots_written d.guarded_lines, d.texts_lines, values]
    exact ⟨rfl, rfl⟩
  obtain ⟨delimited, read⟩ := parts shown
  obtain ⟨delimited', read'⟩ := parts shown'
  refine ⟨?_, read, ?_⟩
  · rw [delimited, delimited', same]
  · rintro rfl
    rw [← read, ← read', same]

/-- A request of a user with a name like markup, rejected for a reason. -/
def rejectedFor (reason : String) : Request :=
  { Request.new "r1" ⟨"u1", "<b>Ann</b>", "ann@example.org", none, none⟩ ⟨0, 0⟩ with
    status := .rejected, rejectionReason := some reason }

/-- The settings of a desk without a console. -/
def plainSettings : Settings := ⟨"desk@example.org", "admin@example.org", 604800000, "https://h", none⟩

theorem markup_in_reason_is_text : ∃ h k,
    (Rendering.userDecision plainSettings (rejectedFor "<script>\"x\"</script>") 2025).html = some h ∧
    (Rendering.userDecision plainSettings (rejectedFor "Too blurred") 2025).html = some k ∧
    delimiters h.toList = delimiters k.toList ∧
    readSlots (Branch.userDecision .rejected false).template h.toList =
      ["<b>Ann</b>", "<script>\"x\"</script>", "2025"] ∧ h ≠ k := by
  have branch (reason : String) (given : reason.isEmpty = false) :
      (Rendering.userDecision plainSettings (rejectedFor reason) 2025).branch =
        .userDecision .rejected false := congrArg (Branch.userDecision .rejected) given
  have first := branch "<script>\"x\"</script>" (by decide)
  have second := branch "Too blurred" (by decide)
  obtain ⟨delimited, read, alike⟩ := no_text_becomes_markup (first.trans second.symm) rfl rfl
  rw [first] at read
  refine ⟨_, _, rfl, rfl, delimited, read.trans (by decide +kernel), fun equal => ?_⟩
  exact absurd (alike equal) (by decide +kernel)

end ApprovalDesk
